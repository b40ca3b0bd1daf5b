import Nodelet.Reconcile.Runs

/-! What the reported snapshots say about completed phases. A snapshot that shows
the service as running lists every phase as completed, as long as no stop chain
ends early before a restart: that end leaves the service state behind. -/
namespace Nodelet
open Constants

/-- A running service has every phase completed and no failed start. -/
def View.Consistent (view : View) : Prop :=
  view.control.serviceState = serviceStateTrue →
    view.completedPhases = view.allPhases ∧ view.control.startFailStep = -1

/-- What the event passes on is consistent. -/
def Event.Consistent : Event → Prop
  | .persist snapshot | .write snapshot | .update snapshot | .exchange snapshot =>
    snapshot.view.Consistent
  | _ => True

theorem View.consistent_of_stopped {view : View}
    (stopped : view.control.serviceState ≠ serviceStateTrue) : view.Consistent :=
  fun running => absurd running stopped

theorem Event.Reports.consistent {e : Event} (report : e.Reports cfg view)
    (consistent : view.Consistent) : e.Consistent := by
  obtain ⟨snapshot, rfl, rfl | rfl | rfl | rfl⟩ := report.snapshot <;> exact consistent

/-- Stop chains of a restart never end early: the certificates are the first phase
alone, and a full retry on the first attempt has nothing to keep. -/
def CertsNeverKept (phases : List Phase) (cfg : Config) : Prop :=
  CertsOnlyFirst phases ∧ (cfg.fullRetryCount ≠ 1 ∨ phases.length = 1 ∨
    ∀ phase, phases[0]? = some phase → phase.order ≠ genCertsPhaseOrder)

/-- Between two `Reconcile`s: what a running service implies. -/
structure Settled (phases : List Phase) (s : State W) : Prop where
  sound : Sound phases s
  attempts : s.data.serviceState = serviceStateTrue → s.data.startAttempts = 0
  completed : s.data.serviceState = serviceStateTrue →
    s.data.startFailStep = -1 ∧
      s.data.completedPhases = { s.data.allPhases with length := phases.length }

theorem Tracks.read_all (tracks : Tracks phases s)
    (all : s.data.completedPhases = { s.data.allPhases with length := phases.length }) :
    s.heap.read s.data.completedPhases = s.heap.read s.data.allPhases := by
  rw [all, ← tracks.length]

theorem Settled.consistent (settled : Settled phases s) : s.view.Consistent := by
  intro running
  obtain ⟨step, all⟩ := settled.completed running
  exact ⟨settled.sound.tracks.read_all all, step⟩

theorem StopCall.consistent (call : StopCall phases k c e) : e.Consistent := by
  obtain ⟨_, _, _, rfl, _⟩ := call
  trivial

theorem RestartRun.consistent
    (run : RestartRun env cfg phases k s t middle result stops reports starts)
    (stopped : middle.serviceState ≠ serviceStateTrue) :
    ∀ e ∈ stops ++ reports ++ starts, e.Consistent := by
  intro e member
  rcases List.mem_append.mp member with early | inStarts
  · rcases List.mem_append.mp early with inStops | inReports
    · exact (run.calls e inStops).consistent
    · obtain ⟨_, _, report⟩ := run.reported e inReports
      exact report.consistent (View.consistent_of_stopped stopped)
  · cases run.shown e inStarts with
    | started | failed => trivial
    | reported m report => exact report.consistent (View.consistent_of_stopped stopped)

theorem RestartRun.settled
    (run : RestartRun env cfg phases k s t middle result stops reports starts) :
    Settled phases t := by
  have control := run.control
  unfold Control.started at control
  rcases run.climb.outcome with ⟨ok, all⟩ | ⟨err, failed, _⟩
  · rw [ok] at control
    refine ⟨⟨run.first.tracks, run.bounded⟩, fun _ =>
      congrArg Control.startAttempts control, fun _ => ?_⟩
    exact ⟨congrArg Control.startFailStep control, all ▸ run.first.first⟩
  · rw [failed] at control
    have stopped : t.data.serviceState = serviceStateFalse := congrArg Control.serviceState control
    refine ⟨⟨run.first.tracks, run.bounded⟩, fun running => ?_, fun running => ?_⟩ <;>
      exact absurd (stopped.symm.trans running) (by decide)

theorem StatusRun.stop_recorded {k : Nat}
    (run : StatusRun env cfg phases.length s m checks reports call) (settled : Settled phases s)
    (nonempty : phases ≠ []) (never : CertsNeverKept phases cfg) (positive : 1 ≤ cfg.fullRetryCount)
    (index : (k : Int) = m.data.control.attempt.restartIndex cfg)
    (outcome : StopOutcome phases k m.data.control.attempt stops middle) :
    middle.serviceState ≠ serviceStateTrue := by
  obtain ⟨_, _, _, frame⟩ := run.outcome.frame
  cases outcome with
  | finished =>
    rw [Control.stopped_serviceState]
    decide
  | @skipped i phase above found keeps =>
    intro running
    obtain ⟨_, order, other⟩ := keeps
    have first : i = 0 := never.1 i phase found order
    subst first
    have state : s.data.serviceState = serviceStateTrue :=
      (congrArg Control.serviceState frame).symm.trans running
    have attempts : m.data.control.startAttempts = 0 :=
      (congrArg Control.startAttempts frame).trans (settled.attempts state)
    have later : m.data.control.failedStatusCheck ≠ 0 := other
    obtain ⟨least, most⟩ := run.outcome.failedStatusCheck settled.sound.bounded
      (List.length_pos_iff.mpr nonempty)
    rcases never.2 with several | single | notCerts
    · have remainder : m.data.control.attempt.startAttempts.tmod cfg.fullRetryCount ≠ 0 := by
        have once : m.data.control.attempt.startAttempts = 1 := by
          simp only [Control.attempt, attempts]
          rfl
        rw [once, Int.tmod_eq_of_lt (by decide) (by omega)]
        decide
      rw [Control.restartIndex, if_neg remainder] at index
      have chosen : (k : Int) = m.data.control.failedStatusCheck := index
      omega
    · omega
    · exact notCerts phase found order

section Step
variable {W : Type} {env : Env W} {cfg : Config} {phases : List Phase} {s m h t : State W}
  {checks reports events final : List Event} {call : StatusCall}

theorem Settled.frame (settled : Settled phases s) (sound : Sound phases t)
    (state : t.data.serviceState = s.data.serviceState)
    (attempts : t.data.startAttempts = s.data.startAttempts)
    (step : t.data.startFailStep = s.data.startFailStep) (all : t.data.allPhases = s.data.allPhases)
    (completed : t.data.completedPhases = s.data.completedPhases) : Settled phases t where
  sound := sound
  attempts running := attempts.trans (settled.attempts (state.symm.trans running))
  completed running := by
    rw [step, completed, all]
    exact settled.completed (state.symm.trans running)

theorem StatusRun.settled (run : StatusRun env cfg phases.length s m checks reports call)
    (settled : Settled phases s) : Settled phases m := by
  obtain ⟨_, _, _, frame⟩ := run.outcome.frame
  exact settled.frame (run.sound settled.sound) (congrArg Control.serviceState frame)
    (congrArg Control.startAttempts frame) (congrArg Control.startFailStep frame)
    (congrArg Control.allPhases frame) run.completed

theorem HandlerRun.settled (run : HandlerRun env cfg phases m h events)
    (status : StatusRun env cfg phases.length s m checks reports call) (settled : Settled phases s)
    (nonempty : phases ≠ []) (never : CertsNeverKept phases cfg)
    (positive : 1 ≤ cfg.fullRetryCount) : Settled phases h ∧ ∀ e ∈ events, e.Consistent := by
  have settledM := status.settled settled
  have sound := run.sound settledM.sound
  cases run with
  | idle => exact ⟨settledM.frame sound rfl rfl rfl rfl rfl, by simp⟩
  | confirmed expected running control completed reported advances =>
    have all : h.data.completedPhases = { h.data.allPhases with length := phases.length } := by
      rw [completed, ← sound.tracks.length]
    have settledH : Settled phases h :=
      ⟨sound, fun _ => congrArg Control.startAttempts control,
        fun _ => ⟨congrArg Control.startFailStep control, all⟩⟩
    exact ⟨settledH, fun e member => (reported e member).consistent settledH.consistent⟩
  | restarted expected notRunning index run persisted =>
    have stopped := status.stop_recorded settled nonempty never positive index run.outcome
    have settledH := run.settled.frame sound (congrArg Control.serviceState persisted.control)
      (congrArg Control.startAttempts persisted.control) (congrArg Control.startFailStep persisted.control)
      (congrArg Control.allPhases persisted.control) persisted.completed
    refine ⟨settledH, List.forall_mem_append.mpr ⟨run.consistent stopped, fun e member => ?_⟩⟩
    exact (persisted.reported e member).consistent run.settled.consistent
  | @stopped t stops stopReports expected running run =>
    have stopped : t.data.serviceState ≠ serviceStateTrue := by
      rw [show t.data.serviceState = _ from congrArg Control.serviceState (run.outcome.of_stopping rfl),
        Control.stopped_serviceState]
      decide
    refine ⟨⟨sound, fun running => absurd running stopped, fun running => absurd running stopped⟩,
      List.forall_mem_append.mpr ⟨fun e member => (run.calls e member).consistent, fun e member => ?_⟩⟩
    exact (run.reported e member).consistent (View.consistent_of_stopped stopped)

theorem ReconcileRun.settled
    (run : ReconcileRun env cfg phases s m h t checks reports call events final)
    (settled : Settled phases s) (nonempty : phases ≠ []) (never : CertsNeverKept phases cfg)
    (positive : 1 ≤ cfg.fullRetryCount) :
    Settled phases t ∧
      ∀ e ∈ checks ++ reports ++ [.statusCall call] ++ events ++ final, e.Consistent := by
  obtain ⟨settledH, handled⟩ := run.handler.settled run.status settled nonempty never positive
  have control := run.concluded.control
  have settledT :=
    settledH.frame (run.concluded.sound settledH.sound) (congrArg Control.serviceState control)
    (congrArg Control.startAttempts control) (congrArg Control.startFailStep control)
    (congrArg Control.allPhases control) run.concluded.completed
  refine ⟨settledT, ?_⟩
  simp only [List.forall_mem_append, List.forall_mem_singleton]
  refine ⟨⟨⟨⟨fun e member => ?_, fun e member => ?_⟩, trivial⟩, handled⟩, fun e member => ?_⟩
  · obtain ⟨_, _, rfl⟩ := run.status.outcome.is_status member
    trivial
  · exact (run.status.reported e member).consistent settled.consistent
  · exact (run.concluded.reported e member).consistent settledH.consistent

end Step

/-- In every run whose stop chains never end early, every snapshot that is reported
with a running service lists all phases as completed and no failed start. -/
theorem reported_consistent {calls : Calls W} (nonempty : phases ≠ [])
    (constructed : initial calls.env cfg₀ phases file w = .ok s₀)
    (positive : ∀ cfg ∈ cfgs, 1 ≤ cfg.fullRetryCount)
    (never : ∀ cfg ∈ cfgs, CertsNeverKept phases cfg)
    (run : Go.execute (reconcileStep calls.env phases) cfgs s₀ = .ok s) :
    ∀ e ∈ s.trace, e.Consistent := by
  have start := initial_spec constructed
  have stopped : s₀.data.serviceState ≠ serviceStateTrue := by
    rw [start.serviceState]
    decide
  refine calls.run_safe (P := Settled phases) nonempty ?_ start
    ⟨start.sound, fun running => absurd running stopped, fun running => absurd running stopped⟩ run
  intro cfg member s m h t checks reports call events final _ settled step
  exact step.settled settled nonempty (never cfg member) (positive cfg member)

theorem reported_consistent_default : ∃ s₀ s,
    initial secondDown.env startConfig certsAndKubeconfig (.object {}) () = .ok s₀ ∧
    Go.execute (reconcileStep secondDown.env certsAndKubeconfig) [startConfig, startConfig] s₀ =
    .ok s ∧ ∀ e ∈ s.trace, e.Consistent := by
  obtain ⟨s₀, s, constructed, run, -⟩ :=
    secondDown.run_observed certsAndKubeconfig startConfig (.object {}) ()
    [startConfig, startConfig] (fun _ _ => ()) () (by decide +kernel)
  refine ⟨s₀, s, constructed, run, reported_consistent (by decide) constructed ?_ ?_ run⟩
  · simpa using by decide
  · have only : CertsOnlyFirst certsAndKubeconfig := .of_ordered (by decide) rfl
    simpa using ⟨only, .inl (by decide)⟩

def Event.persisted : Event → Option Snapshot
  | .persist snapshot => some snapshot
  | _ => none

/-- Every start is a full retry. -/
def alwaysFullRetry : Config := { startConfig with fullRetryCount := 1 }

/-- The second phase goes down while the service runs. The full retry keeps the
certificates, the stop chain ends before it records anything, and the start that
follows reports a running service with no completed phase. -/
theorem reported_running_without_completed : ∃ s₀ s snapshot,
    initial secondDown.env alwaysFullRetry certsAndKubeconfig (.object {}) () = .ok s₀ ∧
    Go.execute (reconcileStep secondDown.env certsAndKubeconfig) [alwaysFullRetry, alwaysFullRetry]
    s₀ = .ok s ∧ .persist snapshot ∈ s.trace ∧ snapshot.data.serviceState = serviceStateTrue ∧
    snapshot.completedPhases = [] ∧ snapshot.allPhases.length = 2 := by
  obtain ⟨s₀, s, constructed, run, seen⟩ :=
    secondDown.run_observed certsAndKubeconfig alwaysFullRetry
    (.object {}) () [alwaysFullRetry, alwaysFullRetry]
    (fun _ s => (s.trace.filterMap Event.persisted).any fun snapshot =>
      snapshot.data.serviceState = serviceStateTrue ∧ snapshot.completedPhases = [] ∧
        snapshot.allPhases.length = 2) true (by decide +kernel)
  obtain ⟨snapshot, member, empty⟩ := List.any_eq_true.mp seen
  obtain ⟨e, inTrace, same⟩ := List.mem_filterMap.mp member
  cases e with
  | persist snapshot =>
    cases same
    exact ⟨s₀, s, _, constructed, run, inTrace, of_decide_eq_true empty⟩
  | _ => contradiction

end Nodelet
