import Nodelet.Reconcile.Status
import Nodelet.Reconcile.Start

/-! One `Reconcile` as a whole: what the status chain concluded, what the handler
of the expected state then did, and the final report. -/
namespace Nodelet
open Constants
open Go (Returns)

namespace Control

/-- One more attempt to start the service. -/
def attempt (c : Control) : Control :=
  { c with operation := .start, startAttempts := Go.wrapInt64 (c.startAttempts + 1) }

/-- The phase an attempt restarts from: the first one on every full retry. -/
def restartIndex (cfg : Config) (c : Control) : Int :=
  if c.startAttempts.tmod cfg.fullRetryCount = 0 then 0 else c.failedStatusCheck

def assign (cfg : Config) (c : Control) : Control :=
  { c with clusterID := cfg.clusterID, clusterRole := cfg.clusterRole }

/-- What the start chain's result makes of the service. -/
def started (c : Control) (result : Nat × Option Go.Error) : Control :=
  match result.2 with
  | some _ => { c with serviceState := serviceStateFalse, startFailStep := result.1 }
  | none => { c with startAttempts := 0, serviceState := serviceStateTrue, startFailStep := -1 }

/-- The service was found running. -/
def confirmed (c : Control) : Control :=
  { c with operation := .start, startAttempts := 0, serviceState := serviceStateTrue, startFailStep := -1 }

/-- The service has to be restarted. -/
def restarts (cfg : Config) (c : Control) : Prop :=
  cfg.kubeServiceState = serviceStateTrue ∧ cfg.disableScripts = false ∧ ¬ c.alreadyRunning cfg

/-- The service has to be stopped. -/
def stops (cfg : Config) (c : Control) : Prop :=
  cfg.kubeServiceState = serviceStateFalse ∧ cfg.disableScripts = false ∧ c.kubeRunning = true

/-- After the status chain: what has to be done has a phase to begin with, and a
restart a number of attempts to divide by. -/
structure Ready (cfg : Config) (phases : List Phase) (c : Control) : Prop where
  restart : c.restarts cfg → phases ≠ [] ∧ cfg.fullRetryCount ≠ 0
  stop : c.stops cfg → phases ≠ []

/-- A failed start names a phase. -/
def Bounded (count : Nat) (c : Control) : Prop :=
  c.startFailStep = -1 ∨ 0 ≤ c.startFailStep ∧ c.startFailStep < count

end Control

/-- `Status` decides these four fields and no other. -/
theorem StatusOutcome.frame (outcome : StatusOutcome cfg count c checks call c') :
    ∃ running failed last, c' = { c with
      operation := .status
      kubeRunning := running
      failedStatusCheck := failed
      lastSuccessfulStatus := last } := by
  cases outcome with
  | incomplete => exact ⟨_, _, _, rfl⟩
  | complete step checked now =>
    unfold Control.settle
    split
    · exact ⟨_, _, _, rfl⟩
    · split_ifs <;> exact ⟨_, _, _, rfl⟩

theorem StatusOutcome.is_status (outcome : StatusOutcome cfg count c checks call c')
    (member : e ∈ checks) : ∃ j err, e = .status j err := by
  cases outcome with
  | incomplete => contradiction
  | complete step checked now => exact checked.is_status member

theorem StatusOutcome.of_incomplete (outcome : StatusOutcome cfg count c checks call c')
    (step : c.startFailStep ≠ -1) :
    checks = [] ∧ c' = { c.beginStatus with failedStatusCheck := c.startFailStep } := by
  cases outcome with
  | incomplete => exact ⟨rfl, rfl⟩
  | complete complete => exact absurd complete step

theorem StatusOutcome.of_unexpected (outcome : StatusOutcome cfg count c checks call c')
    (step : c.startFailStep = -1) (stopped : c.serviceState ≠ serviceStateTrue) :
    c'.failedStatusCheck = 0 := by
  cases outcome with
  | incomplete incomplete => exact absurd step incomplete
  | @complete failed _ _ _ now =>
    cases failed with
    | none => rfl
    | some i => rw [Control.settle_unexpected c.beginStatus stopped]

/-- After `Status` the failed check is the index of a phase. -/
theorem StatusOutcome.failedStatusCheck (outcome : StatusOutcome cfg count c checks call c')
    (bounded : c.Bounded count) (nonempty : 0 < count) :
    0 ≤ c'.failedStatusCheck ∧ c'.failedStatusCheck < count := by
  cases outcome with
  | incomplete step now =>
    exact bounded.resolve_left step
  | complete step checked now =>
    cases checked with
    | disabled => exact ⟨Int.le_refl _, by simpa [Control.settle] using nonempty⟩
    | passed => exact ⟨Int.le_refl _, by simpa [Control.settle] using nonempty⟩
    | failed scripts inside err =>
      simp only [Control.settle]
      split_ifs <;> simp <;> omega

/-- A report that shows these decisions, all phases and their first ones as completed. -/
def Event.Shows (cfg : Config) (phases : List Phase) (c : Control) (e : Event) : Prop :=
  ∃ completed, completed <+: phases.map Phase.name ∧
    e.Reports cfg ⟨c, phases.map Phase.name, completed⟩

theorem Tracks.shows {e : Event} (tracks : Tracks phases s) (control : s.data.control = c)
    (reports : e.Reports cfg s.view) : e.Shows cfg phases c := by
  refine ⟨_, tracks.completed_isPrefix, ?_⟩
  rw [← control, ← tracks.names]
  exact reports

/-- The restart from phase `k`: `middle` are the decisions after the stop chain. -/
structure RestartRun (env : Env W) (cfg : Config) (phases : List Phase) (k : Nat) (s t : State W)
    (middle : Control) (result : Nat × Option Go.Error) (stops reports starts : List Event) :
    Prop where
  chain : ∃ result, StopChain phases k false s.data.control phases.length stops result
  outcome : StopOutcome phases k s.data.control stops middle
  reported : ∀ e ∈ reports, e.Shows cfg phases middle
  shown : ∀ e ∈ starts, StartEvent cfg phases k (middle.assign cfg) result e
  climb : Climb phases.length k (phaseCalls starts) result
  control : t.data.control = (middle.assign cfg).started result
  first : TracksFirst phases result.1 t
  advances : Advances env.Step s t (stops ++ reports ++ starts)

def State.attempt (s : State W) : State W :=
  { s with data := { s.data with operation := .start, startAttempts := Go.wrapInt64 (s.data.startAttempts + 1) } }

/-- What the handler of the expected service state did. -/
inductive HandlerRun (env : Env W) (cfg : Config) (phases : List Phase) (s : State W) :
    State W → List Event → Prop where
  | idle (why : cfg.disableScripts = true ∨
        cfg.kubeServiceState = serviceStateFalse ∧ s.data.kubeRunning = false ∨
        cfg.kubeServiceState ≠ serviceStateTrue ∧ cfg.kubeServiceState ≠ serviceStateFalse)
      (operation : Operation) :
      HandlerRun env cfg phases s { s with data := { s.data with operation := operation } } []
  | confirmed (expected : cfg.kubeServiceState = serviceStateTrue)
      (running : s.data.control.alreadyRunning cfg)
      (control : t.data.control = s.data.control.confirmed)
      (completed : t.data.completedPhases = t.data.allPhases)
      (reported : ∀ e ∈ reports, e.Reports cfg t.view)
      (advances : Advances env.Step s t reports) : HandlerRun env cfg phases s t reports
  | restarted {k : Nat} (expected : cfg.kubeServiceState = serviceStateTrue)
      (notRunning : ¬ s.data.control.alreadyRunning cfg)
      (index : (k : Int) = s.data.control.attempt.restartIndex cfg)
      (run : RestartRun env cfg phases k s.attempt t middle result stops reports starts)
      (persisted : Persisted env cfg t u final) :
      HandlerRun env cfg phases s u (stops ++ reports ++ starts ++ final)
  | stopped (expected : cfg.kubeServiceState = serviceStateFalse)
    (running : s.data.kubeRunning = true)
      (run : StopRun env cfg phases 0 false { s with data := { s.data with operation := .stop } } t stops reports) :
      HandlerRun env cfg phases s { t with data := { t.data with startFailStep := -1 } } (stops ++ reports)

theorem RestartRun.calls
    (run : RestartRun env cfg phases k s t middle result stops reports starts) :
    ∀ e ∈ stops, StopCall phases k s.data.control e := by
  obtain ⟨_, chain⟩ := run.chain
  exact chain.call

theorem restart_panics (env : Env W) (phases : List Phase) (zero : cfg.fullRetryCount = 0)
    (failedCheck : Int)
    (s : State W) :
    restart env cfg phases failedCheck s = .error (.panic .integerDivideByZero) := by
  unfold restart Go.remainder
  rw [zero]
  rfl

/-- A handler that restarted the service and returned had a number of attempts to divide by. -/
theorem handleServiceStartState_retries
    (returned : handleServiceStartState env cfg phases s = .ok ((), t))
    (restarts : s.data.control.restarts cfg) : cfg.fullRetryCount ≠ 0 := by
  intro zero
  obtain ⟨_, enabled, notRunning⟩ := restarts
  unfold handleServiceStartState at returned
  rw [enabled] at returned
  have chosen : (do
      restart env cfg phases s.data.failedStatusCheck
      tryToPersistStatus env cfg) { s with data := { s.data with operation := .start } } = .ok ((), t) := by
    rw [← returned]
    exact (congrFun (if_neg notRunning) _).symm
  obtain ⟨_, restarted, _⟩ := Go.bind_ok chosen
  rw [restart_panics env phases zero] at restarted
  contradiction

section Specs
variable {W : Type} {env : Env W} (cfg : Config) (phases : List Phase)
  (returning : env.Returning cfg phases.length)

include returning in
theorem restartFrom_spec (k : Nat) (s : State W) (tracks : Tracks phases s)
    (inside : k < phases.length) :
    Returns (restartFrom env cfg phases k) s fun _ t => ∃ middle result stops reports starts,
      RestartRun env cfg phases k s t middle result stops reports starts := by
  unfold restartFrom
  refine (stop_spec cfg phases returning false s tracks inside).bind ?_
  rintro _ t ⟨stops, reports, stopped⟩
  apply returns_modifyData_bind
  have assigned : Tracks phases
      { t with data := { t.data with clusterID := cfg.clusterID, clusterRole := cfg.clusterRole } } :=
    stopped.tracks.frame rfl rfl rfl
  refine (start_spec cfg phases returning k _ assigned inside).bind ?_
  rintro ⟨failedStep, err⟩ u ⟨starts, started⟩
  have first := started.tracksFirst assigned
  have advances := stopped.advances.trans started.advances.of_data
  have reported : ∀ e ∈ reports, e.Shows cfg phases t.data.control :=
    fun e member => stopped.tracks.shows rfl (stopped.reported e member)
  cases err with
  | some err =>
    obtain ⟨_, _, below, _⟩ := started.climb.outcome.resolve_left (by simp)
    refine Returns.lift_bind (Go.index_eq below) ?_
    refine returns_modifyData ⟨t.data.control, (failedStep, some err), stops, reports, starts,
      stopped.chain,
      stopped.outcome, reported, started.shown, started.climb, ?_, first.frame rfl rfl rfl, advances.data _⟩
    exact congrArg (Control.started · (failedStep, some err)) started.control
  | none =>
    refine returns_modifyData ⟨t.data.control, (failedStep, none), stops, reports, starts,
      stopped.chain,
      stopped.outcome, reported, started.shown, started.climb, ?_, first.frame rfl rfl rfl, advances.data _⟩
    exact congrArg (Control.started · (failedStep, none)) started.control

include returning in
theorem restart_spec (s : State W) (tracks : Tracks phases s) (retries : cfg.fullRetryCount ≠ 0)
    (least : 0 ≤ s.data.failedStatusCheck) (most : s.data.failedStatusCheck < phases.length) :
    Returns (restart env cfg phases s.data.failedStatusCheck)
      { s with data := { s.data with operation := .start } } fun _ t =>
        ∃ k : Nat, (k : Int) = s.data.control.attempt.restartIndex cfg ∧
          ∃ middle result stops reports starts,
            RestartRun env cfg phases k s.attempt t middle result stops reports starts := by
  obtain ⟨k, index, inside⟩ :
      ∃ k : Nat, (k : Int) = s.data.control.attempt.restartIndex cfg ∧ k < phases.length := by
    refine ⟨(s.data.control.attempt.restartIndex cfg).toNat, ?_, ?_⟩ <;>
      simp only [Control.restartIndex, Control.attempt, ExtensionData.control] <;> split_ifs <;> omega
  unfold restart
  apply returns_modifyData_bind
  apply Returns.get_bind
  refine Returns.lift_bind (Go.remainder_eq _ retries) ?_
  have chosen : (if (Go.wrapInt64 (s.data.startAttempts + 1)).tmod cfg.fullRetryCount = 0 then 0
      else s.data.failedStatusCheck) = (k : Int) := index.symm
  rw [chosen]
  refine (restartFrom_spec cfg phases returning k s.attempt (tracks.frame rfl rfl rfl)
    inside).weaken ?_
  exact fun _ t run => ⟨k, index, run⟩

theorem handleServiceStartState_spec (s : State W) (tracks : Tracks phases s)
    (expected : cfg.kubeServiceState = serviceStateTrue)
    (returning : cfg.disableScripts = false → env.Returning cfg phases.length)
    (ready : s.data.control.restarts cfg → cfg.fullRetryCount ≠ 0 ∧
      0 ≤ s.data.failedStatusCheck ∧ s.data.failedStatusCheck < phases.length) :
    Returns (handleServiceStartState env cfg phases) s fun _ t => ∃ events,
      HandlerRun env cfg phases s t events := by
  unfold handleServiceStartState
  apply Returns.get_bind
  apply Returns.ite
  · intro scripts
    exact Returns.pure ⟨[], .idle (.inl scripts) s.data.operation⟩
  · intro enabled
    apply returns_modifyData_bind
    apply Returns.get_bind
    apply Returns.ite
    · intro running
      apply returns_modifyData_bind
      refine (tryToPersistStatus_spec env cfg _).weaken ?_
      rintro _ t ⟨reports, persisted, -⟩
      refine ⟨reports, .confirmed expected running persisted.control ?_ ?_ ?_⟩
      · exact persisted.completed.trans (congrArg Control.allPhases persisted.control).symm
      · exact persisted.view ▸ persisted.reported
      · exact ⟨persisted.steps.world, persisted.steps.trace, persisted.steps.heap⟩
    · intro notRunning
      have scripts : cfg.disableScripts = false := Bool.of_not_eq_true enabled
      obtain ⟨retries, least, most⟩ := ready ⟨expected, scripts, notRunning⟩
      refine (restart_spec cfg phases (returning scripts) s tracks retries least most).bind ?_
      rintro _ t ⟨k, index, middle, result, stops, reports, starts, run⟩
      refine (tryToPersistStatus_spec env cfg t).weaken ?_
      rintro _ u ⟨final, persisted, -⟩
      exact ⟨_, .restarted expected notRunning index run persisted⟩

theorem handleServiceStopState_spec (s : State W) (tracks : Tracks phases s)
    (expected : cfg.kubeServiceState = serviceStateFalse)
    (returning : cfg.disableScripts = false → env.Returning cfg phases.length)
    (ready : s.data.control.stops cfg → phases ≠ []) :
    Returns (handleServiceStopState env cfg phases) s fun _ t => ∃ events,
      HandlerRun env cfg phases s t events := by
  unfold handleServiceStopState
  apply returns_modifyData_bind
  apply Returns.get_bind
  apply Returns.ite
  · intro scripts
    exact Returns.pure ⟨[], .idle (.inl scripts) .stop⟩
  · intro enabled
    apply Returns.ite
    · intro stopped
      exact Returns.pure ⟨[], .idle (.inr (.inl ⟨expected, by simpa using stopped⟩)) .stop⟩
    · intro notStopped
      have scripts : cfg.disableScripts = false := Bool.of_not_eq_true enabled
      have running : s.data.kubeRunning = true := not_not.mp notStopped
      have stopping : Tracks phases { s with data := { s.data with operation := .stop } } :=
        tracks.frame rfl rfl rfl
      have nonempty := List.length_pos_iff.mpr (ready ⟨expected, scripts, running⟩)
      refine (stop_spec cfg phases (returning scripts) false _ stopping nonempty).bind ?_
      rintro _ t ⟨stops, reports, run⟩
      exact returns_modifyData ⟨_, .stopped expected running run⟩

end Specs
end Nodelet
