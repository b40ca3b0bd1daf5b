import Nodelet.Reconcile.Runs

/-! Indices and slices over whole runs. Every index the reconciler computes is the
index of a phase, so no run panics, and the completed phases, a slice of the array
that lists all of them, never overwrite a name with another. -/
namespace Nodelet
open Constants

/-- All phases are listed, the first of them as completed, and a failed start names one. -/
structure View.InBounds (phases : List Phase) (view : View) : Prop where
  all : view.allPhases = phases.map Phase.name
  completed : view.completedPhases <+: phases.map Phase.name
  startFailStep : view.control.Bounded phases.length

/-- The event names phases of the list alone. -/
def Event.InBounds (phases : List Phase) : Event → Prop
  | .status i _ | .start i _ | .stop i _ => i < phases.length
  | .persist snapshot | .write snapshot | .update snapshot | .exchange snapshot =>
    snapshot.view.InBounds phases
  | .statusCall call => ∀ i ∈ call.failed, i < phases.length

variable {e : Event}

theorem Event.Reports.inBounds (report : e.Reports cfg view) (inBounds : view.InBounds phases) :
    e.InBounds phases := by
  obtain ⟨snapshot, rfl, rfl | rfl | rfl | rfl⟩ := report.snapshot <;> exact inBounds

theorem Event.Shows.inBounds (shows : e.Shows cfg phases c) (bounded : c.Bounded phases.length) :
    e.InBounds phases := by
  obtain ⟨completed, first, report⟩ := shows
  exact report.inBounds ⟨rfl, first, bounded⟩

theorem Sound.inBounds (sound : Sound phases s) : s.view.InBounds phases :=
  ⟨sound.tracks.names, sound.tracks.completed_isPrefix, sound.bounded⟩

theorem StopCall.inBounds (call : StopCall phases k c e) : e.InBounds phases := by
  obtain ⟨i, _, _, rfl, _, found, _⟩ := call
  exact (List.getElem?_eq_some_iff.mp found).1

theorem StopOutcome.bounded (outcome : StopOutcome phases k c stops c')
    (bounded : c.Bounded count) : c'.Bounded count := by
  cases outcome with
  | skipped => exact bounded
  | finished =>
    unfold Control.stopped
    split <;> exact bounded

theorem Checks.inBounds (checks : Checks cfg 0 phases.length result events) :
    ∀ e ∈ events, e.InBounds phases := by
  have passing (count : Nat) (inside : count ≤ phases.length) :
      ∀ e ∈ passingChecks 0 count, e.InBounds phases := by
    intro e member
    obtain ⟨j, inRange, rfl⟩ := List.mem_map.mp member
    have : j < count := by simpa using inRange
    exact Nat.lt_of_lt_of_le this inside
  cases checks with
  | disabled => simp
  | passed => exact passing _ (Nat.le_refl _)
  | @failed k scripts inside err =>
    rw [Nat.zero_add]
    exact List.forall_mem_append.mpr
      ⟨passing k (Nat.le_of_lt inside), List.forall_mem_singleton.mpr inside⟩

theorem StatusOutcome.inBounds (outcome : StatusOutcome cfg phases.length c checks call c') :
    (∀ e ∈ checks, e.InBounds phases) ∧ (Event.statusCall call).InBounds phases := by
  cases outcome with
  | incomplete => exact ⟨by simp, by simp [Event.InBounds]⟩
  | complete step checked now =>
    refine ⟨checked.inBounds, ?_⟩
    rintro i rfl
    simpa using checked.result_lt

theorem StartEvent.inBounds (event : StartEvent cfg phases k c result e)
    (inside : result.1 ≤ phases.length) (failed : ∀ err, result.2 = some err →
      result.1 < phases.length) (bounded : c.Bounded phases.length) : e.InBounds phases := by
  cases event with
  | started above below => exact Nat.lt_of_lt_of_le below inside
  | failed err last => exact failed err last
  | reported m report => exact report.inBounds ⟨rfl, List.take_prefix _ _, bounded⟩

section Step
variable {W : Type} {env : Env W} {cfg : Config} {phases : List Phase} {s m h t : State W}

theorem RestartRun.inBounds
    (run : RestartRun env cfg phases k s t middle result stops reports starts)
    (bounded : s.data.control.Bounded phases.length) :
    ∀ e ∈ stops ++ reports ++ starts, e.InBounds phases := by
  have boundedMiddle := run.outcome.bounded bounded
  have failed : ∀ err, result.2 = some err → result.1 < phases.length := by
    intro err some
    rcases run.climb.outcome with ⟨none, _⟩ | ⟨_, _, below, _⟩
    · rw [none] at some
      contradiction
    · exact below
  simp only [List.forall_mem_append]
  refine ⟨⟨fun e member => (run.calls e member).inBounds,
    fun e member => (run.reported e member).inBounds boundedMiddle⟩, fun e member => ?_⟩
  exact (run.shown e member).inBounds run.first.inside failed boundedMiddle

theorem HandlerRun.inBounds (run : HandlerRun env cfg phases s t events) (sound : Sound phases s) :
    ∀ e ∈ events, e.InBounds phases := by
  have soundT := run.sound sound
  cases run with
  | idle => simp
  | confirmed _ _ _ _ reported => exact fun e member => (reported e member).inBounds soundT.inBounds
  | restarted _ _ _ run persisted =>
    refine List.forall_mem_append.mpr ⟨run.inBounds sound.bounded, fun e member => ?_⟩
    exact (persisted.reported e member).inBounds (Sound.mk run.first.tracks run.bounded).inBounds
  | stopped _ _ run =>
    refine List.forall_mem_append.mpr ⟨fun e member =>
      (run.calls e member).inBounds, fun e member => ?_⟩
    exact (run.reported e member).inBounds
      (Sound.mk run.tracks (run.outcome.bounded sound.bounded)).inBounds

theorem ReconcileRun.inBounds
    (run : ReconcileRun env cfg phases s m h t checks reports call events final)
    (sound : Sound phases s) :
    ∀ e ∈ checks ++ reports ++ [.statusCall call] ++ events ++ final, e.InBounds phases := by
  have soundM := run.status.sound sound
  obtain ⟨checked, called⟩ := run.status.outcome.inBounds
  have begun : View.InBounds phases { s.view with control := s.data.control.beginStatus } :=
    ⟨sound.inBounds.all, sound.inBounds.completed, sound.bounded⟩
  simp only [List.forall_mem_append, List.forall_mem_singleton]
  refine ⟨⟨⟨⟨checked, fun e member => ?_⟩, called⟩, run.handler.inBounds soundM⟩, fun e member =>
    ?_⟩
  · exact (run.status.reported e member).inBounds begun
  · exact (run.concluded.reported e member).inBounds (run.handler.sound soundM).inBounds

end Step

/-- Whatever the phases answer and whatever state the service is expected in: every
run returns, each phase it names is in the list, and so is the failed check after
every further status chain. -/
theorem run_inBounds {calls : Calls W} (nonempty : phases ≠ [])
    (constructed : initial calls.env cfg₀ phases file w = .ok s₀)
    (retries : ∀ cfg ∈ cfgs, cfg.fullRetryCount ≠ 0) :
    ∃ s, Go.execute (reconcileStep calls.env phases) cfgs s₀ = .ok s ∧
      s.view.InBounds phases ∧ (∀ e ∈ s.trace, e.InBounds phases) ∧
      ∀ cfg, ∃ m, status calls.env cfg phases s = .ok ((), m) ∧ m.view.InBounds phases ∧
        0 ≤ m.data.failedStatusCheck ∧ m.data.failedStatusCheck < phases.length := by
  have start := initial_spec constructed
  obtain ⟨s, run, sound⟩ := calls.run_returns nonempty retries start.sound
  refine ⟨s, run, sound.inBounds, ?_, fun cfg => ?_⟩
  · refine calls.run_safe (P := fun _ => True) nonempty ?_ start trivial run
    intro cfg _ s m h t checks reports call events final sound _ step
    exact ⟨trivial, step.inBounds sound⟩
  · obtain ⟨_, m, checked, _, _, _, statusRun⟩ :=
      status_spec cfg phases (fun _ => calls.returning _ _) s
    exact ⟨m, checked, (statusRun.sound sound).inBounds,
      statusRun.outcome.failedStatusCheck sound.bounded (List.length_pos_iff.mpr nonempty)⟩

theorem run_inBounds_secondDown : ∃ s₀ s,
    initial secondDown.env startConfig certsAndKubeconfig (.object {}) () = .ok s₀ ∧
    Go.execute (reconcileStep secondDown.env certsAndKubeconfig)
      [startConfig, stopConfig, startConfig] s₀ = .ok s ∧
    ∀ e ∈ s.trace, e.InBounds certsAndKubeconfig := by
  obtain ⟨s₀, _, constructed, _⟩ :=
    secondDown.run_observed certsAndKubeconfig startConfig (.object {}) () []
    (fun _ _ => ()) () (by decide +kernel)
  have retries : ∀ cfg ∈ [startConfig, stopConfig, startConfig], cfg.fullRetryCount ≠ 0 := by decide
  obtain ⟨s, run, _, inBounds, _⟩ := run_inBounds (by decide) constructed retries
  exact ⟨s₀, s, constructed, run, inBounds⟩

end Nodelet
