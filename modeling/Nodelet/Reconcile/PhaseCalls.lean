import Nodelet.Reconcile.Runs

/-! The calls of phases in the order in which one `Reconcile` makes them: checks
upwards, stops downwards, starts upwards. What is reported in between is left out. -/
namespace Nodelet
open Constants
open Go (Returns)

theorem Advances.phaseCalls (advances : Advances step s t events) :
    Nodelet.phaseCalls t.trace = Nodelet.phaseCalls s.trace ++ Nodelet.phaseCalls events := by
  rw [advances.trace, phaseCalls_append]

theorem Checks.phaseCalls (checked : Checks cfg i count outcome checks) :
    Nodelet.phaseCalls checks = checks := by
  refine List.filter_eq_self.mpr fun e member => ?_
  obtain ⟨_, _, rfl⟩ := checked.is_status member
  rfl

theorem StopChain.phaseCalls (chain : StopChain phases k force c m stops result) :
    Nodelet.phaseCalls stops = stops := by
  refine List.filter_eq_self.mpr fun e member => ?_
  obtain ⟨_, _, _, rfl, _⟩ := chain.call e member
  rfl

/-- A restart down to phase `k` and up again, which leaves the decisions of its result. -/
structure Restarted (cfg : Config) (phases : List Phase) (k : Nat) (s t : State W)
    (stops starts : List Event) (result : Nat × Option Go.Error) : Prop where
  calls : phaseCalls t.trace = phaseCalls s.trace ++ (stops ++ starts)
  chain : ∃ ended, StopChain phases k false s.data.control phases.length stops ended
  climb : Climb phases.length k starts result
  control : ∃ middle : Control, t.data.control = (middle.assign cfg).started result

/-- The calls of phases that the handler of the expected service state makes. -/
inductive HandlerCalls (cfg : Config) (phases : List Phase) (s t : State W) : List Event →
    Prop where
  | idle (why : cfg.disableScripts = true ∨ cfg.kubeServiceState ≠ serviceStateTrue)
      (step : t.data.startFailStep = s.data.startFailStep) : HandlerCalls cfg phases s t []
  | confirmed (running : s.data.control.alreadyRunning cfg)
      (control : t.data.control = s.data.control.confirmed) : HandlerCalls cfg phases s t []
  | restarted {k : Nat} (notRunning : ¬ s.data.control.alreadyRunning cfg)
      (index : (k : Int) = s.data.control.attempt.restartIndex cfg)
      (run : Restarted cfg phases k s.attempt u stops starts result)
      (control : t.data.control = u.data.control) : HandlerCalls cfg phases s t (stops ++ starts)
  | stopped (stopping : cfg.kubeServiceState = serviceStateFalse)
      (chain : ∃ c ended, StopChain phases 0 false c phases.length stops ended)
      (step : t.data.startFailStep = -1) : HandlerCalls cfg phases s t stops

section Restart
variable {W : Type} {env : Env W} {s t : State W}
  (run : RestartRun env cfg phases k s t middle result stops reports starts)
include run

theorem RestartRun.phaseCalls :
    Nodelet.phaseCalls (stops ++ reports ++ starts) = stops ++ Nodelet.phaseCalls starts := by
  obtain ⟨ended, chain⟩ := run.chain
  have shown : ∀ e ∈ reports, ∃ view, e.Reports cfg view := by
    intro e member
    obtain ⟨_, _, report⟩ := run.reported e member
    exact ⟨_, report⟩
  rw [phaseCalls_append, phaseCalls_append, chain.phaseCalls, phaseCalls_reports shown,
    List.append_nil]

theorem RestartRun.restarted :
    Restarted cfg phases k s t stops (Nodelet.phaseCalls starts) result :=
  ⟨by rw [run.advances.phaseCalls, run.phaseCalls], run.chain, run.climb, middle, run.control⟩

end Restart

theorem HandlerRun.handlerCalls (run : HandlerRun env cfg phases s t events) :
    HandlerCalls cfg phases s t (phaseCalls events) := by
  cases run with
  | idle why operation =>
    refine .idle (why.imp_right fun other => ?_) rfl
    rcases other with ⟨stopping, _⟩ | ⟨other, _⟩
    · rw [stopping]
      decide
    · exact other
  | confirmed expected running control completed reported advances =>
    rw [phaseCalls_reports fun e member => ⟨_, reported e member⟩]
    exact .confirmed running control
  | restarted expected notRunning index run persisted =>
    rw [phaseCalls_append, run.phaseCalls, phaseCalls_reports fun e member =>
      ⟨_, persisted.reported e member⟩, List.append_nil]
    exact .restarted notRunning index run.restarted persisted.control
  | stopped expected running run =>
    obtain ⟨ended, chain⟩ := run.chain
    rw [phaseCalls_append, chain.phaseCalls, phaseCalls_reports fun e member =>
      ⟨_, run.reported e member⟩, List.append_nil]
    exact .stopped expected ⟨_, ended, chain⟩ rfl

/-- One `Reconcile` with the calls of phases it makes: the checks, and what the handler calls. -/
structure ReconcileCalls (cfg : Config) (phases : List Phase) (s m t : State W)
    (checks : List Event) (call : StatusCall) (handled : List Event) : Prop where
  status : StatusOutcome cfg phases.length s.data.control checks call m.data.control
  handler : HandlerCalls cfg phases m t handled
  calls : phaseCalls t.trace = phaseCalls s.trace ++ (checks ++ handled)
  noted : .statusCall call ∈ newEvents s t
  added : t.trace = s.trace ++ newEvents s t

theorem ReconcileCalls.handled_new
    (run : ReconcileCalls cfg phases s m t checks call handled) (member : e ∈ handled) :
    e ∈ newEvents s t := by
  have calls := run.calls
  rw [run.added, phaseCalls_append] at calls
  have new : e ∈ phaseCalls (newEvents s t) := by
    rw [List.append_cancel_left calls]
    exact List.mem_append_right _ member
  exact (List.mem_filter.mp new).1

theorem StatusOutcome.phaseCalls (outcome : StatusOutcome cfg count c checks call c') :
    Nodelet.phaseCalls checks = checks := by
  cases outcome with
  | incomplete => rfl
  | complete _ checked => exact checked.phaseCalls

theorem HandlerCalls.concluded (run : HandlerCalls cfg phases m h calls)
    (control : t.data.control = h.data.control) : HandlerCalls cfg phases m t calls := by
  have step : t.data.startFailStep = h.data.startFailStep := congrArg Control.startFailStep control
  cases run with
  | idle why same => exact .idle why (step.trans same)
  | confirmed running same => exact .confirmed running (control.trans same)
  | restarted notRunning index run same =>
    exact .restarted notRunning index run (control.trans same)
  | stopped stopping chain same => exact .stopped stopping chain (step.trans same)

section Runs
variable {W : Type} (calls : Calls W) {cfg : Config} {phases : List Phase}

theorem Calls.step_calls (sound : Sound phases s) (nonempty : phases ≠ [])
    (stepped : reconcileStep calls.env phases cfg s = .ok t) :
    Sound phases t ∧
      ∃ m checks call handled, ReconcileCalls cfg phases s m t checks call handled := by
  obtain ⟨m, h, checks, reports, call, events, final, run⟩ := calls.step_run sound nonempty stepped
  refine ⟨run.sound sound, m, checks, call, phaseCalls events, run.status.outcome,
    run.handler.handlerCalls.concluded run.concluded.control, ?_, ?_, run.advances.trace_newEvents⟩
  · rw [run.advances.phaseCalls, phaseCalls_append, phaseCalls_append, phaseCalls_append,
      phaseCalls_append,
      run.status.outcome.phaseCalls, phaseCalls_reports fun e member => ⟨_, run.status.reported e member⟩,
      phaseCalls_reports fun e member => ⟨_, run.concluded.reported e member⟩]
    simp [phaseCalls, Event.isCall]
  · rw [run.advances.newEvents]
    simp

/-- A run adds to the calls that have been made before it. -/
theorem Calls.run_calls (sound : Sound phases s) (nonempty : phases ≠ [])
    (run : Go.execute (reconcileStep calls.env phases) cfgs s = .ok t) :
    Sound phases t ∧ ∃ more, phaseCalls t.trace = phaseCalls s.trace ++ more := by
  refine Go.execute_invariant
    (P := fun t => Sound phases t ∧ ∃ more, phaseCalls t.trace = phaseCalls s.trace ++ more)
    ?_ run ⟨sound, [], (List.append_nil _).symm⟩
  rintro cfg _ before after ⟨sound, more, same⟩ stepped
  obtain ⟨sound', m, checks, call, handled, step⟩ := calls.step_calls sound nonempty stepped
  exact ⟨sound', more ++ (checks ++ handled), by rw [step.calls, same, List.append_assoc]⟩

end Runs
end Nodelet
