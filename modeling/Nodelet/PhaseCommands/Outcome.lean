import Nodelet.PhaseCommands

/-! The calls of phases that the chains behind the commands make, and what their results say about
them. -/
namespace Nodelet
open Constants Sunpike
open Go (Returns)

/-- The first phase that a command works on. -/
def PhasesOpts.first (o : PhasesOpts) : Nat := o.phase.toNat - 1

theorem PhasesOpts.index_eq {o : PhasesOpts} {numPhases : Nat} (least : 0 ≤ o.phase)
    (most : o.phase ≤ numPhases) : o.index numPhases = .ok (o.first : Int) := by
  have refused : ¬ (o.phase > numPhases ∨ o.phase < 0) := by omega
  rw [index, if_neg refused]
  congr 1
  unfold first
  split <;> omega

/-- With force the chain goes through all phases, from the last one down. -/
theorem StopChain.forced (chain : StopChain phases k true c m stops result) (reaches : k ≤ m)
    (taken : ∀ i phase, phases[i]? = some phase → ¬ c.keepsCerts phase i) :
    ∃ errs : Nat → Option Go.Error,
      stops = ((List.range' k (m - k)).reverse.map fun i => .stop i (errs i)) := by
  induction chain with
  | ended below =>
    refine ⟨fun _ => none, ?_⟩
    rw [Nat.sub_eq_zero_of_le below]
    rfl
  | kept _ found keeps => exact absurd keeps (taken _ _ found)
  | @stopped i _ err _ _ above _ _ _ _ ih =>
    obtain ⟨errs, rest⟩ := ih above
    refine ⟨Function.update errs i err, ?_⟩
    have last : List.range' k (i + 1 - k) = List.range' k (i - k) ++ [i] := by
      rw [Nat.succ_sub above, List.range'_concat, Nat.one_mul, Nat.add_sub_cancel' above]
    rw [last, List.reverse_append, rest]
    simp only [List.reverse_singleton, List.singleton_append, List.map_cons, Function.update_self,
      List.cons.injEq, true_and]
    refine List.map_congr_left fun j member => ?_
    have lower : j < i := by
      obtain ⟨_, _, same⟩ := List.mem_range'.mp (List.mem_reverse.mp member)
      omega
    rw [Function.update_of_ne (by omega)]
  | failed _ _ _ breaks => contradiction

/-- Where the service is not expected to run, it is taken to be running only if every check
passes. -/
theorem StatusOutcome.strict (outcome : StatusOutcome cfg count c checks call c')
    (complete : c.startFailStep = -1) (unexpected : c.serviceState ≠ serviceStateTrue) :
    ∃ failed, Checks cfg 0 count failed checks ∧ (c'.kubeRunning = true ↔ failed = none) := by
  cases outcome with
  | incomplete step => exact absurd complete step
  | @complete failed _ _ checked now =>
    refine ⟨failed, checked, ?_⟩
    cases failed with
    | none => simp [Control.settle]
    | some i =>
      rw [Control.settle_unexpected c.beginStatus unexpected]
      simp [Control.beginStatus]

theorem Climb.call (climb : Climb count i starts result) :
    ∀ e ∈ starts, ∃ j err, e = .start j err := by
  induction climb with
  | top => simp
  | next _ _ ih => exact List.forall_mem_cons.mpr ⟨⟨_, _, rfl⟩, ih⟩
  | failed => exact List.forall_mem_singleton.mpr ⟨_, _, rfl⟩

/-- A start chain succeeds exactly if each of its phases was started. -/
theorem Climb.ok_iff (climb : Climb count i starts result) :
    result.2 = none ↔ ∀ j, i ≤ j → j < count → .start j none ∈ starts := by
  induction climb with
  | top => exact ⟨fun _ j above below => absurd below (Nat.not_lt.mpr above), fun _ => rfl⟩
  | @next i starts result below rest ih =>
    rw [ih]
    constructor
    · intro started j above inside
      rcases Nat.eq_or_lt_of_le above with rfl | higher
      · exact List.mem_cons_self
      · exact List.mem_cons_of_mem _ (started j higher inside)
    · intro started j above inside
      rcases List.mem_cons.mp (started j (Nat.le_of_succ_le above) inside) with same | member
      · cases same
        exact absurd above (Nat.not_succ_le_self _)
      · exact member
  | failed below err =>
    constructor
    · simp
    · intro started
      exact absurd (started _ (Nat.le_refl _) below) (by simp)

theorem Checks.none_iff (checked : Checks cfg 0 count index checks) :
    index = none ↔ cfg.disableScripts = true ∨ ∀ i < count, .status i none ∈ checks := by
  cases checked with
  | disabled disabled => simp [disabled]
  | passed => simp [passingChecks]
  | @failed k enabled inside err =>
    constructor
    · simp
    · rintro (disabled | passed)
      · exact absurd (enabled.symm.trans disabled) (by decide)
      · exact absurd (passed k inside) (by simp [passingChecks])

section Process
variable {W : Type} {outside : Outside W} {env : Env (Machine outside)} (o : PhasesOpts)
    (cfg : Config)
  (phases : List Phase) (returning : env.Returning cfg phases.length) (s : State (Machine outside))
  (tracks : Tracks phases s)
  (inside : k < phases.length)
include returning tracks inside

theorem PhasesOpts.stop_calls (chained : o.single = false) (isRestart : Bool) :
    Returns (o.stop env cfg phases k isRestart) s fun _ t => ∃ stops ended,
      phaseCalls t.trace = phaseCalls s.trace ++ stops ∧
      StopChain phases k o.force s.data.control phases.length stops ended ∧ Tracks phases t := by
  unfold PhasesOpts.stop
  rw [chained]
  refine (stop_spec cfg phases returning o.force s tracks inside).bind ?_
  rintro err t ⟨stops, reports, run⟩
  obtain ⟨ended, chain⟩ := run.chain
  refine Returns.get_bind (Returns.pure ⟨stops, ended, ?_, chain, run.tracks⟩)
  rw [run.advances.phaseCalls, phaseCalls_append, chain.phaseCalls,
    phaseCalls_reports fun e member => ⟨_, run.reported e member⟩, List.append_nil]

theorem PhasesOpts.start_calls (chained : o.single = false) :
    Returns (o.start env cfg phases k) s fun shown t => ∃ starts result,
      phaseCalls t.trace = phaseCalls s.trace ++ starts ∧ Climb phases.length k starts result ∧
      (shown.1 = none ↔ result.2 = none) := by
  unfold PhasesOpts.start
  rw [chained]
  refine (start_spec cfg phases returning k s tracks inside).bind ?_
  rintro ⟨step, err⟩ t ⟨events, run⟩
  have calls := run.advances.phaseCalls
  cases err with
  | some err => exact Returns.pure ⟨_, (step, some err), calls, run.climb, by simp⟩
  | none => exact Returns.get_bind (Returns.pure ⟨_, (step, none), calls, run.climb, by simp⟩)

theorem PhasesOpts.restart_calls (chained : o.single = false) :
    Returns (o.restart env cfg phases k) s fun shown t => ∃ stops ended starts result,
      phaseCalls t.trace = phaseCalls s.trace ++ (stops ++ starts) ∧
      StopChain phases k o.force s.data.control phases.length stops ended ∧
      Climb phases.length k starts result ∧ (shown.1 = none ↔ result.2 = none) := by
  unfold PhasesOpts.restart
  refine (o.stop_calls cfg phases returning s tracks inside chained true).bind ?_
  rintro _ t ⟨stops, ended, stopped, chain, tracked⟩
  refine (o.start_calls cfg phases returning t tracked inside chained).weaken ?_
  rintro shown u ⟨starts, result, started, climb, returned⟩
  refine ⟨stops, ended, starts, result, ?_, chain, climb, returned⟩
  rw [started, stopped, List.append_assoc]

omit tracks inside in
theorem statusCommand_checks (complete : s.data.startFailStep = -1)
    (unexpected : s.data.serviceState = serviceStateFalse) :
    Returns (statusCommand env cfg phases) s fun shown t => ∃ failed checks,
      phaseCalls t.trace = phaseCalls s.trace ++ checks ∧ Checks cfg 0 phases.length failed checks ∧
      (shown.1 = none ↔ failed = none) := by
  unfold statusCommand
  refine (status_spec cfg phases (fun _ => returning) s).bind ?_
  rintro _ t ⟨checks, reports, call, run⟩
  apply Returns.get_bind
  have calls : phaseCalls t.trace = phaseCalls s.trace ++ checks := by
    rw [run.advances.phaseCalls, phaseCalls_append, phaseCalls_append, run.outcome.phaseCalls,
      phaseCalls_reports fun e member => ⟨_, run.reported e member⟩]
    simp [phaseCalls, Event.isCall]
  have unexpected : s.data.control.serviceState ≠ serviceStateTrue := by
    rw [show s.data.control.serviceState = _ from unexpected]
    decide
  obtain ⟨failed, checked, found⟩ := run.outcome.strict complete unexpected
  refine Returns.pure ⟨failed, checks, calls, checked, ?_⟩
  rw [← found]
  change (if t.data.kubeRunning = true then none else some _) = none ↔ t.data.kubeRunning = true
  cases t.data.kubeRunning <;> simp

end Process

end Nodelet
