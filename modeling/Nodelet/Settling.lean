import Nodelet.Order

/-! A service that settles, where no phase dies or comes up by itself. One `Reconcile` whose starts
all succeed brings every phase up, whatever failed before it; from then on the phases are only
looked at. -/
namespace Nodelet
open Constants
open Transition (Along along_append along_still foldl_still)

/-- A check that failed in this call of `Status` is overlooked, since it passed not long ago. -/
def StatusCall.Tolerated (call : StatusCall) : Prop :=
  call.failed ≠ none ∧ call.kubeRunning = true

/-- No start fails, and no failed check is tolerated. -/
def Event.Smooth : Event → Prop
  | .start _ err => err = none
  | .statusCall call => ¬ call.Tolerated
  | _ => True

instance : ∀ e : Event, Decidable e.Smooth
  | .start _ _ => inferInstanceAs (Decidable (_ = _))
  | .statusCall _ => inferInstanceAs (Decidable ¬ (_ ∧ _))
  | .status _ _ | .stop _ _ | .persist _ | .write _ | .update _ | .exchange _ =>
    inferInstanceAs (Decidable True)

/-- The service was started completely, for the cluster of this configuration or for none. -/
structure Control.RunsFor (cfg : Config) (c : Control) : Prop where
  complete : c.startFailStep = -1
  cluster : c.clusterID = cfg.clusterID ∧ c.clusterRole = cfg.clusterRole ∨
    c.clusterRole = roleNone ∧ c.clusterID = ""
  running : c.serviceState = serviceStateTrue
  attempts : c.startAttempts = 0

/-- The service runs, and every phase is up. -/
structure SettledFor (cfg : Config) (phases : List Phase) (up : Nat → Bool) (s : State W) :
    Prop where
  runs : s.data.control.RunsFor cfg
  up : ∀ j < phases.length, (phaseCalls s.trace).foldl Event.turn up j = true

section Steps
variable {W : Type} {up : Nat → Bool} {phases : List Phase} {cfg : Config} {s m t : State W}

theorem StatusOutcome.up_of_running (outcome : StatusOutcome cfg count c checks call c')
    (scripts : cfg.disableScripts = false) (truthful : Truthful up checks)
    (running : c'.kubeRunning = true) : call.Tolerated ∨ ∀ j < count, up j = true := by
  cases outcome with
  | incomplete => contradiction
  | @complete failed _ step checked now =>
    cases failed with
    | none =>
      exact .inr (checked.truthful_all scripts ((along_still (turn_checks checked)).mp truthful))
    | some i => exact .inl ⟨by simp, running⟩

theorem StatusOutcome.running_of_up (outcome : StatusOutcome cfg count c checks call c')
    (complete : c.startFailStep = -1) (truthful : Truthful up checks)
    (all : ∀ j < count, up j = true) : c'.kubeRunning = true := by
  cases outcome with
  | incomplete step => exact absurd complete step
  | @complete failed _ _ checked now =>
    cases failed with
    | none => rfl
    | some i =>
      obtain ⟨err, member⟩ := checked.failed_mem
      have told : Event.Truthful up (.status i (some err)) :=
        (along_still (turn_checks checked)).mp truthful _ member
      have inside : i < count := by simpa using checked.result_lt
      exact absurd (told.mpr (all i inside)) (by simp)

theorem Control.confirmed_runsFor {c : Control} (running : c.alreadyRunning cfg) :
    c.confirmed.RunsFor cfg :=
  ⟨rfl, running.2, rfl, rfl⟩

theorem Control.started_runsFor (c : Control) (count : Nat) :
    ((c.assign cfg).started (count, none)).RunsFor cfg :=
  ⟨rfl, .inl ⟨rfl, rfl⟩, rfl, rfl⟩

theorem Climb.result_of_ok (climb : Climb count i starts result)
    (ok : ∀ j err, .start j (some err) ∉ starts) : result = (count, none) := by
  induction climb with
  | top => rfl
  | next _ _ ih => exact ih fun j err member => ok j err (List.mem_cons_of_mem _ member)
  | failed _ err => exact absurd (List.mem_singleton_self _) (ok _ err)

/-- One `Reconcile` settles the service unless a start fails or a failed check is tolerated. -/
theorem ReconcileCalls.settles (run : ReconcileCalls cfg phases s m t checks call handled)
    (expected : cfg.kubeServiceState = serviceStateTrue) (scripts : cfg.disableScripts = false)
    (orderly : Orderly phases up s) (truthful : Truthful up (phaseCalls t.trace))
    (ok : ∀ j err, .start j (some err) ∉ handled) (strict : ¬ call.Tolerated) :
    SettledFor cfg phases up t := by
  rw [run.calls] at truthful
  obtain ⟨told, -⟩ := along_append.mp (along_append.mp truthful).2
  obtain ⟨checked, -⟩ := run.status.supported told orderly.supported
  cases run.handler with
  | idle why => exact absurd why (by simp [expected, scripts])
  | confirmed running control =>
    have all := (run.status.up_of_running scripts told running.1).resolve_left strict
    refine ⟨control ▸ Control.confirmed_runsFor running, ?_⟩
    rw [run.calls, List.foldl_append, List.append_nil, run.status.still]
    exact all
  | restarted _ index restarted control =>
    have whole := restarted.climb.result_of_ok fun j err member =>
      ok j err (List.mem_append_right _ member)
    obtain ⟨middle, started⟩ := restarted.control
    obtain ⟨-, after⟩ := restarted.inOrder (Control.restartIndex_supported checked index)
    rw [whole] at after started
    refine ⟨control.trans started ▸ Control.started_runsFor middle _, ?_⟩
    rw [run.calls, List.foldl_append, List.foldl_append, run.status.still]
    exact after
  | stopped stopping => exact absurd (expected.symm.trans stopping) (by decide)

/-- A settled service is looked at and left alone. -/
theorem ReconcileCalls.stays (run : ReconcileCalls cfg phases s m t checks call handled)
    (expected : cfg.kubeServiceState = serviceStateTrue) (scripts : cfg.disableScripts = false)
    (settled : SettledFor cfg phases up s) (truthful : Truthful up (phaseCalls t.trace)) :
    handled = [] ∧ SettledFor cfg phases up t := by
  have calls := run.calls
  rw [calls] at truthful
  obtain ⟨told, -⟩ := along_append.mp (along_append.mp truthful).2
  have running := run.status.running_of_up settled.runs.complete told settled.up
  obtain ⟨_, _, _, frame⟩ := run.status.frame
  have already : m.data.control.alreadyRunning cfg := by
    refine ⟨running, ?_⟩
    rw [frame]
    exact settled.runs.cluster
  cases run.handler with
  | idle why => exact absurd why (by simp [expected, scripts])
  | confirmed running control =>
    refine ⟨rfl, control ▸ Control.confirmed_runsFor running, ?_⟩
    rw [calls, List.foldl_append, List.append_nil, run.status.still]
    exact settled.up
  | restarted notRunning => exact absurd already notRunning
  | stopped stopping => exact absurd (expected.symm.trans stopping) (by decide)

end Steps

section Runs
variable {W : Type} (calls : Calls W) {phases : List Phase} {cfg : Config} {s₀ s t u : State W}

/-- A settled service stays settled over any number of further runs, and none of its phases is
touched. -/
theorem Calls.run_stays (nonempty : phases ≠ [])
    (expected : cfg.kubeServiceState = serviceStateTrue) (scripts : cfg.disableScripts = false)
    (up : Nat → Bool) (count : Nat) (sound : Sound phases t) (settled : SettledFor cfg phases up t)
    (run : Go.execute (reconcileStep calls.env phases) (List.replicate count cfg) t = .ok u)
    (truthful : Truthful up (phaseCalls u.trace)) :
    SettledFor cfg phases up u ∧ ∃ checks, phaseCalls u.trace = phaseCalls t.trace ++ checks ∧
      ∀ e ∈ checks, ∃ i err, e = .status i err := by
  obtain ⟨-, kept⟩ := Go.execute_invariant
    (P := fun u => Sound phases u ∧ (Truthful up (phaseCalls u.trace) →
      SettledFor cfg phases up u ∧ ∃ checks, phaseCalls u.trace = phaseCalls t.trace ++ checks ∧
        ∀ e ∈ checks, ∃ i err, e = .status i err))
    (fun input member before after holds stepped => by
      obtain rfl := List.eq_of_mem_replicate member
      obtain ⟨sound, m, checks, call, handled, step⟩ := calls.step_calls holds.1 nonempty stepped
      refine ⟨sound, fun truthful => ?_⟩
      have told := truthful
      rw [step.calls] at told
      obtain ⟨settled, earlier, same, looked⟩ := holds.2 (along_append.mp told).1
      obtain ⟨rfl, stays⟩ := step.stays expected scripts settled truthful
      refine ⟨stays, earlier ++ checks, ?_, ?_⟩
      · rw [step.calls, same, List.append_nil, List.append_assoc]
      · refine List.forall_mem_append.mpr ⟨looked, fun e member => step.status.is_status member⟩)
    run ⟨sound, fun _ => ⟨settled, [], (List.append_nil _).symm, by simp⟩⟩
  exact kept truthful

/-- With scripts enabled, and phases that go up and down only by their own start and stop, a
`Reconcile` in which every start succeeds, and no failed check is tolerated, settles the service for
good: from then on its phases are checked and never started or stopped again. -/
theorem Calls.reconcile_settles (nonempty : phases ≠ []) (file : ExtensionFile) (w : W)
    (constructed : initial calls.env cfg₀ phases file w = .ok s₀)
    (before : Go.execute (reconcileStep calls.env phases) cfgs s₀ = .ok s)
    (expected : cfg.kubeServiceState = serviceStateTrue) (scripts : cfg.disableScripts = false)
    (stepped : reconcileStep calls.env phases cfg s = .ok t)
    (smooth : ∀ e ∈ newEvents s t, e.Smooth) (count : Nat)
    (after : Go.execute (reconcileStep calls.env phases) (List.replicate count cfg) t = .ok u)
    (up : Nat → Bool) (truthful : Truthful up (phaseCalls u.trace)) :
    SettledFor cfg phases up u ∧ ∃ checks, phaseCalls u.trace = phaseCalls t.trace ++ checks ∧
      ∀ e ∈ checks, ∃ i err, e = .status i err := by
  obtain ⟨sound, -⟩ := calls.run_calls (initial_spec constructed).sound nonempty before
  obtain ⟨soundT, m, checks, call, handled, step⟩ := calls.step_calls sound nonempty stepped
  obtain ⟨-, more, later⟩ := calls.run_calls soundT nonempty after
  have toldT : Truthful up (phaseCalls t.trace) := (along_append.mp (later ▸ truthful)).1
  have toldS : Truthful up (phaseCalls s.trace) := (along_append.mp (step.calls ▸ toldT)).1
  have orderly := (calls.run_orderly nonempty (initial_spec constructed) before up toldS).2
  have succeeded : ∀ j err, .start j (some err) ∉ handled := fun j err member =>
    Option.some_ne_none err (smooth _ (step.handled_new member))
  have settled := step.settles expected scripts orderly toldT succeeded (smooth _ step.noted)
  exact calls.run_stays nonempty expected scripts up count soundT settled after truthful

end Runs

/-- After a failed start the next `Reconcile` settles the service, which is then only checked. -/
theorem reconcile_settles_after_failure : ∃ s t u : State Stack,
    reconcileStep (Script.calm [12]).calls.env certsAndKubeconfig startConfig s = .ok t ∧
    phaseCalls t.trace = callsAfterFailure ∧
      SettledFor startConfig certsAndKubeconfig (fun _ => false) u ∧
    phaseCalls u.trace = callsAfterFailure ++ [.status 0 none, .status 1 none] := by
  have evaluated : (do
    let s₀ ← initial (Script.calm [12]).calls.env startConfig certsAndKubeconfig (.object {})
      ⟨fun _ => false, 0⟩
    let s ← Go.execute (reconcileStep (Script.calm [12]).calls.env certsAndKubeconfig)
      [startConfig] s₀
    let t ← reconcileStep (Script.calm [12]).calls.env certsAndKubeconfig startConfig s
    let u ← Go.execute (reconcileStep (Script.calm [12]).calls.env certsAndKubeconfig)
      (.replicate 1 startConfig) t
    return (decide (∀ e ∈ newEvents s t, e.Smooth), phaseCalls t.trace,
      phaseCalls u.trace)).toOption =
      some (true, callsAfterFailure, callsAfterFailure ++ [.status 0 none, .status 1 none]) := by decide +kernel
  obtain ⟨s₀, constructed, rest⟩ := Go.bind_ok (Go.ok_of_toOption evaluated)
  obtain ⟨s, before, rest⟩ := Go.bind_ok rest
  obtain ⟨t, stepped, rest⟩ := Go.bind_ok rest
  obtain ⟨u, after, seen⟩ := Go.bind_ok rest
  have observed := Except.ok.inj seen
  simp only [Prod.mk.injEq, decide_eq_true_eq] at observed
  obtain ⟨smooth, here, later⟩ := observed
  have truthful : Truthful (fun _ => false) (phaseCalls u.trace) := by
    rw [later]
    decide
  obtain ⟨settled, -⟩ :=
    (Script.calm [12]).calls.reconcile_settles (by decide) (.object {}) _ constructed before
    rfl rfl stepped smooth 1 after _ truthful
  exact ⟨s, t, u, stepped, here, settled, later⟩

end Nodelet
