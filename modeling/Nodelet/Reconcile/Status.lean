import Nodelet.Reconcile.Persist

/-! The status chain: it stops at the first failing check, and what it concludes
depends on the service state and on the time since the last success. -/
namespace Nodelet
open Constants
open Go (Returns)

namespace Control

/-- What `Status` sets before it runs any check. -/
def beginStatus (c : Control) : Control :=
  { c with operation := .status, kubeRunning := false }

/-- What `Status` concludes at `now` from the chain's first failing check. -/
def settle (cfg : Config) (now : Int) (c : Control) : Option Nat → Control
  | none => { c with kubeRunning := true, lastSuccessfulStatus := now, failedStatusCheck := 0 }
  | some i =>
    if c.serviceState = serviceStateTrue then
      if Go.Time.sub now c.lastSuccessfulStatus < getStatusFailureToleration cfg then
        { c with kubeRunning := true, failedStatusCheck := 0 }
      else { c with failedStatusCheck := i }
    else { c with failedStatusCheck := 0, lastSuccessfulStatus := now }

variable {cfg : Config} {now : Int} (c : Control) {i : Nat}

theorem settle_tolerated (running : c.serviceState = serviceStateTrue)
    (recent : Go.Time.sub now c.lastSuccessfulStatus < getStatusFailureToleration cfg) :
    c.settle cfg now (some i) = { c with kubeRunning := true, failedStatusCheck := 0 } := by
  simp only [settle, if_pos running, if_pos recent]

theorem settle_failed (running : c.serviceState = serviceStateTrue)
    (late : ¬ Go.Time.sub now c.lastSuccessfulStatus < getStatusFailureToleration cfg) :
    c.settle cfg now (some i) = { c with failedStatusCheck := i } := by
  simp only [settle, if_pos running, if_neg late]

theorem settle_unexpected (stopped : c.serviceState ≠ serviceStateTrue) :
    c.settle cfg now (some i) = { c with failedStatusCheck := 0, lastSuccessfulStatus := now } := by
  simp only [settle, if_neg stopped]

end Control

/-- The clock was read between two states of the surroundings. -/
def Env.Reads (env : Env W) (w w' : W) (now : Int) : Prop :=
  ∃ v v', ∃ reading : Nat, Relation.ReflTransGen env.Observe w v ∧ env.now v = (reading, v') ∧
    now = reading ∧ Relation.ReflTransGen env.Observe v' w'

/-- The checks of `count` phases from index `i` on, all passing. -/
def passingChecks (i count : Nat) : List Event :=
  (List.range' i count).map fun j => .status j none

/-- The outcomes of the chain over `count` phases from index `i` on. -/
inductive Checks (cfg : Config) (i count : Nat) : Option Nat → List Event → Prop where
  | disabled (scripts : cfg.disableScripts = true) : Checks cfg i count none []
  | passed (scripts : cfg.disableScripts = false) : Checks cfg i count none (passingChecks i count)
  | failed (scripts : cfg.disableScripts = false) (inside : k < count) (err : Go.Error) :
      Checks cfg i count (some (i + k)) (passingChecks i k ++ [.status (i + k) (some err)])

/-- The chain's result as the index variable of `Status` holds it. -/
def failedIndex : Option Nat → Int
  | none => -1
  | some i => i

theorem failedPhase_failedIndex (failed : Option Nat) :
    failedPhase (failedIndex failed) = failed := by
  cases failed with
  | none => rfl
  | some i =>
    have chosen : failedIndex (some i) ≠ -1 := by simp only [failedIndex]; omega
    rw [failedPhase, if_neg chosen, failedIndex, Int.toNat_natCast]

theorem Checks.skip (rest : Checks cfg (i + 1) count result events)
    (scripts : cfg.disableScripts = false) :
    Checks cfg i (count + 1) result (.status i none :: events) := by
  cases rest with
  | disabled disabled => rw [scripts] at disabled; contradiction
  | passed => exact .passed scripts
  | @failed k _ inside err =>
    have shifted : Checks cfg i (count + 1) (some (i + (k + 1))) _ :=
      .failed scripts (Nat.succ_lt_succ inside) err
    rw [show i + (k + 1) = i + 1 + k by omega] at shifted
    exact shifted

theorem Checks.is_status (checks : Checks cfg i count result events) (member : e ∈ events) :
    ∃ j err, e = .status j err := by
  cases checks with
  | disabled => contradiction
  | passed =>
    obtain ⟨j, _, rfl⟩ := List.mem_map.mp member
    exact ⟨j, none, rfl⟩
  | failed scripts inside err =>
    rcases List.mem_append.mp member with passing | last
    · obtain ⟨j, _, rfl⟩ := List.mem_map.mp passing
      exact ⟨j, none, rfl⟩
    · exact ⟨_, some err, List.mem_singleton.mp last⟩

theorem Checks.result_of_failed (checks : Checks cfg i count result events)
    (member : .status j (some err) ∈ events) : result = some j ∧ cfg.disableScripts = false := by
  cases checks with
  | disabled => contradiction
  | passed =>
    obtain ⟨_, _, same⟩ := List.mem_map.mp member
    cases same
  | failed scripts inside err =>
    rcases List.mem_append.mp member with passing | last
    · obtain ⟨_, _, same⟩ := List.mem_map.mp passing
      cases same
    · cases List.mem_singleton.mp last
      exact ⟨rfl, scripts⟩

theorem Checks.failed_mem (checks : Checks cfg i count (some j) events) :
    ∃ err, .status j (some err) ∈ events := by
  generalize same : some j = result at checks
  cases checks with
  | disabled | passed => contradiction
  | failed scripts inside err =>
    cases same
    exact ⟨err, by simp⟩

theorem Checks.result_lt (checks : Checks cfg i count (some j) events) : j < i + count := by
  generalize same : some j = result at checks
  cases checks with
  | disabled | passed => contradiction
  | failed scripts inside err =>
    cases same
    omega

/-- The decisions `Status` can end with, the checks it makes on the way and its record. -/
inductive StatusOutcome (cfg : Config) (count : Nat) (c : Control) :
    List Event → StatusCall → Control → Prop where
  | incomplete (step : c.startFailStep ≠ -1) (now : Int) :
      StatusOutcome cfg count c [] ⟨now, c.serviceState, false, none, false⟩
        { c.beginStatus with failedStatusCheck := c.startFailStep }
  | complete (step : c.startFailStep = -1) (checked : Checks cfg 0 count failed checks)
    (now : Int) :
      StatusOutcome cfg count c checks
        ⟨now, c.serviceState, true, failed, (c.beginStatus.settle cfg now failed).kubeRunning⟩
        (c.beginStatus.settle cfg now failed)

structure StatusRun (env : Env W) (cfg : Config) (count : Nat) (s t : State W)
    (checks reports : List Event) (call : StatusCall) : Prop where
  outcome : StatusOutcome cfg count s.data.control checks call t.data.control
  completed : t.data.completedPhases = s.data.completedPhases
  reported : ∀ e ∈ reports, e.Reports cfg { s.view with control := s.data.control.beginStatus }
  reads : env.Reads s.world t.world call.time
  advances : Advances env.Observe s t (checks ++ reports ++ [.statusCall call])

section Specs
variable {W : Type} {env : Env W} (cfg : Config) (phases : List Phase)

theorem statusChecks_spec (returning : cfg.disableScripts = false → env.Returning cfg count)
    (i : Nat) (inside : i + phases.length ≤ count) (s : State W) :
    Returns (statusChecks env cfg i phases) s fun result t => ∃ failed events,
      result = failedIndex failed ∧ Checks cfg i phases.length failed events ∧
      Advances env.Observe s t events ∧ t.data.control = s.data.control ∧
      t.data.completedPhases = s.data.completedPhases := by
  induction phases generalizing i s with
  | nil =>
    refine Returns.pure ⟨none, [], rfl, ?_, .refl s, rfl, rfl⟩
    cases scripts : cfg.disableScripts with
    | true => exact .disabled scripts
    | false => exact .passed scripts
  | cons phase rest ih =>
    unfold statusChecks
    apply Returns.ite
    · intro scripts
      exact Returns.pure ⟨none, [], rfl, .disabled scripts, .refl s, rfl, rfl⟩
    · intro scripts
      have enabled : cfg.disableScripts = false := by simpa using scripts
      apply returns_modifyData_bind
      have below : i < count := by simp at inside; omega
      refine returns_callPhase_bind ((returning enabled).status i below _) fun err world called => ?_
      cases err with
      | none =>
        refine (ih (i + 1) (by simp at inside; omega) _).weaken ?_
        rintro result t ⟨failed, events, same, checks, advances, control, completed⟩
        exact ⟨failed, _, same, checks.skip enabled, .call (.status called) advances, control, completed⟩
      | some err =>
        apply returns_time_bind
        apply returns_modifyData_bind
        have failed : Checks cfg i (rest.length + 1) (some i) [.status i (some err)] :=
          .failed enabled (Nat.zero_lt_succ _) err
        refine Returns.pure ⟨some i, _, rfl, failed, ⟨?_, rfl, rfl⟩, rfl, rfl⟩
        exact .head (.status called) (.single (.now rfl))

theorem settleStatus_spec (failed : Option Nat) (s : State W) :
    Returns (settleStatus env cfg (failedIndex failed)) s fun _ t => ∃ now,
      t.data.control = s.data.control.settle cfg now failed ∧
      t.data.completedPhases = s.data.completedPhases ∧ env.Reads s.world t.world now ∧
      Advances env.Observe s t
      [.statusCall ⟨now, s.data.serviceState, true, failed, t.data.kubeRunning⟩] := by
  unfold settleStatus
  rw [failedPhase_failedIndex]
  apply returns_time_bind
  apply Returns.get_bind
  have reads : env.Reads s.world (env.now s.world).2 (env.now s.world).1 :=
    ⟨_, _, _, .refl, rfl, rfl, .refl⟩
  have observed : Relation.ReflTransGen env.Observe s.world (env.now s.world).2 :=
    .single (.now rfl)
  cases failed with
  | none =>
    refine Returns.ite (fun _ => ?_) (fun wrong => absurd rfl wrong)
    exact ⟨(), _, rfl, _, rfl, rfl, reads, observed, rfl, rfl⟩
  | some i =>
    have chosen : failedIndex (some i) ≠ -1 := by simp only [failedIndex]; omega
    refine Returns.ite (fun wrong => absurd wrong chosen) fun _ => ?_
    apply Returns.ite
    · intro running
      apply Returns.ite
      · intro recent
        exact ⟨(), _, rfl, _, (Control.settle_tolerated s.data.control running recent).symm, rfl,
          reads, observed, rfl, rfl⟩
      · intro late
        exact ⟨(), _, rfl, _, (Control.settle_failed s.data.control running late).symm, rfl, reads,
          observed, rfl, rfl⟩
    · intro stopped
      exact ⟨(), _, rfl, _, (Control.settle_unexpected s.data.control stopped).symm, rfl, reads, observed, rfl, rfl⟩

theorem status_spec (returning : cfg.disableScripts = false → env.Returning cfg phases.length)
    (s : State W) : Returns (status env cfg phases) s fun _ t => ∃ checks reports call,
      StatusRun env cfg phases.length s t checks reports call := by
  unfold status
  apply returns_time_bind
  apply returns_modifyData_bind
  apply Returns.get_bind
  have started : Relation.ReflTransGen env.Observe s.world (env.now s.world).2 := .single (.now rfl)
  apply Returns.ite
  · intro step
    apply returns_modifyData_bind
    refine (tryToPersistStatus_spec env cfg _).bind ?_
    rintro _ t ⟨reports, persisted, -⟩
    have control : t.data.control = s.data.control.beginStatus := persisted.control
    have expected : t.data.serviceState = s.data.serviceState :=
      congrArg Control.serviceState control
    have stopped : t.data.kubeRunning = false := congrArg Control.kubeRunning control
    refine ⟨(), _, rfl, [], reports, ⟨(env.now s.world).1, s.data.serviceState, false, none, false⟩,
      ?_, persisted.completed, persisted.reported, ⟨_, _, _, .refl, rfl, rfl, persisted.advances.world⟩,
      started.trans persisted.advances.world, ?_, persisted.advances.heap⟩
    · change StatusOutcome _ _ _ _ _ { t.data.control with failedStatusCheck := t.data.control.startFailStep }
      rw [control]
      exact .incomplete step _
    · simp only [expected, stopped, persisted.advances.trace, List.nil_append, List.append_assoc]
  · intro step
    refine (statusChecks_spec cfg phases returning 0 (by omega) _).bind ?_
    rintro result t ⟨failed, checks, rfl, checked, ran, control, completed⟩
    apply returns_modifyData_bind
    refine (tryToPersistStatus_spec env cfg _).bind ?_
    rintro _ u ⟨reports, persisted, -⟩
    refine (settleStatus_spec cfg failed u).weaken ?_
    rintro _ v ⟨now, settled, kept, reads, called⟩
    have before : u.data.control = s.data.control.beginStatus := persisted.control.trans control
    have expected : u.data.serviceState = s.data.serviceState :=
      congrArg Control.serviceState before
    rw [before] at settled
    rw [expected] at called
    have outcome := StatusOutcome.complete (c := s.data.control) (not_not.mp step) checked now
    rw [← settled] at outcome
    refine ⟨checks, reports, _, outcome, kept.trans (persisted.completed.trans completed), ?_, ?_,
      ?_⟩
    · intro e member
      have view := State.view_frame (t := { t with data := { t.data with currentStatusCheck := "" } })
        ran.heap control rfl completed
      exact view ▸ persisted.reported e member
    · obtain ⟨x, x', reading, onward, read, same, rest⟩ := reads
      exact ⟨x, x', reading,
        ((started.trans ran.world).trans persisted.advances.world).trans onward, read, same, rest⟩
    · have whole := ((ran.data _).trans persisted.advances).trans called
      exact ⟨started.trans whole.world, whole.trace, whole.heap⟩

variable {P : Nat → W → Prop}

theorem statusChecks_passes (i : Nat) (s : State W)
    (passes : ∀ j w, j < i + phases.length → P j w → ∃ w', env.status cfg j w = .ok (none, w') ∧
      P (j + 1) w') (holds : P i s.world) :
    Returns (statusChecks env cfg i phases) s fun result t =>
      result = -1 ∧ t.data.control = s.data.control := by
  induction phases generalizing i s with
  | nil => exact Returns.pure ⟨rfl, rfl⟩
  | cons phase rest ih =>
    unfold statusChecks
    apply Returns.ite
    · intro _
      exact Returns.pure ⟨rfl, rfl⟩
    · intro _
      apply returns_modifyData_bind
      obtain ⟨w', checked, holds'⟩ := passes i s.world (by simp) holds
      refine returns_callPhase_bind ⟨_, checked⟩ fun err world called => ?_
      cases checked.symm.trans called
      refine ih (i + 1) _ (fun j w below => passes j w ?_) holds'
      simp only [List.length_cons]
      omega

/-- The service is taken to be running when every check passes. -/
theorem status_passes (s : State W) (step : s.data.startFailStep = -1)
    (passes : ∀ j w, j < phases.length → P j w → ∃ w', env.status cfg j w = .ok (none, w') ∧
      P (j + 1) w') (holds : P 0 (env.now s.world).2) :
    Returns (status env cfg phases) s fun _ t => t.data.kubeRunning = true := by
  unfold status
  apply returns_time_bind
  apply returns_modifyData_bind
  apply Returns.get_bind
  refine Returns.ite (fun incomplete => absurd step incomplete) fun _ => ?_
  refine (statusChecks_passes cfg phases 0 _ (fun j w below => passes j w (by omega)) holds).bind ?_
  rintro _ t ⟨rfl, _⟩
  apply returns_modifyData_bind
  refine (tryToPersistStatus_spec env cfg _).bind ?_
  rintro _ u _
  refine (settleStatus_spec cfg none u).weaken ?_
  rintro _ v ⟨now, settled, -⟩
  exact congrArg Control.kubeRunning settled

end Specs
end Nodelet
