import Nodelet.Ctl.SyncLoop

/-! What the status map knows of the nodes after part of a pass. The first fetch reads every node;
a later pass reads those that were not seen healthy. -/
namespace Nodeletctl
namespace SyncLoop
open Transition (Reaches)

/-- The states of the nodes over time: in each pass, at each position of the list. -/
abbrev Answers := Nat → Nat → Option String

variable (nodes : List HostConfig) (answers : Answers)

/-- The nodes answer as given. -/
def Follows : Choice → State → Prop
  | .fetch answer, s => ∀ next, s.main = .fetching next → answer = answers 0 next
  | .visit answer, s => ∀ next synced, s.poller = .syncing next synced →
    answer = answers s.pass next
  | _, _ => True

instance : (choice : Choice) → (s : State) → Decidable (Follows answers choice s)
  | .fetch answer, s =>
    match main : s.main with
    | .fetching next => decidable_of_iff (answer = answers 0 next) (by simp [Follows, main])
    | .waiting | .returned | .failed => isTrue (by simp [Follows, main])
  | .visit answer, s =>
    match poller : s.poller with
    | .syncing next _ => decidable_of_iff (answer = answers s.pass next) (by simp [Follows, poller])
    | .unborn | .selecting | .exited | .panicked => isTrue (by simp [Follows, poller])
  | .connectFails, _ | .start, _ | .tick, _ | .selectDone, _ | .selectTick, _ | .finish, _ | .wake,
    _ => isTrue trivial

/-- The node of this name answers in front of this position of the pass that it is healthy. In the
first fetch the last answer of a node counts. -/
def OkBefore (pass bound : Nat) (nodeName : String) : Prop :=
  ∃ i < bound, nodes[i]?.map HostConfig.nodeName = some nodeName ∧
    answers pass i = some nodeHealthy ∧
    (pass = 0 → ∀ j < bound, i < j → nodes[j]?.map HostConfig.nodeName ≠ some nodeName)

def OkIn (pass : Nat) (nodeName : String) : Prop :=
    OkBefore nodes answers pass nodes.length nodeName

variable {nodes answers} {pass next bound : Nat} {nodeName : String} {node : HostConfig}

theorem not_okBefore_zero : ¬ OkBefore nodes answers pass 0 nodeName := nofun

theorem okBefore_fetched (here : nodes[next]? = some node) :
    OkBefore nodes answers 0 (next + 1) nodeName ↔
      if nodeName = node.nodeName then answers 0 next = some nodeHealthy
      else OkBefore nodes answers 0 next nodeName := by
  split
  · next same =>
    subst same
    constructor
    · rintro ⟨i, inside, named, healthy, last⟩
      obtain early | rfl := Nat.lt_succ_iff_lt_or_eq.mp inside
      · exact absurd (by rw [here]; rfl) (last rfl next (Nat.lt_succ_self next) early)
      · exact healthy
    · exact fun healthy => ⟨next, Nat.lt_succ_self next, by rw [here]; rfl, healthy, fun _ j _ _ => by omega⟩
  · next other =>
    have elsewhere : nodes[next]?.map HostConfig.nodeName ≠ some nodeName := by
      rw [here]
      exact fun same => other (Option.some.inj same).symm
    constructor
    · rintro ⟨i, inside, named, healthy, last⟩
      obtain early | rfl := Nat.lt_succ_iff_lt_or_eq.mp inside
      · exact ⟨i, early, named, healthy, fun zero j bound => last zero j (Nat.lt_succ_of_lt bound)⟩
      · exact absurd named elsewhere
    · rintro ⟨i, inside, named, healthy, last⟩
      refine ⟨i, Nat.lt_succ_of_lt inside, named, healthy, fun zero j bound after => ?_⟩
      obtain early | rfl := Nat.lt_succ_iff_lt_or_eq.mp bound
      · exact last zero j early after
      · exact elsewhere

theorem okBefore_visited (later : pass ≠ 0) (here : nodes[next]? = some node) :
    OkBefore nodes answers pass (next + 1) nodeName ↔
      OkBefore nodes answers pass next nodeName ∨
        nodeName = node.nodeName ∧ answers pass next = some nodeHealthy := by
  constructor
  · rintro ⟨i, inside, named, healthy, -⟩
    obtain early | rfl := Nat.lt_succ_iff_lt_or_eq.mp inside
    · exact .inl ⟨i, early, named, healthy, fun zero => absurd zero later⟩
    · rw [here] at named
      exact .inr ⟨(Option.some.inj named).symm, healthy⟩
  · rintro (⟨i, inside, named, healthy, -⟩ | ⟨rfl, healthy⟩)
    · exact ⟨i, Nat.lt_succ_of_lt inside, named, healthy, fun zero => absurd zero later⟩
    · exact ⟨next, Nat.lt_succ_self next, by rw [here]; rfl, healthy, fun zero => absurd zero later⟩

/-- The pass in which a node answers for the first time that it is healthy. -/
def FirstOk (nodes : List HostConfig) (answers : Answers) (pass bound : Nat) (nodeName : String) :
    Prop :=
  OkBefore nodes answers pass bound nodeName ∧
    ∀ earlier < pass, ¬ OkIn nodes answers earlier nodeName

/-- What the status map says, and what has been found in each pass so far, is what the nodes have
answered. -/
structure Known (nodes : List HostConfig) (answers : Answers) (pass bound : Nat)
    (health : String → String) (found : Nat → String → Option String) : Prop where
  health : ∀ nodeName, health nodeName = nodeHealthy ↔
    (∃ earlier < pass, OkIn nodes answers earlier nodeName) ∨
      OkBefore nodes answers pass bound nodeName
  current : ∀ nodeName, found pass nodeName = some nodeHealthy ↔
    FirstOk nodes answers pass bound nodeName
  past : ∀ earlier < pass, ∀ nodeName, found earlier nodeName = some nodeHealthy ↔
    FirstOk nodes answers earlier nodes.length nodeName
  future : ∀ later > pass, ∀ nodeName, found later nodeName = none

theorem answered_healthy {answer : Option String} :
    answer.getD "" = nodeHealthy ↔ answer = some nodeHealthy := by
  cases answer with
  | none => simpa using (by decide : "" ≠ nodeHealthy)
  | some health => simp

namespace Known
variable {health : String → String} {found : Nat → String → Option String}

theorem initial : Known nodes answers 0 0 (fun _ => "") fun _ _ => none where
  health nodeName := by simpa [not_okBefore_zero] using (by decide : "" ≠ nodeHealthy)
  current nodeName := by simp [FirstOk, not_okBefore_zero]
  past _ impossible := absurd impossible (Nat.not_lt_zero _)
  future _ _ _ := rfl

theorem begins (known : Known nodes answers pass nodes.length health found) :
    Known nodes answers (pass + 1) 0 health found where
  health nodeName := by
    rw [known.health]
    simp only [not_okBefore_zero, or_false, Nat.lt_succ_iff_lt_or_eq, or_and_right, exists_or,
      exists_eq_left]
    rfl
  current nodeName := by simp [FirstOk, not_okBefore_zero,
    known.future (pass + 1) (Nat.lt_succ_self pass)]
  past earlier before nodeName := by
    obtain earlier | rfl := Nat.lt_succ_iff_lt_or_eq.mp before
    · exact known.past _ earlier nodeName
    · exact known.current nodeName
  future later after := known.future later (Nat.lt_of_succ_lt after)

theorem read (known : Known nodes answers pass bound health found)
    (others : ∀ other, other ≠ nodeName →
      (OkBefore nodes answers pass (bound + 1) other ↔ OkBefore nodes answers pass bound other))
    (unknown : ∀ earlier < pass, ¬ OkIn nodes answers earlier nodeName)
    (now : OkBefore nodes answers pass (bound + 1) nodeName ↔
      answers pass bound = some nodeHealthy) :
    Known nodes answers pass (bound + 1)
      (Function.update health nodeName ((answers pass bound).getD ""))
      (Function.update found pass
      (Function.update (found pass) nodeName (some ((answers pass bound).getD "")))) where
  health other := by
    by_cases same : other = nodeName
    · subst same
      rw [Function.update_self, answered_healthy, now]
      exact ⟨.inr, fun either => either.resolve_left fun ⟨earlier, before, ok⟩ => unknown earlier before ok⟩
    · rw [Function.update_of_ne same, known.health, others other same]
  current other := by
    by_cases same : other = nodeName
    · subst same
      rw [Function.update_self, Function.update_self, Option.some.injEq, answered_healthy, FirstOk, now]
      exact (and_iff_left unknown).symm
    · rw [Function.update_self, Function.update_of_ne same, known.current, FirstOk, FirstOk, others other same]
  past earlier before other := by
    rw [Function.update_of_ne (Nat.ne_of_lt before)]
    exact known.past earlier before other
  future later after other := by
    rw [Function.update_of_ne (Nat.ne_of_gt after)]
    exact known.future later after other

theorem fetch (known : Known nodes answers 0 bound health found)
    (here : nodes[bound]? = some node) :
    Known nodes answers 0 (bound + 1)
      (Function.update health node.nodeName ((answers 0 bound).getD ""))
      (Function.update found 0
      (Function.update (found 0) node.nodeName (some ((answers 0 bound).getD "")))) := by
  refine known.read (fun other different => ?_) (fun _ before => absurd before (Nat.not_lt_zero _))
    ?_
  · rw [okBefore_fetched here, if_neg different]
  · rw [okBefore_fetched here, if_pos rfl]

theorem not_healthy (known : Known nodes answers pass bound health found)
    (sick : health nodeName ≠ nodeHealthy) :
    (∀ earlier < pass, ¬ OkIn nodes answers earlier nodeName) ∧
      ¬ OkBefore nodes answers pass bound nodeName := by
  have neither := mt (known.health nodeName).mpr sick
  push Not at neither
  exact neither

theorem refresh (known : Known nodes answers pass bound health found) (later : pass ≠ 0)
    (here : nodes[bound]? = some node) (sick : health node.nodeName ≠ nodeHealthy) :
    Known nodes answers pass (bound + 1)
      (Function.update health node.nodeName ((answers pass bound).getD ""))
      (Function.update found pass
      (Function.update (found pass) node.nodeName (some ((answers pass bound).getD "")))) := by
  obtain ⟨never, notYet⟩ := known.not_healthy sick
  refine known.read (fun other different => ?_) never ?_
  · simp [okBefore_visited later here, different]
  · simp [okBefore_visited later here, notYet]

/-- A node that was seen healthy is not read, whatever it would answer. -/
theorem skip (known : Known nodes answers pass bound health found) (later : pass ≠ 0)
    (here : nodes[bound]? = some node) (healthy : health node.nodeName = nodeHealthy) :
    Known nodes answers pass (bound + 1) health found where
  health other := by
    rw [known.health, okBefore_visited later here]
    refine ⟨Or.imp_right .inl, ?_⟩
    rintro (before | now | ⟨rfl, -⟩)
    · exact .inl before
    · exact .inr now
    · exact (known.health node.nodeName).mp healthy
  current other := by
    rw [known.current, FirstOk, FirstOk, okBefore_visited later here]
    refine and_congr_left fun never => ⟨.inl, ?_⟩
    rintro (now | ⟨rfl, -⟩)
    · exact now
    · exact ((known.health node.nodeName).mp healthy).resolve_left fun ⟨earlier, before, ok⟩ =>
        never earlier before ok
  past := known.past
  future := known.future

end Known

end SyncLoop
end Nodeletctl
