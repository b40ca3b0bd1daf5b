import Mathlib.Data.List.Induction
import Mathlib.Tactic.Common

/-! Systems that take one step for each choice. A condition on the steps restricts the
runs that are considered; what every permitted step preserves holds in every state
that such a run reaches. -/
namespace Transition
variable {ι σ : Type}

/-- The states that are reached by steps which are all permitted where they are taken. -/
inductive Reaches (step : ι → σ → Option σ) (permitted : ι → σ → Prop) (s : σ) : σ → Prop where
  | refl : Reaches step permitted s s
  | next : Reaches step permitted s t → permitted choice t → step choice t = some u →
    Reaches step permitted s u

/-- Take these steps in turn, each only where it is permitted. -/
def follow (step : ι → σ → Option σ) (permitted : ι → σ → Prop)
    [∀ choice s, Decidable (permitted choice s)] (choices : List ι) (s : σ) : Option σ :=
  choices.foldlM (fun s choice => if permitted choice s then step choice s else none) s

variable {step : ι → σ → Option σ} {permitted : ι → σ → Prop} {s t : σ}

theorem Reaches.invariant {P : σ → Prop} (reached : Reaches step permitted s t) (initial : P s)
    (preserved : ∀ choice before after, P before → permitted choice before →
      step choice before = some after → P after) : P t := by
  induction reached with
  | refl => exact initial
  | next _ allowed taken ih => exact preserved _ _ _ ih allowed taken

theorem follow_reaches [∀ choice s, Decidable (permitted choice s)] {choices : List ι}
    (followed : follow step permitted choices s = some t) : Reaches step permitted s t := by
  induction choices using List.reverseRecOn generalizing t with
  | nil =>
    cases followed
    exact .refl
  | append_singleton earlier choice ih =>
    rw [follow, List.foldlM_append] at followed
    obtain ⟨middle, before, last⟩ := Option.bind_eq_some_iff.mp followed
    simp only [List.foldlM_cons, List.foldlM_nil, bind_pure] at last
    split_ifs at last with allowed
    exact .next (ih before) allowed last

section Replay
variable {ε : Type} {turn : σ → ε → σ} {P : σ → ε → Prop} {first second events : List ε}

/-- Every event has the property in the state that it finds when the events are replayed. -/
def Along (turn : σ → ε → σ) (P : σ → ε → Prop) : σ → List ε → Prop
  | _, [] => True
  | s, e :: rest => P s e ∧ Along turn P (turn s e) rest

instance Along.decidable [∀ s e, Decidable (P s e)] : ∀ s events, Decidable (Along turn P s events)
  | _, [] => inferInstanceAs (Decidable True)
  | s, e :: rest => @instDecidableAnd _ _ _ (Along.decidable (turn s e) rest)

theorem along_append : Along turn P s (first ++ second) ↔
    Along turn P s first ∧ Along turn P (first.foldl turn s) second := by
  induction first generalizing s with
  | nil => simp [Along]
  | cons e rest ih => simp only [List.cons_append, Along, List.foldl_cons, ih, and_assoc]

/-- Events that leave the state alone are replayed on one and the same. -/
theorem foldl_still (still : ∀ e ∈ events, turn s e = s) : events.foldl turn s = s := by
  induction events with
  | nil => rfl
  | cons e rest ih =>
    rw [List.foldl_cons, still e List.mem_cons_self]
    exact ih fun e member => still e (List.mem_cons_of_mem _ member)

theorem along_still (still : ∀ e ∈ events, turn s e = s) :
    Along turn P s events ↔ ∀ e ∈ events, P s e := by
  induction events with
  | nil => simp [Along]
  | cons e rest ih =>
    have onward := ih fun e member => still e (List.mem_cons_of_mem _ member)
    simp only [Along, still e List.mem_cons_self, onward, List.forall_mem_cons]

end Replay
end Transition
