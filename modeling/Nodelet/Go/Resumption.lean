import Mathlib.Tactic.Common

/-! Programs that call services outside the process. The surroundings may move between
any two calls, and every call may fail, which ends the program. A proof outline puts
an assertion before every call; the assertion has to be stable under what the
surroundings do, and to imply an invariant. -/
namespace Go

/-- A program that has returned, or that waits for the answer to a request. -/
inductive Resumption (Request : Type) (Answer : Request → Type) (α : Type) where
  | done (value : α)
  | call (request : Request) (next : Answer request → Resumption Request Answer α)

namespace Resumption
variable {Request : Type} {Answer : Request → Type} {α β : Type}

protected def bind : Resumption Request Answer α → (α → Resumption Request Answer β) →
    Resumption Request Answer β
  | .done value, next => next value
  | .call request rest, next => .call request fun answer => (rest answer).bind next

instance : Monad (Resumption Request Answer) where
  pure := .done
  bind := Resumption.bind

def perform (request : Request) : Resumption Request Answer (Answer request) := .call request .done

/-- The value of a program whose requests are answered like this. -/
def eval (answer : (request : Request) → Answer request) : Resumption Request Answer α → α
  | .done value => value
  | .call request next => (next (answer request)).eval answer

/-- Each request is answered by a program that makes requests of another kind. -/
def translate {Request' : Type} {Answer' : Request' → Type}
    (implement : (request : Request) → Resumption Request' Answer' (Answer request)) :
    Resumption Request Answer α → Resumption Request' Answer' α
  | .done value => .done value
  | .call request next => (implement request).bind fun answer => (next answer).translate implement

protected theorem bind_assoc {γ : Type} (program : Resumption Request Answer α)
    (next : α → Resumption Request Answer β) (last : β → Resumption Request Answer γ) :
    (program.bind next).bind last = program.bind fun value => (next value).bind last := by
  induction program with
  | done value => rfl
  | call request rest ih => exact congrArg (Resumption.call request) (funext ih)

theorem translate_bind {Request' : Type} {Answer' : Request' → Type}
    (implement : (request : Request) → Resumption Request' Answer' (Answer request))
    (program : Resumption Request Answer α) (next : α → Resumption Request Answer β) :
    (program.bind next).translate implement =
      (program.translate implement).bind fun value => (next value).translate implement := by
  induction program with
  | done value => rfl
  | call request rest ih =>
    simp only [Resumption.bind, translate, Resumption.bind_assoc]
    exact congrArg (implement request).bind (funext ih)

end Resumption

/-- What happens around a program: the answers to its requests, the state a failed
request leaves, and the moves of others. `inv` has to hold all along and `failed`
after a failed request. -/
structure Surroundings (σ Request : Type) (Answer : Request → Type) where
  answers : (request : Request) → σ → Answer request → σ → Prop
  fails : Request → σ → σ → Prop
  moves : σ → σ → Prop
  inv : σ → Prop
  failed : σ → Prop

namespace Surroundings
variable {σ Request α β : Type} {Answer : Request → Type} (around : Surroundings σ Request Answer)

/-- An assertion that the moves of others keep, and that has the invariant. -/
structure Assertion (P : σ → Prop) : Prop where
  stable : ∀ s s', P s → around.moves s s' → P s'
  inv : ∀ s, P s → around.inv s

def Outline (post : α → σ → Prop) : Resumption Request Answer α → (σ → Prop) → Prop
  | .done value, P => ∀ s, P s → post value s
  | .call request next, P =>
    (∀ s s', P s → around.fails request s s' → around.failed s') ∧
    ∃ Q : Answer request → σ → Prop, (∀ answer, around.Assertion (Q answer)) ∧
      (∀ s answer s', P s → around.answers request s answer s' → Q answer s') ∧
      ∀ answer, Outline post (next answer) (Q answer)

variable {around} {post : α → σ → Prop} {P : σ → Prop}

namespace Outline

variable {program : Resumption Request Answer α}

theorem weaken {stronger : σ → Prop} (outline : around.Outline post program P)
    (implies : ∀ s, stronger s → P s) : around.Outline post program stronger := by
  cases program with
  | done value => exact fun s holds => outline s (implies s holds)
  | call request next =>
    obtain ⟨fails, Q, assertion, answered, rest⟩ := outline
    exact ⟨fun s s' holds => fails s s' (implies s holds), Q, assertion,
      fun s answer s' holds => answered s answer s' (implies s holds), rest⟩

theorem vacuous (never : ∀ s, ¬ P s) : around.Outline post program P := by
  induction program generalizing P with
  | done value => exact fun s holds => absurd holds (never s)
  | call request next ih =>
    exact ⟨fun s _ holds => absurd holds (never s), fun _ _ => False, fun _ =>
      ⟨fun _ _ => False.elim, fun _ => False.elim⟩,
      fun s _ _ holds => absurd holds (never s), fun answer => ih answer fun _ => id⟩

/-- What an assertion says about values alone is known to all that follows. -/
theorem assuming {fact : Prop} (known : ∀ s, P s → fact)
    (outline : fact → around.Outline post program P) : around.Outline post program P := by
  by_cases holds : fact
  · exact outline holds
  · exact vacuous fun s here => holds (known s here)

theorem bind {next : α → Resumption Request Answer β}
    {middle : α → σ → Prop} {final : β → σ → Prop} (first : around.Outline middle program P)
    (rest : ∀ value, around.Outline final (next value) (middle value)) :
    around.Outline final (program >>= next) P := by
  induction program generalizing P with
  | done value => exact (rest value).weaken first
  | call request continuation ih =>
    obtain ⟨fails, Q, assertion, answered, outlines⟩ := first
    exact ⟨fails, Q, assertion, answered, fun answer => ih answer (outlines answer)⟩

theorem pure {value : α} (holds : ∀ s, P s → post value s) :
    around.Outline post (pure value : Resumption Request Answer α) P :=
  holds

/-- The rule for one request: the assertion after it, then the rest. -/
theorem perform_bind {next : Answer request → Resumption Request Answer α}
    (Q : Answer request → σ → Prop) (assertion : ∀ answer, around.Assertion (Q answer))
    (fails : ∀ s s', P s → around.fails request s s' → around.failed s')
    (answered : ∀ s answer s', P s → around.answers request s answer s' → Q answer s')
    (rest : ∀ answer, around.Outline post (next answer) (Q answer)) :
    around.Outline post (Resumption.perform request >>= next) P :=
  ⟨fails, Q, assertion, answered, rest⟩

theorem ite {condition : Prop} [Decidable condition] {yes no : Resumption Request Answer α}
    (whenTrue : condition → around.Outline post yes P) (whenFalse : ¬ condition →
      around.Outline post no P) : around.Outline post (if condition then yes else no) P := by
  split
  · exact whenTrue ‹_›
  · exact whenFalse ‹_›

end Outline

/-- A program in a state that some assertion of its outline describes. -/
def Held (around : Surroundings σ Request Answer) (post : α → σ → Prop)
    (program : Resumption Request Answer α) (s : σ) : Prop :=
  ∃ P, around.Assertion P ∧ around.Outline post program P ∧ P s

namespace Held
variable {program : Resumption Request Answer α} {s s' : σ} {request : Request}
  {next : Answer request → Resumption Request Answer α}

theorem inv (held : around.Held post program s) : around.inv s := by
  obtain ⟨P, assertion, _, holds⟩ := held
  exact assertion.inv s holds

theorem moved (held : around.Held post program s) (move : around.moves s s') :
    around.Held post program s' := by
  obtain ⟨P, assertion, outline, holds⟩ := held
  exact ⟨P, assertion, outline, assertion.stable s s' holds move⟩

theorem answered (held : around.Held post (.call request next) s)
    (answers : around.answers request s answer s') : around.Held post (next answer) s' := by
  obtain ⟨P, _, ⟨_, Q, assertion, established, rest⟩, holds⟩ := held
  exact ⟨Q answer, assertion answer, rest answer, established s answer s' holds answers⟩

theorem failed (held : around.Held post (.call request next) s)
    (fails : around.fails request s s') : around.failed s' := by
  obtain ⟨P, _, ⟨failing, _⟩, holds⟩ := held
  exact failing s s' holds fails

theorem returned {value : α} (held : around.Held post (.done value) s) : post value s := by
  obtain ⟨P, _, outline, holds⟩ := held
  exact outline s holds

end Held
end Surroundings
end Go
