import Nodelet.Go.Trace

/-! Programs that call services, and that may return an error or panic on an answer. An error is
passed on to the caller; a panic ends the program. -/
namespace Go

inductive Failure where
  | error (err : Error)
  | panic (cause : Panic)
  deriving DecidableEq, Repr

abbrev Faulty (Request : Type) (Answer : Request → Type) (α : Type) :=
    ExceptT Failure (Resumption Request Answer) α

namespace Faulty
open Resumption (Event Runs Traces runs_done run_bind runs_bind_ok)
variable {σ Request α β : Type} {Answer : Request → Type}

def perform (request : Request) : Faulty Request Answer (Answer request) :=
  ExceptT.mk (.call request fun answer => .done (.ok answer))

/-- `return err`, where there is one. -/
def orFail : Option Error → Faulty Request Answer Unit
  | some err => throw (.error err)
  | none => pure ()

def ofExcept : Except Error α → Faulty Request Answer α
  | .error err => throw (.error err)
  | .ok value => pure value

/-- The indexing expression `xs[0]`. -/
def first : List α → Faulty Request Answer α
  | [] => throw (.panic .indexOutOfRange)
  | x :: _ => pure x

def Panics (outcome : Except Failure α) : Prop := ∃ cause, outcome = .error (.panic cause)

variable {program : Faulty Request Answer α} {next : α → Faulty Request Answer β}

/-- Where the program returns, an event of this kind has happened. -/
def Needs (found : Event Answer → Prop) (program : Faulty Request Answer α) : Prop :=
  ∀ (trace : List (Event Answer)) (value : α), Traces (fun _ =>
    True) program.run trace (.done (.ok value)) → ∃ event ∈ trace, found event

theorem Needs.bind {found : Event Answer → Prop} (last : ∀ value, Needs found (next value)) :
    Needs found (program >>= next) := by
  intro trace value runs
  obtain ⟨first, middle, _, second, rfl, -, later⟩ := runs_bind_ok.mp runs
  obtain ⟨event, member, holds⟩ := last middle second value later
  exact ⟨event, List.mem_append_right first member, holds⟩

/-- Answers that are not safe make the program panic at once, and it panics on no others. -/
def Guarded (safe : Event Answer → Prop) : Resumption Request Answer (Except Failure α) → Prop
  | .done outcome => ¬ Panics outcome
  | .call request next => ∀ answer, safe ⟨request, answer⟩ ∧ Guarded safe (next answer) ∨
      ¬ safe ⟨request, answer⟩ ∧ ∃ cause, next answer = .done (.error (.panic cause))

namespace Guarded
variable {safe : Event Answer → Prop}

/-- A run ends without a panic exactly if all its answers are safe. -/
theorem returns_iff {step : σ → Event Answer → σ → Prop} {s t : σ}
    {program : Resumption Request Answer (Except Failure α)} {outcome : Except Failure α}
    (guarded : Guarded safe program) (runs : Runs step program s trace (.done outcome) t) :
    ¬ Panics outcome ↔ ∀ event ∈ trace, safe event := by
  generalize ends : Resumption.done outcome = remaining at runs
  induction runs with
  | refl =>
    subst ends
    exact iff_of_true guarded (by simp)
  | call _ rest ih =>
    obtain ⟨fine, later⟩ | ⟨fatal, cause, panicked⟩ := guarded _
    · rw [ih later ends, List.forall_mem_cons]
      exact (and_iff_right fine).symm
    · subst ends
      rw [panicked] at rest
      obtain ⟨-, ended, -⟩ := runs_done.mp rest
      cases ended
      refine iff_of_false (fun returns => returns ⟨cause, rfl⟩) fun all => ?_
      exact fatal (all _ List.mem_cons_self)

theorem eval {program : Resumption Request Answer (Except Failure α)}
    {answer : (request : Request) → Answer request} (guarded : Guarded safe program)
    (fine : ∀ request, safe ⟨request, answer request⟩) : ¬ Panics (program.eval answer) := by
  induction program with
  | done outcome => exact guarded
  | call request next ih =>
    obtain ⟨_, later⟩ | ⟨fatal, _⟩ := guarded (answer request)
    · exact ih _ later
    · exact absurd (fine request) fatal

theorem pure {value : α} : Guarded safe (pure value : Faulty Request Answer α).run := by
  rintro ⟨cause, panicked⟩
  cases panicked

theorem error : Guarded safe (throw (.error err) : Faulty Request Answer α).run := by
  rintro ⟨cause, panicked⟩
  cases panicked

theorem orFail {err : Option Error} :
    Guarded safe (orFail err : Faulty Request Answer Unit).run := by
  cases err with
  | some err => exact error
  | none => exact pure

theorem ofExcept {result : Except Error α} :
    Guarded safe (ofExcept result : Faulty Request Answer α).run := by
  cases result with
  | error err => exact error
  | ok value => exact pure

theorem bind (first : Guarded safe program.run) (rest : ∀ value, Guarded safe (next value).run) :
    Guarded safe (program >>= next).run := by
  rw [run_bind]
  generalize program.run = running at first ⊢
  induction running with
  | done outcome =>
    cases outcome with
    | ok value => exact rest value
    | error failure =>
      rintro ⟨cause, panicked⟩
      cases panicked
      exact first ⟨cause, rfl⟩
  | call request continuation ih =>
    intro answer
    obtain ⟨fine, later⟩ | ⟨fatal, cause, panicked⟩ := first answer
    · exact .inl ⟨fine, ih answer later⟩
    · refine .inr ⟨fatal, cause, ?_⟩
      simp only [panicked]
      rfl

theorem perform (fine : ∀ answer, safe ⟨request, answer⟩) :
    Guarded safe (perform request : Faulty Request Answer (Answer request)).run := by
  intro answer
  refine .inl ⟨fine answer, ?_⟩
  rintro ⟨cause, panicked⟩
  cases panicked

/-- An answer is looked at before the next call is made. -/
theorem perform_bind {next : Answer request → Faulty Request Answer α}
    (fine : ∀ answer, safe ⟨request, answer⟩ → Guarded safe (next answer).run)
    (fatal : ∀ answer, ¬ safe ⟨request, answer⟩ → ∃ cause, next answer = throw (.panic cause)) :
    Guarded safe (Faulty.perform request >>= next).run := by
  intro answer
  by_cases holds : safe ⟨request, answer⟩
  · exact .inl ⟨holds, fine answer holds⟩
  · obtain ⟨cause, panicked⟩ := fatal answer holds
    exact .inr ⟨holds, cause, panicked⟩

theorem ite {condition : Prop} [Decidable condition] {yes no : Faulty Request Answer α}
    (positive : condition → Guarded safe yes.run) (negative : ¬ condition → Guarded safe no.run) :
    Guarded safe (if condition then yes else no).run := by
  split
  · exact positive ‹_›
  · exact negative ‹_›

end Guarded
end Faulty
end Go
