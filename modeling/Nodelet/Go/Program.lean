import Mathlib.Tactic.Common

/-! Sequential Go programs as state transformers that return or halt the process.
A run-time panic and a call of `os.Exit` are both halts, so that an early end of
the process is never confused with a returned value. The rules below are the
total-correctness rules for such programs and the invariant rules for their
repeated execution. -/
namespace Go

/-- A non-nil `error` value; only its text is observable. -/
abbrev Error := String

inductive Panic where
  | indexOutOfRange
  | sliceBoundsOutOfRange
  | nilDereference
  | integerDivideByZero
  deriving DecidableEq, Repr

inductive Halt where
  | panic (cause : Panic)
  | exit (code : Nat)
  deriving DecidableEq, Repr

/-- The indexing expression `xs[i]`. -/
def index (xs : List α) (i : Int) : Except Halt α :=
  if 0 ≤ i then
    match xs[i.toNat]? with
    | some x => .ok x
    | none => .error (.panic .indexOutOfRange)
  else .error (.panic .indexOutOfRange)

theorem index_eq {xs : List α} {i : Nat} (inside : i < xs.length) :
    index xs (i : Int) = .ok xs[i] := by
  simp [index, inside]

/-- The error that is returned, if there is one. -/
def errorOf {α : Type} : Except Error α → Option Error
  | .ok _ => none
  | .error err => some err

section Except
variable {ε ε' α β : Type} {program : Except ε α} {value : α}

theorem bind_eq_ok {next : α → Except ε β} {value : β} :
    (program >>= next) = .ok value ↔ ∃ a, program = .ok a ∧ next a = .ok value := by
  cases program <;> simp [bind, Except.bind]

theorem map_eq_ok {f : α → β} {value : β} :
    program.map f = .ok value ↔ ∃ a, program = .ok a ∧ f a = value := by
  cases program <;> simp [Except.map]

theorem mapError_eq_ok {f : ε → ε'} : program.mapError f = .ok value ↔ program = .ok value := by
  cases program <;> simp [Except.mapError]

end Except

/-- The slice expression `xs[low:]`. -/
def sliceFrom (xs : List α) (low : Int) : Except Halt (List α) :=
  if 0 ≤ low ∧ low ≤ xs.length then .ok (xs.drop low.toNat)
  else .error (.panic .sliceBoundsOutOfRange)

/-- The integer remainder `a % b`, truncated towards zero. -/
def remainder (a b : Int) : Except Halt Int :=
  if b = 0 then .error (.panic .integerDivideByZero) else .ok (a.tmod b)

theorem remainder_eq (a : Int) {b : Int} (nonzero : b ≠ 0) : remainder a b = .ok (a.tmod b) := by
  simp [remainder, nonzero]

abbrev Program (σ : Type) := StateT σ (Except Halt)

/-- The program returns from this state, and its result satisfies `post`. -/
def Returns (program : Program σ α) (state : σ) (post : α → σ → Prop) : Prop :=
  ∃ value after, program state = .ok (value, after) ∧ post value after

namespace Returns
variable {σ α β : Type} {program : Program σ α} {state : σ} {post : α → σ → Prop}

theorem elim (returns : Returns program state post) (run : program state = .ok (value, after)) :
    post value after := by
  obtain ⟨v, t, actual, holds⟩ := returns
  rw [run] at actual
  cases actual
  exact holds

variable {weaker : α → σ → Prop} {final : β → σ → Prop} {next : α → Program σ β}
  {yes no : Program σ α}

theorem weaken (returns : Returns program state post)
    (implies : ∀ value after, post value after → weaker value after) :
    Returns program state weaker := by
  obtain ⟨v, t, run, holds⟩ := returns
  exact ⟨v, t, run, implies v t holds⟩

theorem pure (holds : post value state) : Returns (pure value : Program σ α) state post :=
  ⟨value, state, rfl, holds⟩

theorem bind (first : Returns program state post)
    (rest : ∀ value after, post value after → Returns (next value) after final) :
    Returns (program >>= next) state final := by
  obtain ⟨v, t, run, holds⟩ := first
  obtain ⟨w, u, run', holds'⟩ := rest v t holds
  exact ⟨w, u, by simp only [Bind.bind, StateT.bind, run, Except.bind, run'], holds'⟩

/-- Where the rest halts after the first part returned, the whole halts. -/
theorem bind_error (first : Returns program state post)
    (rest : ∀ value after, post value after → next value after = .error halt) :
    (program >>= next) state = .error halt := by
  obtain ⟨v, t, run, holds⟩ := first
  simp only [Bind.bind, StateT.bind, run, Except.bind, rest v t holds]

theorem get_bind {next : σ → Program σ β} (rest : Returns (next state) state final) :
    Returns (MonadState.get >>= next) state final :=
  rest

theorem modify_bind {update : σ → σ} {next : PUnit → Program σ β}
    (rest : Returns (next ⟨⟩) (update state) final) :
    Returns (modify update >>= next) state final :=
  rest

theorem lift_bind {result : Except Halt α} (ok : result = .ok value)
    (rest : Returns (next value) state final) : Returns (liftM result >>= next) state final := by
  subst ok
  exact rest

theorem ite {condition : Prop} [Decidable condition] (whenTrue : condition → Returns yes state post)
    (whenFalse : ¬ condition → Returns no state post) :
    Returns (if condition then yes else no) state post := by
  split
  · exact whenTrue ‹_›
  · exact whenFalse ‹_›

end Returns

/-- A result that is a returned value with `post` or an exit with an allowed code, never a panic. -/
def Ends (exits : Nat → Prop) (post : α → Prop) : Except Halt α → Prop
  | .ok value => post value
  | .error (.exit code) => exits code
  | .error (.panic _) => False

namespace Ends
variable {α β : Type} {exits : Nat → Prop} {post : α → Prop} {result : Except Halt α}

theorem weaken {weaker : α → Prop} (ends : Ends exits post result)
    (implies : ∀ value, post value → weaker value) : Ends exits weaker result := by
  match result, ends with
  | .ok value, holds => exact implies value holds
  | .error (.exit _), allowed => exact allowed

variable {final : β → Prop}

theorem bind {next : α → Except Halt β} (first : Ends exits post result)
    (rest : ∀ value, post value → Ends exits final (next value)) :
    Ends exits final (result >>= next) := by
  match result, first with
  | .ok value, holds => exact rest value holds
  | .error (.exit _), allowed => exact allowed

theorem map {f : α → β} (ends : Ends exits (fun value => final (f value)) result) :
    Ends exits final (f <$> result) := by
  match result, ends with
  | .ok _, holds => exact holds
  | .error (.exit _), allowed => exact allowed

theorem returned (ends : Ends (fun _ => False) post result) :
    ∃ value, result = .ok value ∧ post value := by
  match result, ends with
  | .ok value, holds => exact ⟨value, rfl, holds⟩

end Ends

/-- The program ends from this state by a return with `post` or by an allowed exit. -/
def Safe (exits : Nat → Prop) (program : Program σ α) (state : σ) (post : α → σ → Prop) : Prop :=
  Ends exits (fun result => post result.1 result.2) (program state)

namespace Safe
variable {σ α β : Type} {exits : Nat → Prop} {program : Program σ α} {state : σ}
  {post : α → σ → Prop}

theorem of_returns (returns : Returns program state post) : Safe exits program state post := by
  obtain ⟨v, t, run, holds⟩ := returns
  rw [Safe, run]
  exact holds

theorem returns (safe : Safe (fun _ => False) program state post) : Returns program state post := by
  obtain ⟨⟨v, t⟩, run, holds⟩ := Ends.returned safe
  exact ⟨v, t, run, holds⟩

theorem weaken (safe : Safe exits program state post)
    (implies : ∀ value after, post value after → weaker value after) :
    Safe exits program state weaker :=
  Ends.weaken safe fun _ => implies _ _

theorem bind (first : Safe exits program state post)
    (rest : ∀ value after, post value after → Safe exits (next value) after final) :
    Safe exits (program >>= next) state final :=
  Ends.bind first fun _ => rest _ _

theorem ite {condition : Prop} [Decidable condition]
    (whenTrue : condition → Safe exits yes state post)
    (whenFalse : ¬ condition → Safe exits no state post) :
    Safe exits (if condition then yes else no) state post := by
  split
  · exact whenTrue ‹_›
  · exact whenFalse ‹_›

end Safe

theorem error_bind {program : Program σ α} (halts : program state = .error halt) :
    (program >>= next) state = .error halt := by
  simp only [Bind.bind, StateT.bind, halts, Except.bind]

theorem bind_ok {first : Except Halt α} {next : α → Except Halt β}
    (run : first >>= next = .ok final) :
    ∃ middle, first = .ok middle ∧ next middle = .ok final := by
  cases first with
  | error halt => contradiction
  | ok middle => exact ⟨middle, rfl, run⟩

theorem ok_of_toOption {result : Except Halt α} (evaluated : result.toOption = some value) :
    result = .ok value := by
  cases result with
  | error halt => contradiction
  | ok actual => rw [Option.some.inj evaluated]

/-- Execute one step for each input in turn, while the process lives. -/
def execute (step : ι → σ → Except Halt σ) : List ι → σ → Except Halt σ
  | [], state => .ok state
  | input :: rest, state => step input state >>= execute step rest

section Execute
variable {ι σ : Type} {step : ι → σ → Except Halt σ} {P : σ → Prop}

theorem execute_cons {input : ι} {rest : List ι}
    (run : execute step (input :: rest) state = .ok final) :
    ∃ middle, step input state = .ok middle ∧ execute step rest middle = .ok final :=
  bind_ok run

/-- What every step preserves holds in the state reached. -/
theorem execute_invariant {inputs : List ι}
    (preserved : ∀ input ∈ inputs, ∀ before after, P before → step input before = .ok after →
      P after) (run : execute step inputs state = .ok final) (initial : P state) : P final := by
  induction inputs generalizing state with
  | nil => cases run; exact initial
  | cons input rest ih =>
    obtain ⟨middle, stepped, remaining⟩ := execute_cons run
    refine ih (fun later member => preserved later (List.mem_cons_of_mem _ member)) remaining ?_
    exact preserved input List.mem_cons_self _ _ initial stepped

/-- Steps that end well where the invariant holds make the whole run end well. -/
theorem execute_ends {exits : Nat → Prop} {inputs : List ι}
    (ends : ∀ input ∈ inputs, ∀ before, P before → Ends exits P (step input before))
    (initial : P state) : Ends exits P (execute step inputs state) := by
  induction inputs generalizing state with
  | nil => exact initial
  | cons input rest ih =>
    refine (ends input List.mem_cons_self state initial).bind fun middle holds => ?_
    exact ih (fun later member => ends later (List.mem_cons_of_mem _ member)) holds

end Execute
end Go
