import Nodelet.Go.Program
import Nodelet.Go.Resumption

/-! The traces of programs that call services outside the process: which requests they
make, in which order, and how they are answered. A goroutine that is joined before
its parent returns interleaves its requests with those of its parent. -/
namespace Go
namespace Resumption
variable {σ Request α β ε : Type} {Answer : Request → Type}

/-- A request with its answer. -/
abbrev Event (Answer : Request → Type) := (request : Request) × Answer request

/-- The events lead from a program and a state to what remains of the program, and to another
state. -/
inductive Runs (step : σ → Event Answer → σ → Prop) :
    Resumption Request Answer α → σ → List (Event Answer) → Resumption Request Answer α → σ →
      Prop where
  | refl : Runs step program s [] program s
  | call {next : Answer request → Resumption Request Answer α} (taken : step s ⟨request, answer⟩ t)
      (rest : Runs step (next answer) t trace remaining u) :
      Runs step (.call request next) s (⟨request, answer⟩ :: trace) remaining u

variable {step : σ → Event Answer → σ → Prop} {s t u : σ} {trace : List (Event Answer)}
  {program remaining : Resumption Request Answer α} {value : α} {P : Event Answer → Prop}

@[simp] theorem runs_done :
    Runs step (.done value) s trace remaining t ↔ trace = [] ∧ remaining = .done value ∧ t = s := by
  constructor
  · rintro ⟨⟩
    exact ⟨rfl, rfl, rfl⟩
  · rintro ⟨rfl, rfl, rfl⟩
    exact .refl

theorem runs_call_done {next : Answer request → Resumption Request Answer α} :
    Runs step (.call request next) s trace (.done value) u ↔
      ∃ answer t rest, trace = ⟨request, answer⟩ :: rest ∧ step s ⟨request, answer⟩ t ∧
        Runs step (next answer) t rest (.done value) u := by
  constructor
  · rintro ⟨⟩
    exact ⟨_, _, _, rfl, ‹_›, ‹_›⟩
  · rintro ⟨answer, t, rest, rfl, taken, runs⟩
    exact .call taken runs

theorem Runs.unique {value value' : α} {s' t' : σ}
    (runs : Runs step program s trace (.done value) t)
    (again : Runs step program s' trace (.done value') t') : value' = value := by
  generalize ends : Resumption.done value = remaining at runs
  induction runs generalizing s' with
  | refl =>
    subst ends
    obtain ⟨-, same, -⟩ := runs_done.mp again
    exact Resumption.done.inj same
  | call _ _ ih =>
    cases again with
    | call _ again => exact ih again ends

theorem Runs.trans {middle : Resumption Request Answer α} {first second : List (Event Answer)}
    (runs : Runs step program s first middle t) (later : Runs step middle t second remaining u) :
    Runs step program s (first ++ second) remaining u := by
  induction runs with
  | refl => exact later
  | call taken _ ih => exact .call taken (ih later)

theorem Runs.weaken {weaker : σ → Event Answer → σ → Prop}
    (runs : Runs step program s trace remaining t)
    (implies : ∀ s event t, step s event t → weaker s event t) :
    Runs weaker program s trace remaining t := by
  induction runs with
  | refl => exact .refl
  | call taken _ ih => exact .call (implies _ _ _ taken) ih

theorem Runs.keeping (runs : Runs step program s trace remaining t)
    (all : ∀ event ∈ trace, P event) :
    Runs (fun s event t => step s event t ∧ P event) program s trace remaining t := by
  induction runs with
  | refl => exact .refl
  | call taken _ ih =>
    obtain ⟨first, rest⟩ := List.forall_mem_cons.mp all
    exact .call ⟨taken, first⟩ (ih rest)

section Conditional
variable {condition : Prop} [Decidable condition] {otherwise : Resumption Request Answer α}

theorem Runs.ite_pos (holds : condition) (runs : Runs step program s trace remaining t) :
    Runs step (if condition then program else otherwise) s trace remaining t := by
  rwa [if_pos holds]

theorem Runs.ite_neg (fails : ¬ condition) (runs : Runs step program s trace remaining t) :
    Runs step (if condition then otherwise else program) s trace remaining t := by
  rwa [if_neg fails]

end Conditional

variable {next : α → Resumption Request Answer β}

theorem Runs.bind (runs : Runs step program s trace remaining t) :
    Runs step (program.bind next) s trace (remaining.bind next) t := by
  induction runs with
  | refl => exact .refl
  | call taken _ ih => exact .call taken ih

theorem runs_bind {after : Resumption Request Answer β} :
    Runs step (program.bind next) s trace after u ↔
      (∃ middle, Runs step program s trace middle u ∧ after = middle.bind next) ∨
      ∃ first value t second, trace = first ++ second ∧ Runs step program s first (.done value) t ∧
        Runs step (next value) t second after u := by
  constructor
  · intro runs
    induction program generalizing s trace with
    | done value => exact .inr ⟨[], value, s, trace, rfl, .refl, runs⟩
    | call request continuation ih =>
      cases runs with
      | refl => exact .inl ⟨_, .refl, rfl⟩
      | call taken rest =>
        obtain ⟨middle, runs, rfl⟩ | ⟨first, value, t, second, rfl, runs, later⟩ := ih _ rest
        · exact .inl ⟨middle, .call taken runs, rfl⟩
        · exact .inr ⟨_, value, t, second, rfl, .call taken runs, later⟩
  · rintro (⟨middle, runs, rfl⟩ | ⟨first, value, t, second, rfl, runs, later⟩)
    · exact runs.bind
    · exact runs.bind.trans later

theorem runs_bind_done {value : β} :
    Runs step (program.bind next) s trace (.done value) u ↔
      ∃ first middle t second, trace = first ++ second ∧
      Runs step program s first (.done middle) t ∧
        Runs step (next middle) t second (.done value) u := by
  rw [runs_bind]
  constructor
  · rintro (⟨middle, runs, ended⟩ | runs)
    · cases middle with
      | done early =>
        have last : next early = .done value := ended.symm
        exact ⟨trace, early, u, [], (List.append_nil _).symm, runs, last ▸ .refl⟩
      | call => contradiction
    · exact runs
  · exact .inr

section Except
variable {ε : Type} {caller : ExceptT ε (Resumption Request Answer) α}
  {rest : α → ExceptT ε (Resumption Request Answer) β}

theorem run_bind : (caller >>= rest).run = caller.run.bind fun
    | .ok value => (rest value).run
    | .error err => .done (.error err) := by
  refine congrArg caller.run.bind (funext fun result => ?_)
  cases result <;> rfl

theorem runs_bind_ok {value : β} :
    Runs step (caller >>= rest).run s trace (.done (.ok value)) u ↔
      ∃ first middle t second, trace = first ++ second ∧
      Runs step caller.run s first (.done (.ok middle)) t ∧
        Runs step (rest middle).run t second (.done (.ok value)) u := by
  rw [run_bind, runs_bind_done]
  constructor
  · rintro ⟨first, result, t, second, rfl, runs, later⟩
    cases result with
    | ok middle => exact ⟨first, middle, t, second, rfl, runs, later⟩
    | error err => simp at later
  · rintro ⟨first, middle, t, second, rfl, runs, later⟩
    exact ⟨first, .ok middle, t, second, rfl, runs, later⟩

end Except

/-- Run the program to its end, with surroundings that give one answer to each request, or none. -/
def drive (answer : σ → (request : Request) → Option (Answer request × σ)) :
    Resumption Request Answer α → σ → Option (List (Event Answer) × α × σ)
  | .done value, s => some ([], value, s)
  | .call request next, s => do
    let (reply, t) ← answer s request
    let (trace, value, u) ← drive answer (next reply) t
    return (⟨request, reply⟩ :: trace, value, u)

theorem drive_runs {answer : σ → (request : Request) → Option (Answer request × σ)}
    (answers : ∀ s request reply t, answer s request = some (reply, t) → step s ⟨request, reply⟩ t)
    (driven : drive answer program s = some (trace, value, u)) :
    Runs step program s trace (.done value) u := by
  induction program generalizing s trace with
  | done last =>
    cases driven
    exact .refl
  | call request next ih =>
    obtain ⟨⟨reply, t⟩, answered, driven⟩ := Option.bind_eq_some_iff.mp driven
    obtain ⟨⟨rest, last, final⟩, later, same⟩ := Option.bind_eq_some_iff.mp driven
    cases same
    exact .call (answers _ _ _ _ answered) (ih reply later)

/-- Whatever the answers, the events of the program satisfy `P`, and its value satisfies `post`. -/
def Emits (P : Event Answer → Prop) (post : α → Prop) : Resumption Request Answer α → Prop
  | .done value => post value
  | .call request next => ∀ answer, P ⟨request, answer⟩ ∧ Emits P post (next answer)

namespace Emits
variable {P Q : Event Answer → Prop} {post : α → Prop}

theorem mem (emits : Emits P post program) (runs : Runs step program s trace remaining t) :
    ∀ event ∈ trace, P event := by
  induction runs with
  | refl => exact nofun
  | call _ _ ih => exact List.forall_mem_cons.mpr ⟨(emits _).1, ih (emits _).2⟩

theorem returned (emits : Emits P post program) (runs : Runs step program s trace (.done value) t) :
    post value := by
  generalize ended : Resumption.done value = remaining at runs
  induction runs with
  | refl =>
    subst ended
    exact emits
  | call _ _ ih => exact ih (emits _).2 ended

/-- What every event of the program preserves holds in every state that it leads to. -/
theorem invariant {Inv : σ → Prop}
    (emits : Emits (fun event => ∀ before after, Inv before → step before event after →
      Inv after) post program)
    (initial : Inv s) (runs : Runs step program s trace remaining t) : Inv t := by
  induction runs with
  | refl => exact initial
  | call taken _ ih => exact ih (emits _).2 ((emits _).1 _ _ initial taken)

theorem weaken {weaker : α → Prop} (emits : Emits P post program)
    (implies : ∀ event, P event → Q event)
    (returns : ∀ value, post value → weaker value) : Emits Q weaker program := by
  induction program with
  | done value => exact returns value emits
  | call request next ih => exact fun answer =>
    ⟨implies _ (emits answer).1, ih answer (emits answer).2⟩

theorem bind {final : β → Prop} (first : Emits P post program)
    (rest : ∀ value, post value → Emits P final (next value)) :
    Emits P final (program.bind next) := by
  induction program with
  | done value => exact rest value first
  | call request continuation ih => exact fun answer =>
    ⟨(first answer).1, ih answer (first answer).2⟩

theorem any (program : Resumption Request Answer α) :
    Emits (fun _ : Event Answer => True) (fun _ => True) program := by
  induction program with
  | done value => trivial
  | call request next ih => exact fun answer => ⟨trivial, ih answer⟩

theorem perform (holds : ∀ answer, P ⟨request, answer⟩) :
    Emits P (fun _ => True) (perform request : Resumption Request Answer _) :=
  fun answer => ⟨holds answer, trivial⟩

end Emits

theorem Runs.taken (runs : Runs step program s trace remaining t) :
    ∀ event ∈ trace, ∃ before after, step before event after := by
  induction runs with
  | refl => exact nofun
  | call taken _ ih => exact List.forall_mem_cons.mpr ⟨⟨_, _, taken⟩, ih⟩

end Resumption

/-- A trace that interleaves two others; events that only say who goes first may come between. -/
inductive Interleaved {ε : Type} (choice : ε → Prop) : List ε → List ε → List ε → Prop where
  | nil : Interleaved choice [] [] []
  | left : Interleaved choice first second trace →
    Interleaved choice (event :: first) second (event :: trace)
  | right : Interleaved choice first second trace →
    Interleaved choice first (event :: second) (event :: trace)
  | choice : choice event → Interleaved choice first second trace →
    Interleaved choice first second (event :: trace)

namespace Interleaved
variable {ε : Type} {choice : ε → Prop} {first second trace : List ε} {event : ε}

theorem only_right (events : List ε) : Interleaved choice [] events events := by
  induction events with
  | nil => exact .nil
  | cons event rest ih => exact .right ih

theorem mem_left (merged : Interleaved choice first second trace) (member : event ∈ first) :
    event ∈ trace := by
  induction merged with
  | nil => contradiction
  | left _ ih => grind
  | right _ ih => grind
  | choice chosen _ ih => grind

theorem mem_right (merged : Interleaved choice first second trace) (member : event ∈ second) :
    event ∈ trace := by
  induction merged with
  | nil => contradiction
  | left _ ih => grind
  | right _ ih => grind
  | choice chosen _ ih => grind

/-- The last event is the last one of either trace, or chooses. -/
theorem getLast (merged : Interleaved choice first second trace)
    (last : trace.getLast? = some event) :
    first.getLast? = some event ∨ second.getLast? = some event ∨ choice event := by
  induction merged with
  | nil => contradiction
  | left rest ih => cases rest <;> grind [List.getLast?_cons_cons]
  | right rest ih => cases rest <;> grind [List.getLast?_cons_cons]
  | choice chosen rest ih => cases rest <;> grind [List.getLast?_cons_cons]

theorem filterMap {f : ε → Option κ} (merged : Interleaved choice first second trace)
    (hidden : ∀ event, choice event → f event = none) :
    Interleaved (fun _ => False) (first.filterMap f) (second.filterMap f) (trace.filterMap f) := by
  induction merged with
  | nil => exact .nil
  | @left _ _ _ event _ ih =>
    cases shown : f event with
    | none => simpa [shown] using ih
    | some value => simpa [shown] using .left ih
  | @right _ _ _ event _ ih =>
    cases shown : f event with
    | none => simpa [shown] using ih
    | some value => simpa [shown] using .right ih
  | @choice event _ _ _ chosen _ ih => simpa [hidden event chosen] using ih

end Interleaved

namespace Resumption
variable {Request α β ε : Type} {Answer : Request → Type}

/-- The runs under surroundings without a state, which give the allowed answers. -/
abbrev Traces (allowed : Event Answer → Prop) (program : Resumption Request Answer α)
    (trace : List (Event Answer)) (remaining : Resumption Request Answer α) : Prop :=
  Runs (fun (_ : Unit) event _ => allowed event) program () trace remaining ()

/-- A program whose requests can all be answered, in every state, comes to an end. -/
theorem exists_runs_done {step : σ → Event Answer → σ → Prop}
    (answered : ∀ s request, ∃ answer t, step s ⟨request, answer⟩ t)
    (program : Resumption Request Answer α) (s : σ) :
    ∃ trace value t, Runs step program s trace (.done value) t := by
  induction program generalizing s with
  | done value => exact ⟨[], value, s, .refl⟩
  | call request next ih =>
    obtain ⟨answer, t, taken⟩ := answered s request
    obtain ⟨trace, value, u, runs⟩ := ih answer t
    exact ⟨_, value, u, .call taken runs⟩

/-- A program whose requests are all answered comes to an end. -/
theorem exists_traces_done {allowed : Event Answer → Prop}
    (answered : ∀ request, ∃ answer, allowed ⟨request, answer⟩)
    (program : Resumption Request Answer α) :
    ∃ trace value, Traces allowed program trace (.done value) := by
  let step (_ : Unit) (event : Event Answer) (_ : Unit) : Prop := allowed event
  have total : ∀ s request, ∃ answer t, step s ⟨request, answer⟩ t :=
    fun _ request => (answered request).imp fun _ taken => ⟨(), taken⟩
  obtain ⟨trace, value, _, runs⟩ := exists_runs_done total program ()
  exact ⟨trace, value, runs⟩

/-- A child that waits for an answer, next to its parent. Where the parent has returned an error,
the process ends; where it has returned otherwise, it waits for the child. -/
def parallelCall (choose : Resumption Request Answer Bool) (request : Request)
    (next : Answer request → Resumption Request Answer (Except ε α) →
      Resumption Request Answer (Except ε α)) :
    Resumption Request Answer (Except ε α) → Resumption Request Answer (Except ε α)
  | .done (.error err) => .done (.error err)
  | .done (.ok value) => .call request fun answer => next answer (.done (.ok value))
  | .call other continuation => choose.bind fun first =>
    if first then .call request fun answer => next answer (.call other continuation)
    else .call other fun answer => parallelCall choose request next (continuation answer)

/-- `go child()` in front of the rest of its parent, which waits for the child before it returns. -/
def parallel (choose : Resumption Request Answer Bool) : Resumption Request Answer Unit →
    Resumption Request Answer (Except ε α) → Resumption Request Answer (Except ε α)
  | .done _, parent => parent
  | .call request next, parent =>
    parallelCall choose request (fun answer => parallel choose (next answer)) parent

section Parallel
variable {allowed choice : Event Answer → Prop} {choose : Resumption Request Answer Bool}
  {child child' : Resumption Request Answer Unit}
    {parent parent' program : Resumption Request Answer (Except ε α)}
  {trace first second : List (Event Answer)}

/-- What is left of a child and its parent when `program` is left of both. -/
structure Joined (child : Resumption Request Answer Unit)
    (parent program : Resumption Request Answer (Except ε α)) : Prop where
  ok : ∀ value, program = .done (.ok value) → child = .done () ∧ parent = .done (.ok value)
  error : ∀ err, program = .done (.error err) → parent = .done (.error err)

/-- The requests of a child and its parent, merged. -/
def Split (allowed choice : Event Answer → Prop) (child : Resumption Request Answer Unit)
    (parent : Resumption Request Answer (Except ε α)) (trace : List (Event Answer))
    (program : Resumption Request Answer (Except ε α)) : Prop :=
  ∃ first child' second parent', Traces allowed child first child' ∧
    Traces allowed parent second parent' ∧
    Interleaved choice first second trace ∧ Joined child' parent' program

theorem Split.left {next : Answer request → Resumption Request Answer Unit}
    (taken : allowed ⟨request, answer⟩)
    (split : Split allowed choice (next answer) parent trace program) :
    Split allowed choice (.call request next) parent (⟨request, answer⟩ :: trace) program := by
  obtain ⟨first, child', second, parent', one, two, merged, joined⟩ := split
  exact ⟨_, child', second, parent', .call taken one, two, .left merged, joined⟩

theorem Split.right {next : Answer request → Resumption Request Answer (Except ε α)}
    (taken : allowed ⟨request, answer⟩)
    (split : Split allowed choice child (next answer) trace program) :
    Split allowed choice child (.call request next) (⟨request, answer⟩ :: trace) program := by
  obtain ⟨first, child', second, parent', one, two, merged, joined⟩ := split
  exact ⟨first, child', _, parent', one, .call taken two, .right merged, joined⟩

theorem Split.scheduled {earlier : List (Event Answer)} (chosen : ∀ event ∈ earlier, choice event)
    (split : Split allowed choice child parent trace program) :
    Split allowed choice child parent (earlier ++ trace) program := by
  induction earlier with
  | nil => exact split
  | cons event rest ih =>
    obtain ⟨head, tail⟩ := List.forall_mem_cons.mp chosen
    obtain ⟨first, child', second, parent', one, two, merged, joined⟩ := ih tail
    exact ⟨first, child', second, parent', one, two, .choice head merged, joined⟩

/-- Nothing has happened yet. -/
theorem Split.start (pending : ∀ value, program ≠ .done value) :
    Split allowed choice child parent [] program :=
  ⟨[], child, [], parent, .refl, .refl, .nil, fun _ ended => absurd ended (pending _),
    fun _ ended => absurd ended (pending _)⟩

theorem Split.bind {next : Bool → Resumption Request Answer (Except ε α)}
    (pending : ∀ b value, next b ≠ .done value)
    (chosen : ∀ trace remaining, Traces allowed choose trace remaining →
      ∀ event ∈ trace, choice event) (runs : Traces allowed (choose.bind next) trace program)
    (rest : ∀ b trace, Traces allowed (next b) trace program →
      Split allowed choice child parent trace program) :
    Split allowed choice child parent trace program := by
  obtain ⟨middle, choosing, rfl⟩ | ⟨earlier, b, _, later, rfl, choosing, after⟩ := runs_bind.mp runs
  · have start : Split allowed choice child parent [] (middle.bind next) := by
      refine .start ?_
      cases middle with
      | done b => exact pending b
      | call => exact nofun
    simpa using start.scheduled (chosen trace middle choosing)
  · exact (rest b later after).scheduled (chosen _ _ choosing)

theorem traces_parallelCall {next : Answer request → Resumption Request Answer Unit}
    (chosen : ∀ trace remaining, Traces allowed choose trace remaining →
      ∀ event ∈ trace, choice event)
    (ih : ∀ answer parent trace,
      Traces allowed (parallel choose (next answer) parent) trace program →
      Split allowed choice (next answer) parent trace program)
    (runs : Traces allowed
      (parallelCall choose request (fun answer => parallel choose (next answer)) parent)
      trace program) : Split allowed choice (.call request next) parent trace program := by
  induction parent generalizing trace with
  | done result =>
    cases result with
    | error err =>
      obtain ⟨rfl, rfl, -⟩ := runs_done.mp runs
      exact ⟨[], _, [], _, .refl, .refl, .nil, nofun, fun _ => id⟩
    | ok value =>
      cases runs with
      | refl => exact .start nofun
      | call taken rest => exact (ih _ _ _ rest).left taken
  | call other continuation ihParent =>
    refine Split.bind (fun b => ?_) chosen runs fun b trace runs => ?_
    · cases b <;> exact nofun
    · cases b with
      | true =>
        cases runs with
        | refl => exact .start nofun
        | call taken rest => exact (ih _ _ _ rest).left taken
      | false =>
        cases runs with
        | refl => exact .start nofun
        | call taken rest => exact (ihParent _ rest).right taken

/-- A trace of both is an interleaving of a trace of each. -/
theorem traces_parallel
    (chosen : ∀ trace remaining, Traces allowed choose trace remaining →
      ∀ event ∈ trace, choice event)
    (runs : Traces allowed (parallel choose child parent) trace program) :
    Split allowed choice child parent trace program := by
  induction child generalizing parent trace with
  | done value =>
    exact ⟨[], .done (), trace, program, .refl, runs, .only_right trace, fun _ ended =>
      ⟨rfl, ended⟩, fun _ ended => ended⟩
  | call request next ih =>
    exact traces_parallelCall chosen (fun answer _ _ runs => ih answer runs) runs

theorem Emits.parallel {post : Except ε α → Prop}
    (choosing : Emits P (fun _ => True) choose) (first : Emits P (fun _ => True) child)
    (second : Emits P post parent) : Emits P post (parallel choose child parent) := by
  induction child generalizing parent with
  | done => exact second
  | call request next ih =>
    have both : ∀ {parent : Resumption Request Answer (Except ε α)}, Emits P post parent →
        ∀ answer, P ⟨request, answer⟩ ∧ Emits P post (Resumption.parallel choose (next answer) parent) :=
      fun second answer => ⟨(first answer).1, ih answer (first answer).2 second⟩
    rw [Resumption.parallel]
    induction parent with
    | done result =>
      cases result with
      | error err => exact second
      | ok value => exact both second
    | call other continuation ihParent =>
      refine choosing.bind fun b _ => ?_
      cases b with
      | true => exact both second
      | false => exact fun answer => ⟨(second answer).1, ihParent answer (second answer).2⟩

/-- The child may go first. -/
theorem traces_parallel_of (choosing : Traces allowed choose scheduled (.done true))
    (one : Traces allowed child first (.done ()))
    (two : Traces allowed parent second (.done (.ok value))) :
    ∃ trace, Traces allowed (parallel choose child parent) trace (.done (.ok value)) := by
  induction child generalizing first with
  | done => exact ⟨second, two⟩
  | call request next ih =>
    obtain ⟨answer, ⟨⟩, rest, rfl, taken, later⟩ := runs_call_done.mp one
    obtain ⟨trace, runs⟩ := ih answer later
    rw [parallel]
    cases parent with
    | done result =>
      obtain ⟨rfl, ended, -⟩ := runs_done.mp two
      cases ended
      exact ⟨_, .call taken runs⟩
    | call other continuation => exact ⟨_, choosing.bind.trans (.call taken runs)⟩

end Parallel
end Resumption
end Go
