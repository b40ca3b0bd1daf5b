import Nodelet.Go.Trace
import Nodelet.Go.Transition

/-! Threads that share a state. Each runs a program of its own, whose requests are atomic and are
served on the shared state; the state also moves by itself. What happened is kept in a log, so that
a proof can rest on facts about the past, which no other thread can undo. -/
namespace Go

/-- A program for each job, how requests are served, and how the state moves by itself. -/
structure Machine (σ ι Reply Move : Type) {Request : Type} (Answer : Request → Type)
    (α : Type) where
  program : ι → Resumption Request Answer α
  serve : Reply → (request : Request) → σ → Option (Answer request × σ)
  move : Move → σ → Option σ

namespace Threads
variable {σ ι Reply Move Request α : Type} {Answer : Request → Type}

structure Thread (ι : Type) (Answer : Request → Type) (α : Type) where
  job : ι
  rest : Resumption Request Answer α

/-- A request of a thread with its answer, and the state it was served on. -/
structure Occurrence (σ : Type) (Answer : Request → Type) where
  thread : Nat
  before : σ
  event : Resumption.Event Answer

abbrev Log (σ : Type) (Answer : Request → Type) := List (Occurrence σ Answer)

structure Pool (σ ι : Type) (Answer : Request → Type) (α : Type) where
  shared : σ
  threads : List (Thread ι Answer α) := []
  log : Log σ Answer := []

/-- What a thread has returned, and for which job. -/
def Pool.result (pool : Pool σ ι Answer α) (thread : Nat) : Option (ι × α) :=
  match pool.threads[thread]? with
  | some ⟨job, .done value⟩ => some (job, value)
  | _ => none

theorem Pool.result_eq_some {pool : Pool σ ι Answer α} {thread : Nat} {job : ι} {value : α}
    (returned : pool.result thread = some (job, value)) :
    pool.threads[thread]? = some ⟨job, .done value⟩ := by
  rw [Pool.result] at returned
  split at returned
  · rename_i here
    cases returned
    exact here
  · contradiction

inductive Choice (ι Reply Move : Type) where
  | spawn (job : ι)
  | run (thread : Nat) (reply : Reply)
  | move (choice : Move)
  deriving DecidableEq, Repr

end Threads

namespace Machine
open Threads
variable {σ ι Reply Move Request α : Type} {Answer : Request → Type}
  (machine : Machine σ ι Reply Move Answer α)

def step : Choice ι Reply Move → Pool σ ι Answer α → Option (Pool σ ι Answer α)
  | .spawn job, pool => some { pool with threads := pool.threads ++ [⟨job, machine.program job⟩] }
  | .run i reply, pool => do
    let thread ← pool.threads[i]?
    match thread.rest with
    | .done _ => none
    | .call request next => do
      let (answer, shared) ← machine.serve reply request pool.shared
      return { shared
               threads := pool.threads.set i { thread with rest := next answer }
               log := pool.log ++ [⟨i, pool.shared, ⟨request, answer⟩⟩] }
  | .move choice, pool => do
    let shared ← machine.move choice pool.shared
    return { pool with shared }

inductive Stepped : Choice ι Reply Move → Pool σ ι Answer α → Pool σ ι Answer α → Prop where
  | spawned :
    Stepped (.spawn job) pool { pool with threads := pool.threads ++ [⟨job, machine.program job⟩] }
  | served {next : Answer request → Resumption Request Answer α}
    (here : pool.threads[i]? = some ⟨job, .call request next⟩)
      (answered : machine.serve reply request pool.shared = some (answer, shared)) :
      Stepped (.run i reply) pool
        { shared
          threads := pool.threads.set i ⟨job, next answer⟩
          log := pool.log ++ [⟨i, pool.shared, ⟨request, answer⟩⟩] }
  | moved (moves : machine.move choice pool.shared = some shared) :
    Stepped (.move choice) pool { pool with shared }

variable {machine} {pool next : Pool σ ι Answer α} {choice : Choice ι Reply Move}

theorem step_stepped (taken : machine.step choice pool = some next) :
    machine.Stepped choice pool next := by
  cases choice with
  | spawn job =>
    cases taken
    exact .spawned
  | run i reply =>
    obtain ⟨⟨job, rest⟩, here, taken⟩ := Option.bind_eq_some_iff.mp taken
    cases rest with
    | done value => contradiction
    | call request continuation =>
      obtain ⟨⟨answer, shared⟩, answered, taken⟩ := Option.bind_eq_some_iff.mp taken
      cases taken
      exact .served here answered
  | move choice =>
    obtain ⟨shared, moves, taken⟩ := Option.bind_eq_some_iff.mp taken
    cases taken
    exact .moved moves

section Outline
variable (machine) (inv : σ → Log σ Answer → Prop)

/-- What a thread has around it: others may do whatever keeps the invariant, and add to the log. -/
def around (thread : Nat) : Surroundings (σ × Log σ Answer) Request Answer where
  answers request s answer t := ∃ reply, machine.serve reply request s.1 = some (answer, t.1) ∧
    t.2 = s.2 ++ [⟨thread, s.1, ⟨request, answer⟩⟩]
  fails _ _ _ := False
  moves s t := inv t.1 t.2 ∧ s.2 <+: t.2
  inv s := inv s.1 s.2
  failed _ := True

/-- The invariant, and a fact about the past. -/
def Fact (P : Log σ Answer → Prop) (s : σ × Log σ Answer) : Prop := inv s.1 s.2 ∧ P s.2

/-- A fact that stays one. -/
def Lasting (P : Log σ Answer → Prop) : Prop := ∀ log more, P log → P (log ++ more)

/-- Something occurred, when a fact held of what had occurred before. -/
def After (P : Log σ Answer → Prop) (occurrence : Occurrence σ Answer) (log : Log σ Answer) :
    Prop :=
  ∃ earlier later, log = earlier ++ occurrence :: later ∧ P earlier

variable {machine inv} {thread : Nat} {P : Log σ Answer → Prop} {post : α → σ × Log σ Answer → Prop}

theorem assertion_fact (lasting : Lasting P) :
    (machine.around inv thread).Assertion (Fact inv P) where
  stable := by
    rintro ⟨s, log⟩ ⟨t, _⟩ ⟨-, holds⟩ ⟨kept, more, rfl⟩
    exact ⟨kept, lasting log more holds⟩
  inv _ holds := holds.1

variable {occurrence : Occurrence σ Answer} {log : Log σ Answer}

theorem lasting_after : Lasting (After P occurrence) := by
  rintro _ more ⟨earlier, later, rfl, holds⟩
  exact ⟨earlier, later ++ more, by simp, holds⟩

theorem after_last (holds : P log) : After P occurrence (log ++ [occurrence]) :=
  ⟨log, [], rfl, holds⟩

theorem After.mono {Q : Log σ Answer → Prop}
    (after : After P occurrence log) (implies : ∀ earlier, P earlier → Q earlier) :
    After Q occurrence log := by
  obtain ⟨earlier, later, same, holds⟩ := after
  exact ⟨earlier, later, same, implies earlier holds⟩

theorem outline_ask {next : Answer request → Resumption Request Answer β}
    {post : β → σ × Log σ Answer → Prop} (Q : Answer request → Log σ Answer → Prop)
    (lasting : ∀ answer, Lasting (Q answer))
    (served : ∀ s log reply answer t, inv s log → P log →
      machine.serve reply request s = some (answer, t) →
      Fact inv (Q answer) (t, log ++ [⟨thread, s, ⟨request, answer⟩⟩]))
    (rest : ∀ answer,
      (machine.around inv thread).Outline post (next answer) (Fact inv (Q answer))) :
    (machine.around inv thread).Outline post (.call request next) (Fact inv P) := by
  refine ⟨nofun, fun answer => Fact inv (Q answer), fun answer =>
    assertion_fact (lasting answer), ?_, rest⟩
  rintro ⟨s, log⟩ answer ⟨t, _⟩ ⟨kept, holds⟩ ⟨reply, answered, rfl⟩
  exact served s log reply answer t kept holds answered

theorem held_served {next : Answer request → Resumption Request Answer α} {s t : σ}
    (held : (machine.around inv thread).Held post (.call request next) (s, log))
    (answered : machine.serve reply request s = some (answer, t)) :
    (machine.around inv thread).Held post (next answer)
      (t, log ++ [⟨thread, s, ⟨request, answer⟩⟩]) :=
  held.answered ⟨reply, answered, rfl⟩

theorem getElem?_set_cases {items : List β} {i j : Nat} {item found : β}
    (here : (items.set i item)[j]? = some found) :
    j = i ∧ found = item ∨ j ≠ i ∧ items[j]? = some found := by
  grind

/-- Every program has an outline, and the invariant is kept by what moves by itself. -/
structure Outlined (machine : Machine σ ι Reply Move Answer α) (inv : σ → Log σ Answer → Prop)
    (post : Nat → ι → α → σ × Log σ Answer → Prop) : Prop where
  moves : ∀ s log choice t, inv s log → machine.move choice s = some t → inv t log
  programs : ∀ thread job,
    (machine.around inv thread).Outline (post thread job) (machine.program job) (Fact inv fun _ =>
      True)

/-- In every interleaving each thread is where its outline says. -/
structure Safe (machine : Machine σ ι Reply Move Answer α) (inv : σ → Log σ Answer → Prop)
    (post : Nat → ι → α → σ × Log σ Answer → Prop) (pool : Pool σ ι Answer α) : Prop where
  kept : inv pool.shared pool.log
  held : ∀ i thread, pool.threads[i]? = some thread →
    (machine.around inv i).Held (post i thread.job) thread.rest (pool.shared, pool.log)

variable {post : Nat → ι → α → σ × Log σ Answer → Prop}
  {permitted : Choice ι Reply Move → Pool σ ι Answer α → Prop}

theorem Outlined.step (outlined : Outlined machine inv post) (safe : Safe machine inv post pool)
    (stepped : machine.Stepped choice pool next) : Safe machine inv post next := by
  cases stepped with
  | spawned =>
    rename_i job
    refine ⟨safe.kept, fun i thread here => ?_⟩
    obtain inside | ⟨rfl, rfl⟩ : pool.threads[i]? = some thread ∨
        i = pool.threads.length ∧ thread = ⟨job, machine.program job⟩ := by
      grind
    · exact safe.held i thread inside
    · exact ⟨_, assertion_fact fun _ _ => id, outlined.programs _ job, safe.kept, trivial⟩
  | served here answered =>
    have held := held_served (safe.held _ _ here) answered
    refine ⟨held.inv, fun j thread there => ?_⟩
    obtain ⟨rfl, rfl⟩ | ⟨-, there⟩ := getElem?_set_cases there
    · exact held
    · exact (safe.held j thread there).moved ⟨held.inv, List.prefix_append ..⟩
  | moved moves =>
    have kept := outlined.moves _ _ _ _ safe.kept moves
    exact ⟨kept, fun i thread here => (safe.held i thread here).moved ⟨kept, List.prefix_refl _⟩⟩

theorem Outlined.reached {s : σ} (outlined : Outlined machine inv post) (initial : inv s [])
    (reached : Transition.Reaches machine.step permitted { shared := s } pool) :
    Safe machine inv post pool :=
  reached.invariant ⟨initial, nofun⟩ fun _ _ _ safe _ taken =>
    outlined.step safe (step_stepped taken)

end Outline
end Machine
end Go
