import Nodelet.Ctl.SyncNodes
import Nodelet.Go.Transition

/-! The goroutines of `SyncNodes`, step by step. The ticker puts a tick into a channel with one
slot; the poller takes a tick, or sees that `done` is closed, whichever it happens to pick when
both are ready; and the main goroutine waits for `done`. -/
namespace Nodeletctl
namespace SyncLoop

inductive Main where
  | fetching (next : Nat)
  | waiting
  | returned
  | failed
  deriving DecidableEq, Repr

inductive Poller where
  | unborn
  | selecting
  /-- In a call of `SyncAndRetry`, in front of this node. -/
  | syncing (next : Nat) (synced : Bool)
  | exited
  | panicked
  deriving DecidableEq, Repr

structure State where
  main : Main := .fetching 0
  poller : Poller := .unborn
  /-- The slot of the ticker's channel is full. -/
  tick : Bool := false
  /-- How often `done` has been closed. -/
  closed : Nat := 0
  /-- A call of `SyncAndRetry` has started after `done` was closed. -/
  late : Bool := false
  /-- How many calls of `SyncAndRetry` have started. -/
  pass : Nat := 0
  /-- The status map. -/
  health : String → String := fun _ => ""
  /-- What a node was last found to be in a pass. The first fetch is pass zero. -/
  found : Nat → String → Option String := fun _ _ => none

/-- A node that cannot be read is stored without a state. -/
def State.read (s : State) (nodeName : String) (answer : Option String) : State :=
  let health := answer.getD ""
  { s with
    health := Function.update s.health nodeName health
    found :=
      Function.update s.found s.pass (Function.update (s.found s.pass) nodeName (some health)) }

/-- Who moves, with the state of the node that is read, if one is. -/
inductive Choice where
  | connectFails
  | fetch (answer : Option String)
  | start
  | tick
  | selectDone
  | selectTick
  | visit (answer : Option String)
  | finish
  | wake
  deriving DecidableEq, Repr

variable (nodes : List HostConfig)

/-- The next node of a pass. A node that was seen healthy is not read again. -/
def visit (s : State) (next : Nat) (synced : Bool) (answer : Option String) (node : HostConfig) :
    State :=
  if s.health node.nodeName = nodeHealthy then { s with poller := .syncing (next + 1) synced }
  else { s.read node.nodeName answer with poller := .syncing (next + 1) false }

/-- The end of a pass. To close a channel twice is a panic. -/
def finish (s : State) (synced : Bool) : State :=
  if synced then
    { s with closed := s.closed + 1, poller := if s.closed = 0 then .selecting else .panicked }
  else { s with poller := .selecting }

def step : Choice → State → Option State
  | .connectFails, s =>
    match s.main with
    | .fetching next => if next < nodes.length then some { s with main := .failed } else none
    | _ => none
  | .fetch answer, s =>
    match s.main with
    | .fetching next => nodes[next]?.map fun node =>
      { s.read node.nodeName answer with main := .fetching (next + 1) }
    | _ => none
  | .start, s => if s.main =
    .fetching nodes.length then some { s with main := .waiting, poller := .selecting } else none
  | .tick, s => if s.poller = .unborn then none else some { s with tick := true }
  | .selectDone, s => if s.poller = .selecting ∧
    0 < s.closed then some { s with poller := .exited } else none
  | .selectTick, s =>
    if s.poller = .selecting ∧ s.tick then
      some { s with tick := false, poller := .syncing 0 true, pass := s.pass + 1, late := s.late || 0 < s.closed }
    else none
  | .visit answer, s =>
    match s.poller with
    | .syncing next synced => nodes[next]?.map (visit s next synced answer)
    | _ => none
  | .finish, s =>
    match s.poller with
    | .syncing next synced => if next = nodes.length then some (finish s synced) else none
    | _ => none
  | .wake, s => if s.main = .waiting ∧ 0 < s.closed then some { s with main := .returned } else none

inductive Moves : Choice → State → State → Prop where
  | connectFails : s.main = .fetching next → Moves .connectFails s { s with main := .failed }
  | fetch : s.main = .fetching next → nodes[next]? = some node →
      Moves (.fetch answer) s { s.read node.nodeName answer with main := .fetching (next + 1) }
  | start : s.main = .fetching nodes.length →
    Moves .start s { s with main := .waiting, poller := .selecting }
  | tick : s.poller ≠ .unborn → Moves .tick s { s with tick := true }
  | selectDone : s.poller = .selecting → 0 < s.closed →
    Moves .selectDone s { s with poller := .exited }
  | selectTick : s.poller = .selecting → s.tick = true → Moves .selectTick s
      { s with tick := false, poller := .syncing 0 true, pass := s.pass + 1, late := s.late || 0 < s.closed }
  | skip : s.poller = .syncing next synced → nodes[next]? = some node →
    s.health node.nodeName = nodeHealthy →
      Moves (.visit answer) s { s with poller := .syncing (next + 1) synced }
  | refresh : s.poller = .syncing next synced → nodes[next]? = some node →
    s.health node.nodeName ≠ nodeHealthy →
      Moves (.visit answer) s { s.read node.nodeName answer with poller := .syncing (next + 1) false }
  | retry : s.poller = .syncing nodes.length false → Moves .finish s { s with poller := .selecting }
  | close : s.poller = .syncing nodes.length true → s.closed = 0 →
      Moves .finish s { s with closed := 1, poller := .selecting }
  | panic : s.poller = .syncing nodes.length true → 0 < s.closed →
      Moves .finish s { s with closed := s.closed + 1, poller := .panicked }
  | wake : s.main = .waiting → 0 < s.closed → Moves .wake s { s with main := .returned }

variable {nodes} {choice : Choice} {s t : State}

theorem moves_of_step (taken : step nodes choice s = some t) : Moves nodes choice s t := by
  cases choice with
  | connectFails =>
    simp only [step] at taken
    split at taken
    · next next fetching =>
      split_ifs at taken
      cases taken
      exact .connectFails fetching
    · contradiction
  | fetch answer =>
    simp only [step] at taken
    split at taken
    · next next fetching =>
      obtain ⟨node, here, rfl⟩ := Option.map_eq_some_iff.mp taken
      exact .fetch fetching here
    · contradiction
  | start =>
    simp only [step] at taken
    split_ifs at taken with fetched
    cases taken
    exact .start fetched
  | tick =>
    simp only [step] at taken
    split_ifs at taken with unborn
    cases taken
    exact .tick unborn
  | selectDone =>
    simp only [step] at taken
    split_ifs at taken with ready
    cases taken
    exact .selectDone ready.1 ready.2
  | selectTick =>
    simp only [step] at taken
    split_ifs at taken with ready
    cases taken
    exact .selectTick ready.1 ready.2
  | visit answer =>
    simp only [step] at taken
    split at taken
    · next next synced syncing =>
      obtain ⟨node, here, rfl⟩ := Option.map_eq_some_iff.mp taken
      unfold visit
      split_ifs with healthy
      · exact .skip syncing here healthy
      · exact .refresh syncing here healthy
    · contradiction
  | finish =>
    simp only [step] at taken
    split at taken
    · next next synced syncing =>
      split_ifs at taken with last
      subst last
      cases taken
      cases synced with
      | false => exact .retry syncing
      | true =>
        by_cases opened : s.closed = 0
        · simpa [finish, opened] using Moves.close syncing opened
        · simpa [finish, opened] using Moves.panic syncing (Nat.pos_of_ne_zero opened)
    · contradiction
  | wake =>
    simp only [step] at taken
    split_ifs at taken with ready
    cases taken
    exact .wake ready.1 ready.2

section Close
variable (nodes)

/-- The poller is in a pass that will find all nodes healthy and close `done`. -/
def closing (s : State) : Bool :=
  match s.poller with
  | .syncing next true => (nodes.drop next).all (s.health ·.nodeName = nodeHealthy)
  | _ => false

/-- A tick that arrives now will never be taken for another pass after `done` is closed. -/
def Harmless (s : State) : Prop := s.poller = .exited ∨ s.closed = 0 ∧ closing nodes s = false

instance (s : State) : Decidable (Harmless nodes s) := inferInstanceAs (Decidable (_ ∨ _))

/-- Ticks arrive only where they are harmless. -/
def InTime (choice : Choice) (s : State) : Prop := choice = .tick → Harmless nodes s

instance (choice : Choice) (s : State) :
    Decidable (InTime nodes choice s) := inferInstanceAs (Decidable (_ → _))

/-- Once `done` is closed, or about to be, there is no tick that the poller could take. -/
structure ClosedOnce (s : State) : Prop where
  unborn : ∀ next, s.main = .fetching next → s.poller = .unborn
  late : s.late = false
  closed : s.closed = 0 ∨ s.closed = 1 ∧
    (s.poller = .selecting ∧ s.tick = false ∨ s.poller = .exited)
  quiet : closing nodes s = true → s.tick = false

end Close

theorem closing_skip {next : Nat} {synced : Bool} {node : HostConfig}
    (syncing : s.poller = .syncing next synced)
    (here : nodes[next]? = some node) (healthy : s.health node.nodeName = nodeHealthy)
    (now : closing nodes { s with poller := .syncing (next + 1) synced } = true) :
    closing nodes s = true := by
  cases synced with
  | false => simp [closing] at now
  | true =>
    obtain ⟨inside, rfl⟩ := List.getElem?_eq_some_iff.mp here
    have rest : (nodes.drop (next + 1)).all (s.health ·.nodeName = nodeHealthy) = true := now
    simp only [closing, syncing, List.drop_eq_getElem_cons inside, List.all_cons, healthy,
      decide_true, rest, Bool.and_self]

namespace ClosedOnce

theorem born (once : ClosedOnce nodes s) (poller : s.poller ≠ .unborn) {p : Poller} :
    ∀ next, s.main = .fetching next → p = .unborn :=
  fun next fetching => absurd (once.unborn next fetching) poller

theorem opened (once : ClosedOnce nodes s) (selecting : s.poller ≠ .selecting)
    (exited : s.poller ≠ .exited) : s.closed = 0 :=
  once.closed.elim id fun closed => (closed.2.elim (fun h => selecting h.1) exited).elim

theorem moves (once : ClosedOnce nodes s) (inTime : InTime nodes choice s)
    (moves : Moves nodes choice s t) : ClosedOnce nodes t := by
  cases moves with
  | connectFails => exact ⟨nofun, once.late, once.closed, once.quiet⟩
  | fetch fetching =>
    have unborn := once.unborn _ fetching
    exact ⟨fun _ _ =>
      unborn, once.late, once.closed, fun now => by simp [closing, State.read, unborn] at now⟩
  | start fetched =>
    have unborn := once.unborn _ fetched
    exact ⟨nofun, once.late, .inl (once.opened (by simp [unborn]) (by simp [unborn])), nofun⟩
  | tick born =>
    obtain exited | ⟨opened, notClosing⟩ := inTime rfl
    · exact ⟨once.unborn, once.late, once.closed.imp id fun closed => ⟨closed.1, .inr exited⟩,
        fun now => by simp [closing, exited] at now⟩
    · exact ⟨once.unborn, once.late, .inl opened, fun now => absurd (notClosing.symm.trans now) Bool.false_ne_true⟩
  | selectDone selecting _ =>
    exact ⟨once.born (by simp [selecting]), once.late, once.closed.imp id fun closed =>
      ⟨closed.1, .inr rfl⟩, nofun⟩
  | selectTick selecting ready =>
    have opened : s.closed = 0 := by
      obtain opened | ⟨-, ⟨-, empty⟩ | exited⟩ := once.closed
      · exact opened
      · simp [ready] at empty
      · simp [selecting] at exited
    exact ⟨once.born (by simp [selecting]), by simp [once.late, opened], .inl opened, fun _ => rfl⟩
  | skip syncing here healthy =>
    exact ⟨once.born (by simp [syncing]), once.late,
      .inl (once.opened (by simp [syncing]) (by simp [syncing])),
      fun now => once.quiet (closing_skip syncing here healthy now)⟩
  | refresh syncing =>
    exact ⟨once.born (by simp [syncing]), once.late,
      .inl (once.opened (by simp [syncing]) (by simp [syncing])), nofun⟩
  | retry syncing =>
    exact ⟨once.born (by simp [syncing]), once.late,
      .inl (once.opened (by simp [syncing]) (by simp [syncing])), nofun⟩
  | close syncing =>
    have empty : s.tick = false := once.quiet (by simp [closing, syncing])
    exact ⟨once.born (by simp [syncing]), once.late, .inr ⟨rfl, .inl ⟨rfl, empty⟩⟩, nofun⟩
  | panic syncing closed =>
    exact absurd (once.opened (by simp [syncing]) (by simp [syncing])) (Nat.ne_of_gt closed)
  | wake => exact ⟨nofun, once.late, once.closed, once.quiet⟩

end ClosedOnce

/-- As long as ticks arrive in time, `done` is closed once, and no pass starts afterwards. -/
theorem done_closed_once (reached : Transition.Reaches (step nodes) (InTime nodes) {} t) :
    t.closed ≤ 1 ∧ t.late = false := by
  have initial : ClosedOnce nodes {} := ⟨fun _ _ => rfl, rfl, .inl rfl, nofun⟩
  have once : ClosedOnce nodes t := reached.invariant initial fun _ _ _ once inTime taken =>
    once.moves inTime (moves_of_step taken)
  exact ⟨once.closed.elim (fun opened => by simp [opened]) fun closed =>
    Nat.le_of_eq closed.1, once.late⟩

/-- One node that is healthy from the start. -/
def oneNode : List HostConfig := [{ nodeName := "one" }]

theorem done_closed_once_oneNode :
    ∃ t, Transition.Reaches (step oneNode) (InTime oneNode) {} t ∧ t.main = .returned ∧
      t.poller = .exited ∧ t.closed ≤ 1 ∧ t.late = false := by
  have followed : (Transition.follow (step oneNode) (InTime oneNode)
      [.fetch (some nodeHealthy), .start, .tick, .selectTick, .visit none, .finish, .selectDone, .wake] {}).map
      (fun s => (s.main, s.poller)) = some (.returned, .exited) := by decide +kernel
  obtain ⟨t, followed, seen⟩ := Option.map_eq_some_iff.mp followed
  obtain ⟨returned, exited⟩ := Prod.mk.inj seen
  have reached := Transition.follow_reaches followed
  exact ⟨t, reached, returned, exited, done_closed_once reached⟩

/-- A tick arrives while the only pass is under way, and the poller takes it although `done` is
closed. -/
theorem done_closed_twice :
    ∃ t, Transition.Reaches (step oneNode) (fun _ _ => True) {} t ∧ t.closed = 2 ∧ t.late = true ∧
      t.poller = .panicked := by
  have followed : (Transition.follow (step oneNode) (fun _ _ => True)
      [.fetch (some nodeHealthy), .start, .tick, .selectTick, .tick, .visit none, .finish, .selectTick, .visit none,
        .finish] {}).map (fun s => (s.closed, s.late, s.poller)) = some (2, true, .panicked) := by decide +kernel
  obtain ⟨t, followed, seen⟩ := Option.map_eq_some_iff.mp followed
  obtain ⟨closed, late, panicked⟩ : t.closed = 2 ∧ t.late = true ∧
    t.poller = .panicked := by simpa using seen
  exact ⟨t, Transition.follow_reaches followed, closed, late, panicked⟩

end SyncLoop
end Nodeletctl
