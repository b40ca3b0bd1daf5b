import Nodelet.Go.Lines
import Nodelet.Go.Transition

/-! `RunCommandWithStdOutStdErr` and its child. The parent scans the standard output to its end and
only then the standard errors; a line that does not fit into the buffer of a scanner ends the
scan. -/
namespace Nodelet.Command
open Go (maxScanTokenSize)
open Transition (Reaches)

inductive Stream where
  | stdOut
  | stdErr
  deriving DecidableEq, Repr

/-- What the parent does: it scans, with some bytes of a line in its buffer, or waits for the
child. -/
inductive Parent where
  | scanning (stream : Stream) (pending : Nat)
  | waiting
  | returned
  deriving DecidableEq, Repr

structure State where
  /-- The bytes that the child has still to write, each to its stream. -/
  todo : List (Stream × UInt8)
  exited : Bool
  stdOut : List UInt8
  stdErr : List UInt8
  parent : Parent
  deriving DecidableEq, Repr

def start (output : List (Stream × UInt8)) : State := ⟨output, false, [], [], .scanning .stdOut 0⟩

namespace State

/-- What is in a pipe. -/
def pipe (s : State) : Stream → List UInt8
  | .stdOut => s.stdOut
  | .stdErr => s.stdErr

def put (s : State) : Stream → List UInt8 → State
  | .stdOut, bytes => { s with stdOut := bytes }
  | .stdErr, bytes => { s with stdErr := bytes }

end State

/-- The bytes of the line in the buffer after one more byte. -/
def advance (pending : Nat) (byte : UInt8) : Nat := if byte = 10 then 0 else pending + 1

/-- What comes after a scan. -/
def Stream.next : Stream → Parent
  | .stdOut => .scanning .stdErr 0
  | .stdErr => .waiting

/-- The child writes its next byte, unless the pipe is full, and exits after the last one. -/
def stepChild (capacity : Nat) (s : State) : Option State :=
  match s.todo with
  | [] => if s.exited then none else some { s with exited := true }
  | (stream, byte) :: rest =>
    if (s.pipe stream).length <
      capacity then some { s.put stream (s.pipe stream ++ [byte]) with todo := rest } else none

/-- The parent reads a byte, or the end of the file once the child has exited. -/
def stepParent (s : State) : Option State :=
  match s.parent with
  | .scanning stream pending =>
    match s.pipe stream with
    | byte :: rest =>
      let pending := advance pending byte
      some { s.put stream rest with
        parent := if pending = maxScanTokenSize then stream.next else .scanning stream pending }
    | [] => if s.exited then some { s with parent := stream.next } else none
  | .waiting => if s.exited then some { s with parent := .returned } else none
  | .returned => none

inductive Party where
  | child
  | parent

def step (capacity : Nat) : Party → State → Option State
  | .child, s => stepChild capacity s
  | .parent, s => stepParent s

/-- The function has not returned, and neither party can go on. -/
def Stuck (capacity : Nat) (s : State) : Prop :=
  s.parent ≠ .returned ∧ ∀ party, step capacity party s = none

def Reachable (capacity : Nat) (output : List (Stream × UInt8)) (s : State) : Prop :=
  Reaches (step capacity) (fun _ _ => True) (start output) s

/-- The bytes of one stream. -/
def bytes (stream : Stream) (output : List (Stream × UInt8)) : List UInt8 :=
  output.filterMap fun entry => if entry.1 = stream then some entry.2 else none

/-- What a scan does not read because a line is too long. -/
def unread : Nat → List UInt8 → List UInt8
  | _, [] => []
  | pending, byte :: rest =>
    if advance pending byte = maxScanTokenSize then rest else unread (advance pending byte) rest

/-- How many bytes go to the standard errors while the standard output is scanned. -/
def early : Nat → List (Stream × UInt8) → Nat
  | _, [] => 0
  | pending, (.stdErr, _) :: rest => early pending rest + 1
  | pending, (.stdOut, byte) :: rest =>
    if advance pending byte = maxScanTokenSize then 0 else early (advance pending byte) rest

/-- Everything that nobody reads when it is written fits into the pipes. -/
structure Fits (capacity : Nat) (output : List (Stream × UInt8)) : Prop where
  some : output ≠ [] → 0 < capacity
  errors : early 0 output ≤ capacity
  unreadOut : (unread 0 (bytes .stdOut output)).length ≤ capacity
  unreadErr : (unread 0 (bytes .stdErr output)).length ≤ capacity

/-- The same of what is left to be done in a state. -/
def Clears (capacity : Nat) (s : State) : Prop :=
  (s.todo ≠ [] → 0 < capacity) ∧
  match s.parent with
  | .scanning .stdOut pending =>
    s.stdErr.length + early pending (s.stdOut.map (Stream.stdOut, ·) ++ s.todo) ≤ capacity ∧
      (unread pending (s.stdOut ++ bytes .stdOut s.todo)).length ≤ capacity ∧
      (unread 0 (s.stdErr ++ bytes .stdErr s.todo)).length ≤ capacity
  | .scanning .stdErr pending =>
    (s.stdOut ++ bytes .stdOut s.todo).length ≤ capacity ∧
      (unread pending (s.stdErr ++ bytes .stdErr s.todo)).length ≤ capacity
  | .waiting =>
    (s.stdOut ++ bytes .stdOut s.todo).length ≤ capacity ∧
      (s.stdErr ++ bytes .stdErr s.todo).length ≤ capacity
  | .returned => True

structure Valid (capacity : Nat) (s : State) : Prop where
  stdOut : s.stdOut.length ≤ capacity
  stdErr : s.stdErr.length ≤ capacity
  finished : s.exited = true → s.todo = []
  returned : s.parent = .returned → s.exited = true

variable {capacity : Nat} {output : List (Stream × UInt8)} {s t : State} {party : Party}

theorem clears_start : Clears capacity (start output) ↔ Fits capacity output := by
  constructor
  · rintro ⟨some, errors, unreadOut, unreadErr⟩
    exact ⟨some, by simpa [start] using errors, unreadOut, unreadErr⟩
  · rintro ⟨some, errors, unreadOut, unreadErr⟩
    exact ⟨some, by simpa [start] using errors, unreadOut, unreadErr⟩

theorem early_insert (pending : Nat) (out : List UInt8) (byte : UInt8)
    (rest : List (Stream × UInt8)) :
    early pending (out.map (Stream.stdOut, ·) ++ (.stdErr, byte) :: rest) =
        early pending (out.map (Stream.stdOut, ·) ++ rest) + 1 ∨
      early pending (out.map (Stream.stdOut, ·) ++ (.stdErr, byte) :: rest) = 0 ∧
        early pending (out.map (Stream.stdOut, ·) ++ rest) = 0 := by
  induction out generalizing pending with
  | nil => exact .inl rfl
  | cons first out ih =>
    simp only [List.map_cons, List.cons_append, early]
    split
    · exact .inr ⟨rfl, rfl⟩
    · exact ih _

inductive Moves (capacity : Nat) : State → State → Prop where
  | writeOut {byte rest exited out err parent} (room : out.length < capacity) :
      Moves capacity ⟨(.stdOut, byte) :: rest, exited, out, err, parent⟩ ⟨rest, exited, out ++ [byte], err, parent⟩
  | writeErr {byte rest exited out err parent} (room : err.length < capacity) :
      Moves capacity ⟨(.stdErr, byte) :: rest, exited, out, err, parent⟩ ⟨rest, exited, out, err ++ [byte], parent⟩
  | exit {out err parent} :
    Moves capacity ⟨[], false, out, err, parent⟩ ⟨[], true, out, err, parent⟩
  | readOut {todo exited byte out err pending} :
      Moves capacity ⟨todo, exited, byte :: out, err, .scanning .stdOut pending⟩
        ⟨todo, exited, out, err, if advance pending byte = maxScanTokenSize then .scanning .stdErr 0
        else .scanning .stdOut (advance pending byte)⟩
  | readErr {todo exited out byte err pending} :
      Moves capacity ⟨todo, exited, out, byte :: err, .scanning .stdErr pending⟩ ⟨todo, exited, out, err,
        if advance pending byte = maxScanTokenSize then .waiting else .scanning .stdErr (advance pending byte)⟩
  | endOut {todo err pending} :
      Moves capacity ⟨todo, true, [], err, .scanning .stdOut pending⟩ ⟨todo, true, [], err, .scanning .stdErr 0⟩
  | endErr {todo out pending} :
      Moves capacity ⟨todo, true, out, [], .scanning .stdErr pending⟩ ⟨todo, true, out, [], .waiting⟩
  | wait {todo out err} :
    Moves capacity ⟨todo, true, out, err, .waiting⟩ ⟨todo, true, out, err, .returned⟩

theorem moves_of_stepChild (taken : stepChild capacity s = some t) : Moves capacity s t := by
  rcases s with ⟨todo, exited, out, err, parent⟩
  cases todo with
  | nil =>
    cases exited with
    | false =>
      cases taken
      exact .exit
    | true => cases taken
  | cons entry rest =>
    obtain ⟨stream, byte⟩ := entry
    simp only [stepChild, Option.ite_none_right_eq_some] at taken
    obtain ⟨room, same⟩ := taken
    cases same
    cases stream with
    | stdOut => exact .writeOut room
    | stdErr => exact .writeErr room

theorem moves_of_stepParent (taken : stepParent s = some t) : Moves capacity s t := by
  rcases s with ⟨todo, exited, out, err, parent⟩
  cases parent with
  | scanning stream pending =>
    cases stream with
    | stdOut =>
      cases out with
      | cons byte rest =>
        cases taken
        exact .readOut
      | nil =>
        cases exited with
        | true =>
          cases taken
          exact .endOut
        | false => cases taken
    | stdErr =>
      cases err with
      | cons byte rest =>
        cases taken
        exact .readErr
      | nil =>
        cases exited with
        | true =>
          cases taken
          exact .endErr
        | false => cases taken
  | waiting =>
    cases exited with
    | true =>
      cases taken
      exact .wait
    | false => cases taken
  | returned => cases taken

theorem moves_of_step (taken : step capacity party s = some t) : Moves capacity s t := by
  cases party with
  | child => exact moves_of_stepChild taken
  | parent => exact moves_of_stepParent taken

theorem Moves.valid (moves : Moves capacity s t) (valid : Valid capacity s) : Valid capacity t := by
  obtain ⟨stdOut, stdErr, finished, returned⟩ := valid
  cases moves with
  | writeOut room =>
    exact ⟨by simpa using Nat.succ_le_of_lt room, stdErr, fun exited =>
      absurd (finished exited) (by simp), returned⟩
  | writeErr room =>
    exact ⟨stdOut, by simpa using Nat.succ_le_of_lt room, fun exited =>
      absurd (finished exited) (by simp), returned⟩
  | exit => exact ⟨stdOut, stdErr, fun _ => rfl, fun _ => rfl⟩
  | readOut =>
    refine ⟨Nat.le_of_succ_le stdOut, stdErr, finished, fun ended => ?_⟩
    split at ended <;> cases ended
  | readErr =>
    refine ⟨stdOut, Nat.le_of_succ_le stdErr, finished, fun ended => ?_⟩
    split at ended <;> cases ended
  | endOut => exact ⟨stdOut, stdErr, finished, fun _ => rfl⟩
  | endErr => exact ⟨stdOut, stdErr, finished, fun _ => rfl⟩
  | wait => exact ⟨stdOut, stdErr, finished, fun _ => rfl⟩

/-- No step makes a difference to what is left to be done. -/
theorem Moves.clears_iff (moves : Moves capacity s t) (valid : Valid capacity s) :
    Clears capacity s ↔ Clears capacity t := by
  obtain ⟨stdOut, stdErr, finished, -⟩ := valid
  cases moves with
  | @writeOut byte rest exited out err parent room =>
    have positive : 0 < capacity := Nat.zero_lt_of_lt room
    rcases parent with ⟨_ | _, pending⟩ | _ | _ <;> simp [Clears, positive, bytes]
  | @writeErr byte rest exited out err parent room =>
    have positive : 0 < capacity := Nat.zero_lt_of_lt room
    rcases parent with ⟨_ | _, pending⟩ | _ | _
    · have counted : err.length + early pending (out.map (Stream.stdOut, ·) ++ (.stdErr, byte) :: rest) ≤ capacity ↔
          err.length + 1 + early pending (out.map (Stream.stdOut, ·) ++ rest) ≤ capacity := by
        obtain later | ⟨none, none'⟩ := early_insert pending out byte rest <;> omega
      simp [Clears, positive, bytes, counted]
    · simp [Clears, positive, bytes]
    · simp [Clears, positive, bytes]
    · simp [Clears, positive]
  | exit => rfl
  | @readOut todo exited byte out err pending =>
    by_cases tooLong : advance pending byte = maxScanTokenSize
    · have room : err.length ≤ capacity := stdErr
      simp [Clears, tooLong, unread, early, room]
    · simp [Clears, tooLong, unread, early]
  | @readErr todo exited out byte err pending =>
    by_cases tooLong : advance pending byte = maxScanTokenSize <;> simp [Clears, tooLong, unread]
  | @endOut todo err pending =>
    obtain rfl : todo = [] := finished rfl
    have room : err.length ≤ capacity := stdErr
    simp [Clears, early, unread, bytes, room]
  | @endErr todo out pending =>
    obtain rfl : todo = [] := finished rfl
    simp [Clears, unread, bytes]
  | @wait todo out err =>
    obtain rfl : todo = [] := finished rfl
    have roomOut : out.length ≤ capacity := stdOut
    have roomErr : err.length ≤ capacity := stdErr
    simp [Clears, bytes, roomOut, roomErr]

/-- The child can go on where every byte it may write next has room. -/
theorem stepChild_ne_none (running : s.exited = false)
    (room : ∀ stream byte rest, s.todo = (stream, byte) :: rest →
      (s.pipe stream).length < capacity) : stepChild capacity s ≠ none := by
  cases todo : s.todo with
  | nil => simp [stepChild, todo, running]
  | cons entry rest => simp [stepChild, todo, room entry.1 entry.2 rest todo]

theorem Clears.not_stuck (clears : Clears capacity s) : ¬ Stuck capacity s := by
  rintro ⟨unfinished, halted⟩
  have child : stepChild capacity s = none := halted .child
  have parent : stepParent s = none := halted .parent
  rcases s with ⟨todo, exited, out, err, phase⟩
  obtain ⟨some, clears⟩ := clears
  cases exited with
  | true =>
    rcases phase with ⟨_ | _, pending⟩ | _ | _
    · cases out <;> cases parent
    · cases err <;> cases parent
    · cases parent
    · exact unfinished rfl
  | false =>
    refine stepChild_ne_none rfl (fun stream byte rest next => ?_) child
    obtain rfl : todo = (stream, byte) :: rest := next
    have positive := some (List.cons_ne_nil _ _)
    rcases phase with ⟨_ | _, pending⟩ | _ | _
    · cases out with
      | cons byte out => cases parent
      | nil =>
        obtain ⟨errors, -⟩ := clears
        cases stream with
        | stdOut => exact positive
        | stdErr =>
          simp only [List.map_nil, List.nil_append, early] at errors
          simp only [State.pipe]
          omega
    · cases err with
      | cons byte err => cases parent
      | nil =>
        obtain ⟨outs, -⟩ := clears
        cases stream with
        | stdErr => exact positive
        | stdOut =>
          simp only [bytes, List.length_append, List.filterMap_cons, if_true, List.length_cons] at outs
          simp only [State.pipe]
          omega
    · obtain ⟨outs, errs⟩ := clears
      cases stream with
      | stdOut =>
        simp only [bytes, List.length_append, List.filterMap_cons, if_true, List.length_cons] at outs
        simp only [State.pipe]
        omega
      | stdErr =>
        simp only [bytes, List.length_append, List.filterMap_cons, if_true, List.length_cons] at errs
        simp only [State.pipe]
        omega
    · exact absurd rfl unfinished

def Parent.rank : Parent → Nat
  | .scanning .stdOut _ => 3
  | .scanning .stdErr _ => 2
  | .waiting => 1
  | .returned => 0

/-- A bound on the steps that are left. -/
def State.work (s : State) : Nat :=
  2 * s.todo.length + s.stdOut.length + s.stdErr.length + (if s.exited then 0
    else 1) + s.parent.rank

theorem Moves.work_lt (moves : Moves capacity s t) : t.work < s.work := by
  cases moves with
  | writeOut => simp [State.work]; omega
  | writeErr => simp [State.work]; omega
  | exit => simp [State.work]
  | @readOut todo exited byte out err pending =>
    by_cases tooLong : advance pending byte = maxScanTokenSize
    · simp only [State.work, Parent.rank, tooLong, if_true, List.length_cons]
      omega
    · simp only [State.work, Parent.rank, tooLong, if_false, List.length_cons]
      omega
  | @readErr todo exited out byte err pending =>
    by_cases tooLong : advance pending byte = maxScanTokenSize
    · simp only [State.work, Parent.rank, tooLong, if_true, List.length_cons]
      omega
    · simp only [State.work, Parent.rank, tooLong, if_false, List.length_cons]
      omega
  | endOut => simp [State.work, Parent.rank]
  | endErr => simp [State.work, Parent.rank]
  | wait => simp [State.work, Parent.rank]

/-- Every run can be continued until nobody can go on. -/
theorem exists_halted (reached : Reachable capacity output s) :
    ∃ t, Reachable capacity output t ∧ ∀ party, step capacity party t = none := by
  induction bound : s.work using Nat.strongRecOn generalizing s with
  | _ n ih =>
    by_cases halted : ∀ party, step capacity party s = none
    · exact ⟨s, reached, halted⟩
    · obtain ⟨party, moving⟩ := not_forall.mp halted
      obtain ⟨t, taken⟩ := Option.ne_none_iff_exists'.mp moving
      exact ih t.work (bound ▸ (moves_of_step taken).work_lt) (.next reached trivial taken) rfl

theorem valid_start : Valid capacity (start output) where
  stdOut := Nat.zero_le _
  stdErr := Nat.zero_le _
  finished exited := by cases exited
  returned ended := by cases ended

theorem Reachable.kept (reached : Reachable capacity output s) :
    Valid capacity s ∧ (Fits capacity output ↔ Clears capacity s) := by
  refine reached.invariant (P := fun t => Valid capacity t ∧
    (Fits capacity output ↔ Clears capacity t)) ⟨valid_start, clears_start.symm⟩ ?_
  rintro party before after ⟨valid, same⟩ - taken
  have moves := moves_of_step taken
  exact ⟨moves.valid valid, same.trans (moves.clears_iff valid)⟩

theorem fits_of_returned (reached : Reachable capacity output s) (returned : s.parent = .returned) :
    Fits capacity output := by
  obtain ⟨valid, same⟩ := reached.kept
  refine same.mpr ⟨fun some => absurd (valid.finished (valid.returned returned)) some, ?_⟩
  rw [returned]
  trivial

theorem runCommandWithStdOutStdErr_never_stuck_iff (capacity : Nat)
    (output : List (Stream × UInt8)) :
    (∀ s, Reachable capacity output s → ¬ Stuck capacity s) ↔ Fits capacity output := by
  constructor
  · intro never
    have started : Reachable capacity output (start output) := .refl
    obtain ⟨t, reached, halted⟩ := exists_halted started
    have returned : t.parent = .returned := by
      by_contra unfinished
      exact never t reached ⟨unfinished, halted⟩
    exact fits_of_returned reached returned
  · intro fits s reached
    exact (reached.kept.2.mp fits).not_stuck

/-- The child has written `n` bytes to the standard errors, and nothing else. -/
theorem reachable_errors (byte : UInt8) {n : Nat} (room : n ≤ capacity) (k : Nat) :
    Reachable capacity (List.replicate (n + k) (.stdErr, byte))
      ⟨List.replicate k (.stdErr, byte), false, [], List.replicate n byte,
      .scanning .stdOut 0⟩ := by
  induction n generalizing k with
  | zero =>
    rw [Nat.zero_add]
    exact .refl
  | succ n ih =>
    have reached := ih (Nat.le_of_succ_le room) (k + 1)
    rw [Nat.add_right_comm n 1 k]
    refine Reaches.next reached trivial (?_ : step capacity .child _ = some _)
    simp [step, stepChild, List.replicate_succ, State.pipe, State.put, Nat.lt_of_succ_le room,
      ← List.replicate_succ']

/-- The parent waits for the standard output, and the child for room in the other pipe. -/
theorem stuck_errors (capacity : Nat) (byte : UInt8) :
    Stuck capacity ⟨[(.stdErr, byte)], false, [], List.replicate capacity byte,
      .scanning .stdOut 0⟩ := by
  refine ⟨by simp, fun party => ?_⟩
  cases party with
  | child => simp [step, stepChild, State.pipe]
  | parent => rfl

theorem full_stdErr_deadlocks :
    let s : State := ⟨[(.stdErr, 120)], false, [], List.replicate 65536 120, .scanning .stdOut 0⟩
    Reachable 65536 (List.replicate 65537 (.stdErr, 120)) s ∧ Stuck 65536 s :=
  ⟨reachable_errors 120 (Nat.le_refl 65536) 1, stuck_errors 65536 120⟩

end Nodelet.Command
