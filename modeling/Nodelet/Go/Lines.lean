import Mathlib.Tactic.Common

/-! Text files as lists of lines: the scanner of the bufio package, and a writer that ends
every line with a line break. -/
namespace Go

/-- A carriage return before the line break does not belong to the line. -/
def dropCR (line : List Char) : List Char :=
  if line.getLast? = some '\r' then line.dropLast else line

/-- `bufio.ScanLines`, with the part of the current line that has been read. A last line without
a line break counts unless it is empty. -/
def scanLines (current : List Char) : List Char → List (List Char)
  | [] => if current = [] then [] else [dropCR current]
  | c :: rest => if c = '\n' then dropCR current :: scanLines [] rest
    else scanLines (current ++ [c]) rest

/-- The lines with what stands before each line break, a carriage return included. -/
def splitLines (current : List Char) : List Char → List (List Char)
  | [] => if current = [] then [] else [current]
  | c :: rest => if c = '\n' then current :: splitLines [] rest
    else splitLines (current ++ [c]) rest

theorem scanLines_eq (current text : List Char) :
    scanLines current text = (splitLines current text).map dropCR := by
  induction text generalizing current with
  | nil =>
    unfold scanLines splitLines
    split
    · rfl
    · rfl
  | cons c rest ih =>
    unfold scanLines splitLines
    split
    · rw [ih, List.map_cons]
    · exact ih _

theorem splitLines_append {line : List Char} (noBreak : '\n' ∉ line) (current rest : List Char) :
    splitLines current (line ++ '\n' :: rest) = (current ++ line) :: splitLines [] rest := by
  induction line generalizing current with
  | nil => simp [splitLines]
  | cons c line ih =>
    obtain ⟨different, noBreak⟩ := not_or.mp (List.mem_cons.not.mp noBreak)
    rw [List.cons_append, splitLines, if_neg (Ne.symm different), ih noBreak, List.append_assoc,
      List.singleton_append]

/-- `bufio.MaxScanTokenSize`, with the line break. -/
def maxScanTokenSize : Nat := 64 * 1024

/-- A line that does not fit into the buffer ends the scan, and the error is not looked at. -/
def readLines (text : List Char) : List (List Char) :=
  ((splitLines [] text).takeWhile fun line =>
    (String.ofList line).utf8ByteSize < maxScanTokenSize).map dropCR

theorem length_le_utf8ByteSize (line : List Char) :
    line.length ≤ (String.ofList line).utf8ByteSize := by
  induction line with
  | nil => exact Nat.zero_le _
  | cons c rest ih =>
    have positive := c.utf8Size_pos
    rw [String.ofList_cons, String.utf8ByteSize_append, String.utf8ByteSize_singleton,
      List.length_cons]
    omega

def joinLines (lines : List (List Char)) : List Char := lines.flatMap (· ++ ['\n'])

section Heads
variable {space ok : Char → Bool}

/-- What begins the lines of a text, spaces aside, is as it should be. The text goes on where a line
is `fresh` as long as it has spaces only. -/
def Headed (space ok : Char → Bool) : Bool → List Char → Prop
  | _, [] => True
  | fresh, c :: rest =>
    if c = '\n' then Headed space ok true rest
    else if fresh ∧ space c then Headed space ok true rest
    else (fresh → ok c) ∧ Headed space ok false rest

/-- A line that begins so. -/
def Heads (space ok : Char → Bool) (line : List Char) : Prop :=
  ∀ spaces c rest, line = spaces ++ c :: rest → (∀ s ∈ spaces, space s) → space c = false → ok c

theorem Heads.of_initial {line part : List Char} (heads : Heads space ok line)
    (initial : part <+: line) : Heads space ok part := by
  intro spaces c rest split blank first
  obtain ⟨more, rfl⟩ := initial
  exact heads spaces c (rest ++ more) (by rw [split, List.append_assoc, List.cons_append]) blank
    first

theorem headed_append {rest : List Char} (line : List Char) (noBreak : '\n' ∉ line) :
    Headed space ok false (line ++ rest) ↔ Headed space ok false rest := by
  induction line with
  | nil => rfl
  | cons c line ih =>
    obtain ⟨different, noBreak⟩ := not_or.mp (List.mem_cons.not.mp noBreak)
    rw [List.cons_append, Headed, if_neg (Ne.symm different)]
    simpa using ih noBreak

/-- A text may be cut off, and go on with what is as it should be. -/
theorem Headed.cut {fresh : Bool} {kept rest tail : List Char}
    (headed : Headed space ok fresh (kept ++ rest))
    (fits : ∀ c ∈ tail, ok c) : Headed space ok fresh (kept ++ tail) := by
  induction kept generalizing fresh with
  | nil =>
    clear headed
    induction tail generalizing fresh with
    | nil => trivial
    | cons c tail ih =>
      obtain ⟨first, others⟩ := List.forall_mem_cons.mp fits
      rw [List.nil_append, Headed]
      split_ifs
      · exact ih others
      · exact ih others
      · exact ⟨fun _ => first, ih others⟩
  | cons c kept ih =>
    rw [List.cons_append, Headed] at headed ⊢
    split_ifs at headed ⊢
    · exact ih headed
    · exact ih headed
    · exact ⟨headed.1, ih headed.2⟩

theorem Heads.concat {current : List Char} (here : Heads space ok current)
    (fits : current.all space = true → space c = false → ok c) :
    Heads space ok (current ++ [c]) := by
  intro spaces d rest split blank first
  rcases List.eq_nil_or_concat rest with rfl | ⟨more, last, rfl⟩
  · obtain ⟨rfl, same⟩ := List.append_inj' split rfl
    cases same
    exact fits (List.all_eq_true.mpr blank) first
  · rw [List.concat_eq_append, ← List.cons_append, ← List.append_assoc] at split
    obtain ⟨rfl, -⟩ := List.append_inj' split rfl
    exact here spaces d more rfl blank first

theorem Headed.splitLines {current text : List Char} (here : Heads space ok current)
    (headed : Headed space ok (current.all space) text) :
    ∀ line ∈ splitLines current text, Heads space ok line := by
  induction text generalizing current with
  | nil =>
    rw [Go.splitLines]
    split_ifs <;> simp [here]
  | cons c rest ih =>
    have empty : Heads space ok [] := fun spaces c rest split => absurd split (by simp)
    rw [Go.splitLines]
    rw [Headed] at headed
    split_ifs at headed ⊢ with break_ blank
    · exact List.forall_mem_cons.mpr ⟨here, ih empty headed⟩
    · refine ih (here.concat fun _ first => absurd blank.2 (by simp [first])) ?_
      rwa [List.all_append, blank.1, List.all_cons, blank.2]
    · refine ih (here.concat fun fresh _ => headed.1 fresh) ?_
      have other : (current ++ [c]).all space = false := by
        rw [List.all_append, List.all_cons, List.all_nil, Bool.and_true]
        exact Bool.eq_false_iff.mpr (by simpa using blank)
      rw [other]
      exact headed.2

theorem Headed.readLines (headed : Headed space ok true text) :
    ∀ line ∈ readLines text, Heads space ok line := by
  intro line member
  obtain ⟨whole, read, rfl⟩ := List.mem_map.mp member
  have empty : Heads space ok [] := fun spaces c rest split => absurd split (by simp)
  have heads := Headed.splitLines empty headed whole (List.takeWhile_subset _ read)
  unfold dropCR
  split
  · exact heads.of_initial <| List.dropLast_prefix _
  · exact heads

end Heads

end Go
