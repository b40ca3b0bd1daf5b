import Mathlib.Data.List.Infix

/-! `strings.ReplaceAll` by the empty text: the occurrences of a pattern are deleted from left to
right, and what is left is not searched again. -/
namespace Go
variable {α : Type} [DecidableEq α] {pattern text rest : List α} {skip : Nat} {c : α}

def deleteFrom (pattern : List α) : Nat → List α → List α
  | _, [] => []
  | skip + 1, _ :: rest => deleteFrom pattern skip rest
  | 0, c :: rest =>
    if pattern.isPrefixOf (c :: rest) then deleteFrom pattern (pattern.length - 1) rest
    else c :: deleteFrom pattern 0 rest

def deleteAll (pattern text : List α) : List α := deleteFrom pattern 0 text

theorem deleteFrom_append (first : List α) :
    deleteFrom pattern first.length (first ++ rest) = deleteFrom pattern 0 rest := by
  induction first with
  | nil => rfl
  | cons c first ih => exact ih

theorem deleteAll_append_self (some : pattern ≠ []) :
    deleteAll pattern (pattern ++ rest) = deleteAll pattern rest := by
  obtain ⟨c, pattern, rfl⟩ := List.exists_cons_of_ne_nil some
  have begins : (c :: pattern).isPrefixOf (c :: (pattern ++ rest)) = true :=
    List.isPrefixOf_iff_prefix.mpr (List.prefix_append (c :: pattern) rest)
  rw [deleteAll, List.cons_append, deleteFrom, if_pos begins]
  exact deleteFrom_append pattern

omit [DecidableEq α] in
theorem prefix_append_cons {a : List α} (apart : c ∉ pattern) :
    pattern <+: a ++ c :: rest ↔ pattern <+: a := by
  constructor
  · intro begins
    obtain inside | ⟨later, rfl⟩ :=
      List.prefix_or_prefix_of_prefix begins (List.prefix_append a (c :: rest))
    · exact inside
    · cases later with
      | nil => simp
      | cons d later =>
        have same := (List.cons_prefix_cons.mp ((List.prefix_append_right_inj a).mp begins)).1
        exact absurd (by simp [same]) apart
  · intro inside
    exact inside.trans (List.prefix_append a (c :: rest))

theorem deleteFrom_append_cons (some : pattern ≠ []) (apart : c ∉ pattern) {a : List α}
    (inside : skip ≤ a.length) :
    deleteFrom pattern skip (a ++ c :: rest) =
      deleteFrom pattern skip a ++ c :: deleteAll pattern rest := by
  induction a generalizing skip with
  | nil =>
    obtain rfl : skip = 0 := Nat.le_zero.mp inside
    have fresh : ¬ pattern.isPrefixOf (c :: rest) := by
      rw [List.isPrefixOf_iff_prefix, ← List.nil_append (c :: rest), prefix_append_cons apart, List.prefix_nil]
      exact some
    simp [deleteFrom, fresh, deleteAll]
  | cons d a ih =>
    cases skip with
    | succ skip => exact ih (Nat.le_of_succ_le_succ inside)
    | zero =>
      have same : pattern.isPrefixOf (d :: (a ++ c :: rest)) = pattern.isPrefixOf (d :: a) := by
        rw [Bool.eq_iff_iff, List.isPrefixOf_iff_prefix, List.isPrefixOf_iff_prefix, ← List.cons_append]
        exact prefix_append_cons apart
      rw [List.cons_append, deleteFrom, deleteFrom, same]
      split
      · have short := (List.isPrefixOf_iff_prefix.mp ‹_›).length_le
        exact ih (by simp at short; omega)
      · rw [ih (Nat.zero_le _), List.cons_append]

theorem deleteAll_append_cons (some : pattern ≠ []) (apart : c ∉ pattern) (a : List α) :
    deleteAll pattern (a ++ c :: rest) = deleteAll pattern a ++ c :: deleteAll pattern rest :=
  deleteFrom_append_cons some apart (Nat.zero_le _)

theorem length_deleteFrom_le : (deleteFrom pattern skip text).length ≤ text.length := by
  induction text generalizing skip with
  | nil => exact Nat.le_refl _
  | cons c text ih =>
    cases skip with
    | succ skip => exact ih.trans (Nat.le_succ _)
    | zero =>
      rw [deleteFrom]
      split
      · exact ih.trans (Nat.le_succ _)
      · exact Nat.succ_le_succ ih

theorem deleteAll_of_not_infix (absent : ¬ pattern <:+: text) : deleteAll pattern text = text := by
  induction text with
  | nil => rfl
  | cons c text ih =>
    rw [List.infix_cons_iff, not_or] at absent
    rw [deleteAll, deleteFrom, if_neg (List.isPrefixOf_iff_prefix.not.mpr absent.1)]
    exact congrArg (c :: ·) (ih absent.2)

theorem length_deleteAll_lt (some : pattern ≠ []) (inside : pattern <:+: text) :
    (deleteAll pattern text).length < text.length := by
  induction text with
  | nil => exact absurd (List.infix_nil.mp inside) some
  | cons c text ih =>
    rw [deleteAll, deleteFrom]
    split
    · exact Nat.lt_succ_of_le length_deleteFrom_le
    · rename_i other
      have later := (List.infix_cons_iff.mp inside).resolve_left (List.isPrefixOf_iff_prefix.not.mp other)
      exact Nat.succ_lt_succ (ih later)

theorem deleteAll_eq_self (some : pattern ≠ []) :
    deleteAll pattern text = text ↔ ¬ pattern <:+: text := by
  constructor
  · intro same inside
    exact Nat.lt_irrefl _ (same ▸ length_deleteAll_lt some inside)
  · exact deleteAll_of_not_infix

end Go
