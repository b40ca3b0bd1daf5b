import Mathlib.Tactic.Common

/-! The fields of a line, which are separated by any number of blanks. -/
namespace Go
variable {α : Type} {separates : α → Bool} {c separator : α} {text first rest field : List α}

theorem eq_takeWhile_append [DecidableEq α] (member : separator ∈ text) :
    text = text.takeWhile (· ≠ separator) ++ separator :: (text.dropWhile (· ≠ separator)).drop
      1 := by
  induction text with
  | nil => contradiction
  | cons d rest ih =>
    by_cases same : d = separator
    · simp [same]
    · have later := (List.mem_cons.mp member).resolve_left (Ne.symm same)
      simpa [same] using ih later

theorem mem_splitOnP (separates : α → Bool) (member : c ∈ text) :
    separates c = true ∨ ∃ part ∈ text.splitOnP separates, c ∈ part := by
  induction text with
  | nil => contradiction
  | cons d rest ih =>
    rw [List.splitOnP_cons_eq_if_modifyHead]
    obtain ⟨part, parts, split⟩ := List.exists_cons_of_ne_nil (List.splitOnP_ne_nil separates rest)
    rw [split] at ih ⊢
    split
    · rename_i here
      obtain rfl | later := List.mem_cons.mp member
      · exact .inl here
      · obtain separator | ⟨found, inside, holds⟩ := ih later
        · exact .inl separator
        · exact .inr ⟨found, List.mem_cons_of_mem _ inside, holds⟩
    · rw [List.modifyHead_cons]
      obtain rfl | later := List.mem_cons.mp member
      · exact .inr ⟨_, List.mem_cons_self, List.mem_cons_self⟩
      · obtain here | ⟨found, inside, holds⟩ := ih later
        · exact .inl here
        · obtain rfl | other := List.mem_cons.mp inside
          · exact .inr ⟨_, List.mem_cons_self, List.mem_cons_of_mem _ holds⟩
          · exact .inr ⟨found, List.mem_cons_of_mem _ other, holds⟩

theorem mem_of_mem_splitOnP (part : field ∈ text.splitOnP separates) (member : c ∈ field) :
    c ∈ text := by
  induction text generalizing field with
  | nil =>
    rw [List.splitOnP_nil, List.mem_singleton] at part
    exact part ▸ member
  | cons d rest ih =>
    rw [List.splitOnP_cons_eq_if_modifyHead] at part
    obtain ⟨head, parts, split⟩ := List.exists_cons_of_ne_nil (List.splitOnP_ne_nil separates rest)
    rw [split] at part ih
    split_ifs at part
    · obtain rfl | later := List.mem_cons.mp part
      · contradiction
      · exact List.mem_cons_of_mem _ (ih later member)
    · rw [List.modifyHead_cons] at part
      obtain rfl | later := List.mem_cons.mp part
      · exact List.mem_cons.mpr ((List.mem_cons.mp member).imp_right fun inside => ih List.mem_cons_self inside)
      · exact List.mem_cons_of_mem _ (ih (List.mem_cons_of_mem _ later) member)

/-- `strings.FieldsFunc`. -/
def fieldsOf (separates : α → Bool) (text : List α) : List (List α) :=
  (text.splitOnP separates).filter fun field => !field.isEmpty

theorem mem_of_mem_fieldsOf (inside : field ∈ fieldsOf separates text) (member : c ∈ field) :
    c ∈ text :=
  mem_of_mem_splitOnP (List.mem_filter.mp inside).1 member

theorem exists_fieldsOf (separates : α → Bool) (member : c ∈ text) (kept : separates c = false) :
    ∃ field ∈ fieldsOf separates text, c ∈ field := by
  obtain separator | ⟨part, inside, holds⟩ := mem_splitOnP separates member
  · rw [kept] at separator
    contradiction
  · refine ⟨part, List.mem_filter.mpr ⟨inside, ?_⟩, holds⟩
    cases part with
    | nil => contradiction
    | cons => rfl

theorem fieldsOf_append (nonempty : first ≠ []) (free : ∀ c ∈ first, separates c = false)
    (separator : separates c = true) :
    fieldsOf separates (first ++ c :: rest) = first :: fieldsOf separates rest := by
  rw [fieldsOf, List.splitOnP_append_cons_of_forall_mem free _ separator,
    List.filter_cons_of_pos (by simpa using nonempty)]
  rfl

end Go
