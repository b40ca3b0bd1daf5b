import Mathlib.Data.List.Nodup

/-! Lists that hold one entry for a key. An entry is put in the place of the one of its key, or at
the end. -/
namespace Go.Keyed

theorem find?_key {α κ : Type*} [DecidableEq κ] {key : α → κ} {entry : α} {entries : List α}
    (distinct : (entries.map key).Nodup) (member : entry ∈ entries) :
    entries.find? (fun other => key other = key entry) = some entry := by
  induction entries with
  | nil => contradiction
  | cons first rest ih =>
    obtain ⟨new, distinct⟩ := List.nodup_cons.mp distinct
    obtain rfl | later := List.mem_cons.mp member
    · simp
    · have other : key first ≠ key entry := fun same => new (same ▸ List.mem_map_of_mem later)
      rw [List.find?_cons_of_neg (by simpa using other), ih distinct later]

variable {α κ : Type} [DecidableEq κ] {key : α → κ} {entry other : α} {entries : List α}

def put (key : α → κ) (entry : α) (entries : List α) : List α :=
  if key entry ∈ entries.map key then entries.map fun other => if key other = key entry then entry
    else other
  else entries ++ [entry]

/-- The last entry of its key. -/
def Last (key : α → κ) (entries : List α) (entry : α) : Prop :=
  ∃ before after, entries = before ++ entry :: after ∧ ∀ other ∈ after, key other ≠ key entry

theorem mem_put :
    other ∈ put key entry entries ↔ other = entry ∨ other ∈ entries ∧ key other ≠ key entry := by
  unfold put
  split
  · rename_i taken
    obtain ⟨old, member, same⟩ := List.mem_map.mp taken
    rw [List.mem_map]
    constructor
    · rintro ⟨here, member, rfl⟩
      split
      · exact .inl rfl
      · exact .inr ⟨member, ‹_›⟩
    · rintro (rfl | ⟨member, apart⟩)
      · exact ⟨old, member, if_pos same⟩
      · exact ⟨other, member, if_neg apart⟩
  · rename_i free
    rw [List.mem_append, List.mem_singleton, or_comm]
    apply or_congr_right
    constructor
    · intro member
      exact ⟨member, fun same => free (same ▸ List.mem_map_of_mem member)⟩
    · exact And.left

theorem map_key_put : (put key entry entries).map key =
    if key entry ∈ entries.map key then entries.map key else entries.map key ++ [key entry] := by
  unfold put
  split
  · rw [List.map_map]
    apply List.map_congr_left
    intro here _
    simp only [Function.comp_apply]
    split
    · rename_i same
      exact same.symm
    · rfl
  · rw [List.map_append, List.map_singleton]

theorem map_replace_of_free (free : key entry ∉ entries.map key) :
    entries.map (fun other => if key other = key entry then entry else other) = entries := by
  conv_rhs => rw [← List.map_id entries]
  apply List.map_congr_left
  intro other member
  have apart : key other ≠ key entry := fun same => free (same ▸ List.mem_map_of_mem member)
  exact if_neg apart

theorem distinct_put (distinct : (entries.map key).Nodup) :
    ((put key entry entries).map key).Nodup := by
  rw [map_key_put]
  split
  · exact distinct
  · rename_i free
    rw [List.nodup_append]
    refine ⟨distinct, List.nodup_singleton _, ?_⟩
    intro k member k' here same
    rw [List.mem_singleton] at here
    exact free (here ▸ same ▸ member)

theorem filter_put (key : α → κ) (entry : α) (entries : List α) :
    (put key entry entries).filter (key · ≠ key entry) = entries.filter (key · ≠ key entry) := by
  have replaced : (entries.map fun other => if key other = key entry then entry
      else other).filter (key · ≠ key entry) = entries.filter (key · ≠ key entry) := by
    induction entries with
    | nil => rfl
    | cons first rest ih =>
      by_cases same : key first = key entry
      · simpa [same] using ih
      · simpa [same] using ih
  unfold put
  split
  · exact replaced
  · simp

theorem exists_last {k : κ} (member : k ∈ entries.map key) :
    ∃ last, Last key entries last ∧ key last = k := by
  induction entries with
  | nil => contradiction
  | cons first rest ih =>
    by_cases later : k ∈ rest.map key
    · obtain ⟨last, ⟨before, after, rfl, apart⟩, same⟩ := ih later
      exact ⟨last, ⟨first :: before, after, rfl, apart⟩, same⟩
    · obtain rfl : k = key first := (List.mem_cons.mp member).resolve_right later
      refine ⟨first, ⟨[], rest, rfl, ?_⟩, rfl⟩
      intro other inside same
      exact later (same ▸ List.mem_map_of_mem inside)

omit [DecidableEq κ] in
theorem Last.mem (last : Last key entries entry) : entry ∈ entries := by
  obtain ⟨before, after, rfl, -⟩ := last
  exact List.mem_append_right _ List.mem_cons_self

end Go.Keyed
