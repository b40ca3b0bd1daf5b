import Nodelet.Go.Program

/-! Go slices over shared backing arrays. Reslicing never copies and `append`
writes in place while capacity remains, so two slices of one array see each
other's writes. The growth of a reallocated array is not fixed by the language
and stays a parameter. -/
namespace Go

/-- Backing arrays, addressed by their allocation number. -/
abbrev Heap (α : Type) := List (List α)

structure Slice where
  array : Nat
  offset : Nat
  length : Nat
  capacity : Nat
  deriving DecidableEq, Repr

/-- The nil slice; a composite literal without elements reads the same. -/
def Slice.empty : Slice := ⟨0, 0, 0, 0⟩

variable {α : Type} {s : Slice} {k : Nat}

def Heap.read (heap : Heap α) (s : Slice) : List α :=
  ((heap.getD s.array []).drop s.offset).take s.length

/-- The slice expression `s[low:high]`. Its upper bound is the capacity, not the length. -/
def Slice.reslice (s : Slice) (low high : Int) : Except Halt Slice :=
  if 0 ≤ low ∧ low ≤ high ∧ high ≤ s.capacity then
    .ok ⟨s.array, s.offset + low.toNat, (high - low).toNat, s.capacity - low.toNat⟩
  else .error (.panic .sliceBoundsOutOfRange)

/-- The built-in `append` of one element. -/
def Heap.append [Inhabited α] (grow : Nat → Nat) (heap : Heap α) (s : Slice) (x : α) :
    Heap α × Slice :=
  if s.length < s.capacity then
    (heap.modify s.array (fun elements => elements.set (s.offset + s.length) x),
      { s with length := s.length + 1 })
  else
    let capacity := max (s.length + 1) (grow s.capacity)
    (heap ++ [heap.read s ++ x :: List.replicate (capacity - (s.length + 1)) default],
      ⟨heap.length, 0, s.length + 1, capacity⟩)

/-- The slice header lies inside its backing array. -/
structure Slice.Fits (heap : Heap α) (s : Slice) : Prop where
  length_le : s.length ≤ s.capacity
  capacity_le : s.offset + s.capacity ≤ (heap.getD s.array []).length

theorem Slice.empty_fits (heap : Heap α) : Slice.empty.Fits heap :=
  ⟨Nat.le_refl _, Nat.zero_le _⟩

theorem Heap.read_empty (heap : Heap α) : heap.read .empty = [] := by
  simp [Heap.read, Slice.empty]

variable {heap : Heap α} {grow : Nat → Nat}

theorem Slice.Fits.read_length (fits : s.Fits heap) : (heap.read s).length = s.length := by
  have bound := fits.capacity_le
  have short := fits.length_le
  simp only [Heap.read, List.length_take, List.length_drop]
  omega

theorem Heap.read_shorten (short : k ≤ s.length) :
    heap.read { s with length := k } = (heap.read s).take k := by
  simp only [Heap.read, List.take_take, Nat.min_eq_left short]

theorem Slice.Fits.reslice_prefix (fits : s.Fits heap) (short : k ≤ s.length) :
    s.reslice 0 (k : Int) = .ok { s with length := k } := by
  have bound := Nat.le_trans short fits.length_le
  have within : (0 : Int) ≤ 0 ∧ (0 : Int) ≤ (k : Int) ∧ (k : Int) ≤ s.capacity := by omega
  simp only [Slice.reslice, if_pos within]
  simp

theorem Slice.Fits.append_fits [Inhabited α] (fits : s.Fits heap) (x : α) :
    (heap.append grow s x).2.Fits (heap.append grow s x).1 := by
  have readLength := fits.read_length
  have bound := fits.capacity_le
  unfold Heap.append
  split
  · rename_i room
    refine ⟨room, ?_⟩
    simp only [List.getD_eq_getElem?_getD, List.getElem?_modify] at bound ⊢
    cases found : heap[s.array]? with
    | none => simpa [found] using bound
    | some elements => simpa [found] using bound
  · refine ⟨Nat.le_max_left _ _, ?_⟩
    simp only [List.getD_eq_getElem?_getD, List.getElem?_concat_length, Option.getD_some,
      List.length_append, List.length_cons, List.length_replicate, readLength]
    omega

theorem Slice.Fits.append_read [Inhabited α] (fits : s.Fits heap) (x : α) :
    (heap.append grow s x).1.read (heap.append grow s x).2 = heap.read s ++ [x] := by
  have readLength := fits.read_length
  have bound := fits.capacity_le
  unfold Heap.append
  split
  · rename_i room
    simp only [Heap.read, List.getD_eq_getElem?_getD, List.getElem?_modify] at bound ⊢
    cases found : heap[s.array]? with
    | none => simp [found] at bound; omega
    | some elements =>
      simp only [found, Option.map_eq_map, Option.map_some, Option.getD_some, if_true] at bound ⊢
      have inside : s.length < (elements.drop s.offset).length := by
        simp only [List.length_drop]; omega
      have moved : (elements.set (s.offset + s.length) x).drop s.offset =
          (elements.drop s.offset).set s.length x := by
        rw [List.drop_set, if_neg (by omega), Nat.add_sub_cancel_left]
      rw [moved, List.take_succ_eq_append_getElem (by simpa using inside), List.take_set_of_le (Nat.le_refl _)]
      simp
  · simp only [Heap.read, List.getD_eq_getElem?_getD, List.getElem?_concat_length, Option.getD_some,
      List.drop_zero]
    rw [← List.getD_eq_getElem?_getD]
    change List.take (s.length + 1) (heap.read s ++ x :: _) = heap.read s ++ [x]
    rw [← readLength, List.take_length_add_append]
    simp

/-- Appending to a prefix of a slice the element that already follows it there
rewrites that element in place with its own value, so no other slice changes. -/
theorem Slice.Fits.append_prefix [Inhabited α] {x : α}
    (fits : s.Fits heap) (short : k < s.length) (follows : (heap.read s)[k]? = some x) :
    heap.append grow { s with length := k } x = (heap, { s with length := k + 1 }) := by
  have room : k < s.capacity := Nat.lt_of_lt_of_le short fits.length_le
  simp only [Heap.append, if_pos room, Prod.mk.injEq, and_true]
  apply List.ext_getElem?
  intro a
  rw [List.getElem?_modify]
  cases found : heap[a]? with
  | none => rfl
  | some elements =>
    by_cases same : s.array = a
    · subst same
      have present : elements[s.offset + k]? = some x := by
        simpa only [Heap.read, List.getD_eq_getElem?_getD, found, Option.getD_some,
          List.getElem?_take_of_lt short, List.getElem?_drop] using follows
      simp only [if_true, Option.map_eq_map, Option.map_some, Option.some.injEq]
      obtain ⟨inside, value⟩ := List.getElem?_eq_some_iff.mp present
      rw [← value, List.set_getElem_self]
    · simp [same]

section Frame
variable {heap heap' : Heap α} {bound : Nat}

/-- The arrays below the bound are as they were. -/
def Heap.Keeps (bound : Nat) (heap heap' : Heap α) : Prop := ∀ a < bound, heap'[a]? = heap[a]?

/-- A slice that shares no array below the bound, so that appending to it changes none of them. -/
structure Slice.Above (bound : Nat) (heap : Heap α) (s : Slice) : Prop where
  fits : s.Fits heap
  within : bound ≤ heap.length
  apart : s.capacity = 0 ∨ bound ≤ s.array

theorem Slice.above_empty (within : bound ≤ heap.length) : Slice.empty.Above bound heap :=
  ⟨empty_fits heap, within, .inl rfl⟩

theorem Heap.Keeps.read (keeps : Heap.Keeps bound heap heap') (below : s.array < bound) :
    heap'.read s = heap.read s := by
  simp only [Heap.read, List.getD_eq_getElem?_getD, keeps s.array below]

theorem Heap.Keeps.fits (keeps : Heap.Keeps bound heap heap') (below : s.array < bound)
    (fits : s.Fits heap) : s.Fits heap' := by
  have bounded := fits.capacity_le
  refine ⟨fits.length_le, ?_⟩
  rwa [List.getD_eq_getElem?_getD, keeps s.array below, ← List.getD_eq_getElem?_getD]

/-- A slice without an array has no elements, so that one of these is enough. -/
theorem Slice.Fits.kept (fits : s.Fits heap) (keeps : Heap.Keeps heap.length heap heap') :
    s.Fits heap' ∧ heap'.read s = heap.read s := by
  by_cases below : s.array < heap.length
  · exact ⟨keeps.fits below fits, keeps.read below⟩
  · have bounded := fits.capacity_le
    have short := fits.length_le
    rw [List.getD_eq_getElem?_getD, List.getElem?_eq_none (by omega), Option.getD_none,
      List.length_nil] at bounded
    have none : s.length = 0 := by omega
    refine ⟨⟨short, by omega⟩, ?_⟩
    simp only [Heap.read, none, List.take_zero]

theorem Heap.Keeps.trans (first : Heap.Keeps bound heap heap')
    (second : Heap.Keeps bound heap' heap'') : Heap.Keeps bound heap heap'' :=
  fun a below => (second a below).trans (first a below)

theorem Slice.Above.append [Inhabited α] (above : s.Above bound heap) (grow : Nat → Nat) (x : α) :
    (heap.append grow s x).2.Above bound (heap.append grow s x).1 ∧
      Heap.Keeps bound heap (heap.append grow s x).1 := by
  have fits : (heap.append grow s x).2.Fits (heap.append grow s x).1 := above.fits.append_fits x
  have within := above.within
  unfold Heap.append at fits ⊢
  split at fits
  · rename_i room
    have high : bound ≤ s.array := above.apart.resolve_left (by omega)
    rw [if_pos room]
    refine ⟨⟨fits, by simpa using within, .inr high⟩, fun a below => ?_⟩
    have other : s.array ≠ a := by omega
    simp [other]
  · rename_i full
    rw [if_neg full]
    refine ⟨⟨fits, by simpa using Nat.le_succ_of_le within, .inr within⟩, fun a below => ?_⟩
    exact List.getElem?_append_left (by omega)

end Frame

end Go
