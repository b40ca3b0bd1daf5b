import Nodelet.Go.JsonRoundTrip
import Nodelet.Go.Keyed
import Mathlib.Data.List.Pairwise

/-! `json.Unmarshal` into a struct of strings, integers and slices of strings. A value that does not
fit its field is skipped and the rest is decoded, so that an error leaves the struct partly
changed. -/
namespace Go.JsonStruct
open JsonText (Value Item sameFold parse marshalIndent)

/-- A slice of strings. The decoder writes into the array that is there, so that what lies behind
the length may be seen again. -/
structure Strings where
  isNil : Bool := true
  items : List String := []
  spare : List String := []
  deriving DecidableEq, Repr

/-- `[]string{}`. -/
def Strings.empty : Strings := ⟨false, [], []⟩

inductive Kind where
  | string
  | int
  | strings
  deriving DecidableEq, Repr

def Kind.Contents : Kind → Type
  | .string => String
  | .int => Int
  | .strings => Strings

/-- The value after decoding, and whether there was an error. -/
def storeString : Value → String → String × Bool
  | .string value, _ => (value, false)
  | .null, prior => (prior, false)
  | _, prior => (prior, true)

def storeInt : Value → Int → Int × Bool
  | .number literal, prior =>
    match atoi literal with
    | some value => (value, false)
    | none => (prior, true)
  | .null, prior => (prior, false)
  | _, prior => (prior, true)

/-- The elements one by one, each onto the slot that is there. An array that is full is copied to a
larger one. -/
def storeItems : List Value → List String → List String → List String × List String × Bool
  | [], items, spare => (items, spare, false)
  | value :: rest, items, spare =>
    let slots :=
      if spare = [] then List.replicate (max 4 (items.length + items.length / 2) - items.length) "" else spare
    let (item, failed) := storeString value (slots.headD "")
    let (items, spare, later) := storeItems rest (items ++ [item]) slots.tail
    (items, spare, failed || later)

def storeStrings : Value → Strings → Strings × Bool
  | .array [], _ => (.empty, false)
  | .array values, prior =>
    let (items, spare, failed) := storeItems values [] (prior.items ++ prior.spare)
    (⟨false, items, spare⟩, failed)
  | .null, _ => ({}, false)
  | _, prior => (prior, true)

def Kind.store : (kind : Kind) → Value → kind.Contents → kind.Contents × Bool
  | .string => storeString
  | .int => storeInt
  | .strings => storeStrings

def Kind.item : (kind : Kind) → kind.Contents → Item
  | .string, value => .string value
  | .int, value => .int value
  | .strings, value => .strings (if value.isNil then none else some value.items)

structure Field (σ : Type) where
  name : String
  kind : Kind
  get : σ → kind.Contents
  set : kind.Contents → σ → σ

def Field.item (f : Field σ) (s : σ) : Item := f.kind.item (f.get s)

/-- A write to one field is not seen in the other. -/
def Field.Independent (f g : Field σ) : Prop := ∀ value s, g.get (f.set value s) = g.get s

structure Struct (σ : Type) where
  fields : List (Field σ)
  distinct : (fields.map Field.name).Nodup
  get_set : ∀ f ∈ fields, ∀ value s, f.get (f.set value s) = value
  independent : fields.Pairwise fun f g => f.Independent g ∧ g.Independent f

section Unmarshal
variable {σ : Type}

/-- A key is that of a field exactly, or else up to the case of its letters. -/
def findField (fields : List (Field σ)) (key : String) : Option (Field σ) :=
  (fields.find? fun f => f.name = key).or (fields.find? fun f => sameFold f.name key)

/-- A key without a field is ignored. -/
def storeEntry (fields : List (Field σ)) (s : σ × Bool) (entry : String × Value) : σ × Bool :=
  match findField fields entry.1 with
  | none => s
  | some f =>
    let (value, failed) := f.kind.store entry.2 (f.get s.1)
    (f.set value s.1, s.2 || failed)

/-- Through a pointer to a pointer. What is left is the struct, and whether there was an error;
`null` sets the inner pointer to nil. -/
def unmarshal (struct : Struct σ) (text : List Char) (prior : σ) : Option (σ × Bool) :=
  match parse text with
  | some .null => none
  | some (.object entries) => some (entries.foldl (storeEntry struct.fields) (prior, false))
  | _ => some (prior, true)

def entries (fields : List (Field σ)) (s : σ) : List (String × Item) :=
    fields.map fun f => (f.name, f.item s)

def marshal (struct : Struct σ) (s : σ) : List Char := marshalIndent (entries struct.fields s)

end Unmarshal

/-- What a field of this kind can hold. -/
def Kind.Holds : (kind : Kind) → kind.Contents → Prop
  | .int, value => Int64 value
  | _, _ => True

section RoundTrip
variable {σ : Type} {fields rest : List (Field σ)} {f g : Field σ} {s t : σ}

theorem storeItems_strings (texts items spare : List String) : ∃ left,
    storeItems (texts.map .string) items spare = (items ++ texts, left, false) := by
  induction texts generalizing items spare with
  | nil => exact ⟨spare, by simp [storeItems]⟩
  | cons text rest ih =>
    rw [List.map_cons, storeItems]
    dsimp only [storeString]
    obtain ⟨left, stored⟩ := ih (items ++ [text]) _
    exact ⟨left, by rw [stored]; simp⟩

theorem storeStrings_array (texts : List String) (prior : Strings) : ∃ spare,
    storeStrings (.array (texts.map .string)) prior = (⟨false, texts, spare⟩, false) := by
  cases texts with
  | nil => exact ⟨[], rfl⟩
  | cons text rest =>
    obtain ⟨left, stored⟩ := storeItems_strings (text :: rest) [] (prior.items ++ prior.spare)
    refine ⟨left, ?_⟩
    rw [List.map_cons] at stored ⊢
    simp only [storeStrings, stored, List.nil_append]

theorem storeInt_toString {value : Int} (holds : Int64 value) (prior : Int) :
    storeInt (.number (toString value)) prior = (value, false) := by
  rw [storeInt, atoi_toString holds]

/-- A value that is written and read again is the same one as it is written. -/
theorem Kind.store_item {kind : Kind} {value : kind.Contents} (holds : kind.Holds value)
    (prior : kind.Contents) :
    ∃ stored, kind.store (kind.item value).value prior = (stored, false) ∧
      kind.item stored = kind.item value := by
  cases kind with
  | string => exact ⟨value, rfl, rfl⟩
  | int => exact ⟨value, storeInt_toString holds prior, rfl⟩
  | strings =>
    obtain ⟨isNil, items, spare⟩ := value
    cases isNil with
    | true => exact ⟨_, rfl, rfl⟩
    | false =>
      obtain ⟨left, stored⟩ := storeStrings_array items prior
      exact ⟨_, stored, rfl⟩

theorem findField_name (distinct : (fields.map Field.name).Nodup) (member : f ∈ fields) :
    findField fields f.name = some f := by
  have found := Keyed.find?_key distinct member
  rw [findField, found, Option.some_or]

theorem lookup_entries (distinct : (fields.map Field.name).Nodup) (member : f ∈ fields) (s : σ) :
    ((entries fields s).map fun entry => (entry.1, entry.2.value)).lookup f.name =
      some (f.item s).value := by
  induction fields with
  | nil => contradiction
  | cons first rest ih =>
    obtain ⟨new, distinct⟩ := List.nodup_cons.mp distinct
    rw [entries, List.map_cons, List.map_cons, ← entries, List.lookup_cons]
    obtain rfl | later := List.mem_cons.mp member
    · rw [beq_self_eq_true]
    · have other : f.name ≠ first.name := fun same => new (same ▸ List.mem_map_of_mem later)
      rw [beq_eq_false_iff_ne.mpr other]
      exact ih distinct later

theorem foldl_entries (struct : Struct σ) (among : ∀ f ∈ rest, f ∈ struct.fields)
    (independent : rest.Pairwise fun f g => f.Independent g ∧ g.Independent f)
    (holds : ∀ f ∈ rest, f.kind.Holds (f.get s)) (t : σ) : ∃ t',
      ((entries rest s).map fun entry => (entry.1, entry.2.value)).foldl (storeEntry struct.fields)
        (t, false) = (t', false) ∧
        (∀ f ∈ rest, f.item t' = f.item s) ∧ ∀ g, (∀ f ∈ rest, f.Independent g) →
        g.get t' = g.get t := by
  induction rest generalizing t with
  | nil => exact ⟨t, rfl, by simp, fun _ _ => rfl⟩
  | cons f rest ih =>
    obtain ⟨here, among⟩ := List.forall_mem_cons.mp among
    obtain ⟨apart, independent⟩ := List.pairwise_cons.mp independent
    obtain ⟨held, holds⟩ := List.forall_mem_cons.mp holds
    obtain ⟨stored, fits, same⟩ := Kind.store_item held (f.get t)
    obtain ⟨t', later, items, frame⟩ := ih among independent holds (f.set stored t)
    have first : storeEntry struct.fields (t, false) (f.name, (f.item s).value) = (f.set stored t, false) := by
      simp only [storeEntry, findField_name struct.distinct here, Field.item, fits, Bool.or_false]
    refine ⟨t', ?_, ?_, ?_⟩
    · rw [entries, List.map_cons, List.map_cons, List.foldl_cons, first]
      exact later
    · refine List.forall_mem_cons.mpr ⟨?_, items⟩
      have kept := frame f fun g member => (apart g member).2
      rw [Field.item, kept, struct.get_set f here, same]
      rfl
    · intro g apart
      obtain ⟨first, others⟩ := List.forall_mem_cons.mp apart
      rw [frame g others, first]

theorem int64_storeInt (value : Value) {prior : Int} (holds : Int64 prior) :
    Int64 (storeInt value prior).1 := by
  cases value with
  | number literal =>
    rw [storeInt]
    split
    · exact int64_of_atoi ‹_›
    · exact holds
  | null | bool | string | array | object => exact holds

theorem Kind.store_holds {kind : Kind} (value : Value) {prior : kind.Contents}
    (holds : kind.Holds prior) : kind.Holds (kind.store value prior).1 := by
  cases kind with
  | string => trivial
  | int => exact int64_storeInt value holds
  | strings => trivial

theorem Struct.apart (struct : Struct σ) (first : f ∈ struct.fields) (second : g ∈ struct.fields)
    (other : f ≠ g) : f.Independent g := by
  have symm : Std.Symm fun f g : Field σ => f.Independent g ∧ g.Independent f :=
    ⟨fun _ _ => And.symm⟩
  exact (struct.independent.forall first second other).1

theorem Struct.holds_set (struct : Struct σ) {value : f.kind.Contents} (member : f ∈ struct.fields)
    (holds : ∀ g ∈ struct.fields, g.kind.Holds (g.get s)) (held : f.kind.Holds value) :
    ∀ g ∈ struct.fields, g.kind.Holds (g.get (f.set value s)) := by
  intro g other
  by_cases same : f = g
  · subst same
    rwa [struct.get_set f member]
  · rw [struct.apart member other same]
    exact holds g other

/-- Structs that are written in the same way are so after the same change. -/
theorem Struct.items_set (struct : Struct σ) (member : f ∈ struct.fields)
    (same : ∀ g ∈ struct.fields, g.item t = g.item s) (value : f.kind.Contents) :
    ∀ g ∈ struct.fields, g.item (f.set value t) = g.item (f.set value s) := by
  intro g other
  by_cases own : f = g
  · subst own
    rw [Field.item, Field.item, struct.get_set f member, struct.get_set f member]
  · rw [Field.item, Field.item, struct.apart member other own, struct.apart member other own]
    exact same g other

theorem mem_of_findField {key : String} (found : findField fields key = some f) : f ∈ fields := by
  rcases Option.or_eq_some_iff.mp found with found | ⟨-, found⟩
  · exact List.mem_of_find?_eq_some found
  · exact List.mem_of_find?_eq_some found

theorem unmarshal_keeps (struct : Struct σ) (P : σ → Prop) {prior : σ} {failed : Bool}
    (kept : ∀ f ∈ struct.fields, ∀ value s, P s → P (f.set (f.kind.store value (f.get s)).1 s))
    (before : P prior) (decoded : unmarshal struct text prior = some (s, failed)) : P s := by
  have stored (entries : List (String × Value)) : ∀ s : σ × Bool, P s.1 →
      P (entries.foldl (storeEntry struct.fields) s).1 := by
    induction entries with
    | nil => exact fun _ => id
    | cons entry rest ih =>
      intro s before
      apply ih
      unfold storeEntry
      split
      · exact before
      · exact kept _ (mem_of_findField ‹_›) _ _ before
  unfold unmarshal at decoded
  split at decoded
  · contradiction
  · rename_i entries _
    have after := stored entries (prior, false) before
    rwa [Option.some.inj decoded] at after
  · obtain ⟨rfl, -⟩ := Prod.mk.inj (Option.some.inj decoded)
    exact before

/-- Whatever is decoded, the fields hold what they can hold. -/
theorem unmarshal_holds (struct : Struct σ) {prior : σ} {failed : Bool}
    (holds : ∀ f ∈ struct.fields, f.kind.Holds (f.get prior))
      (decoded : unmarshal struct text prior = some (s, failed)) :
    ∀ f ∈ struct.fields, f.kind.Holds (f.get s) := by
  refine unmarshal_keeps struct (fun s => ∀ f ∈ struct.fields, f.kind.Holds (f.get s)) ?_ holds
    decoded
  intro f member value s holds
  exact struct.holds_set member holds (Kind.store_holds value (holds f member))

/-- What is written is read back, onto whatever was there. -/
theorem unmarshal_marshal (struct : Struct σ) (holds : ∀ f ∈ struct.fields, f.kind.Holds (f.get s))
    (prior : σ) :
    ∃ t, unmarshal struct (marshal struct s) prior = some (t, false) ∧
      ∀ f ∈ struct.fields, f.item t = f.item s := by
  obtain ⟨t, stored, items, -⟩ := foldl_entries struct (fun _ => id) struct.independent holds prior
  refine ⟨t, ?_, items⟩
  rw [unmarshal, marshal, JsonText.parse_marshalIndent]
  exact congrArg some stored

end RoundTrip

end Go.JsonStruct
