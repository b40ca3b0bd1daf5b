import Nodelet.Go.Program
import Nodelet.Go.Keyed
import Mathlib.Tactic.Common

/-! Structs as JSON objects. A field that is tagged `omitempty` is left out where it is empty, and
a field that is not in the object keeps the value that was there before. So a struct is
read back as it was written if each field that is left out has the same value before. -/
namespace Go

inductive Json where
  | null
  | bool (value : Bool)
  | num (value : Int)
  | str (value : String)
  | arr (items : List Json)
  | obj (entries : List (String × Json))

namespace Json

/-- How a type is written, and read onto a value that is there. -/
structure Codec (α : Type) where
  encode : α → Json
  decode : Json → α → Except Error α
  /-- What `omitempty` leaves out. -/
  empty : α → Bool

def mismatch (type : String) : Error :=
    "json: cannot unmarshal value into Go value of type " ++ type

def string : Codec String where
  encode := .str
  decode
    | .str value, _ => .ok value
    | .null, prior => .ok prior
    | _, _ => .error (mismatch "string")
  empty value := value = ""

def boolean : Codec Bool where
  encode := .bool
  decode
    | .bool value, _ => .ok value
    | .null, prior => .ok prior
    | _, _ => .error (mismatch "bool")
  empty value := value = false

def int : Codec Int where
  encode := .num
  decode
    | .num value, _ => .ok value
    | .null, prior => .ok prior
    | _, _ => .error (mismatch "int")
  empty value := value = 0

/-- A pointer to a new value. -/
def pointer (codec : Codec α) (zero : α) : Codec (Option α) where
  encode
    | none => .null
    | some value => codec.encode value
  decode
    | .null, _ => .ok none
    | json, _ => (codec.decode json zero).map some
  empty value := value.isNone

/-- A slice, which is nil or has elements. A slice of length zero counts as empty. -/
def slice (codec : Codec α) (zero : α) : Codec (Option (List α)) where
  encode
    | none => .null
    | some items => .arr (items.map codec.encode)
  decode
    | .null, _ => .ok none
    | .arr items, _ => (items.mapM fun item => codec.decode item zero).map some
    | _, _ => .error (mismatch "slice")
  empty value := (value.getD []).isEmpty

structure Field (σ : Type) where
  Value : Type
  name : String
  omitempty : Bool := true
  codec : Codec Value
  get : σ → Value
  set : Value → σ → σ

/-- A write to one field is not seen in the other. -/
def Field.Independent (f g : Field σ) : Prop := ∀ value s, g.get (f.set value s) = g.get s

/-- The fields of a struct, which are all there is to it. -/
structure Struct (σ : Type) where
  fields : List (Field σ)
  distinct : (fields.map Field.name).Nodup
  get_set : ∀ f ∈ fields, ∀ value s, f.get (f.set value s) = value
  independent : fields.Pairwise fun f g => f.Independent g ∧ g.Independent f
  ext : ∀ s t, (∀ f ∈ fields, f.get s = f.get t) → s = t

def Field.written (f : Field σ) (s : σ) : Bool := !(f.omitempty && f.codec.empty (f.get s))

def entries (fields : List (Field σ)) (s : σ) : List (String × Json) :=
  fields.filterMap fun f => if f.written s then some (f.name, f.codec.encode (f.get s)) else none

/-- A key is that of a field exactly, or else up to the case of its letters. -/
def findField (fields : List (Field σ)) (key : String) : Option (Field σ) :=
  (fields.find? (·.name = key)).or (fields.find? (·.name.toLower = key.toLower))

def Field.read (f : Field σ) (json : Json) (s : σ) : Except Error σ :=
    (f.codec.decode json (f.get s)).map (f.set · s)

/-- A key without a field is ignored. -/
def readEntries (fields : List (Field σ)) : List (String × Json) → σ → Except Error σ
  | [], s => .ok s
  | (key, json) :: rest, s =>
    match findField fields key with
    | none => readEntries fields rest s
    | some f => (f.read json s).bind (readEntries fields rest)

def Struct.codec (struct : Struct σ) : Codec σ where
  encode s := .obj (entries struct.fields s)
  decode
    | .obj entries, prior => readEntries struct.fields entries prior
    | .null, prior => .ok prior
    | _, _ => .error (mismatch "struct")
  empty _ := false

/-- What is written is read back. -/
def Codec.Restores (codec : Codec α) (value prior : α) : Prop :=
    codec.decode (codec.encode value) prior = .ok value

/-- What is written of this field, or left out, is read back. -/
def Field.Restores (f : Field σ) (s prior : σ) : Prop :=
  if f.written s then f.codec.Restores (f.get s) (f.get prior) else f.get s = f.get prior

section Atoms

@[simp] theorem string_restores (value prior : String) : string.Restores value prior := rfl
@[simp] theorem boolean_restores (value prior : Bool) : boolean.Restores value prior := rfl
@[simp] theorem int_restores (value prior : Int) : int.Restores value prior := rfl

theorem pointer_string_restores (value prior : Option String) :
    (pointer string "").Restores value prior := by
  cases value <;> rfl

theorem slice_restores {zero : α} (restores : ∀ item, codec.Restores item zero)
    (value prior : Option (List α)) : (slice codec zero).Restores value prior := by
  cases value with
  | none => rfl
  | some items =>
    have all : (items.map codec.encode).mapM (fun item => codec.decode item zero) = .ok items := by
      induction items with
      | nil => rfl
      | cons item rest ih =>
        rw [List.map_cons, List.mapM_cons, restores item, ih]
        rfl
    simp only [Codec.Restores, slice, all]
    rfl

end Atoms

/-- A field that is read back wherever it is written has to be the same before where it is left
out. -/
theorem Field.restores_iff {f : Field σ} {s prior : σ}
    (restores : ∀ value prior, f.codec.Restores value prior) :
    f.Restores s prior ↔ (f.written s = false → f.get s = f.get prior) := by
  cases written : f.written s <;> simp [Field.Restores, written, restores]

section Struct
variable {fields rest : List (Field σ)} {f g : Field σ} {s t u prior : σ}

theorem findField_name (distinct : (fields.map Field.name).Nodup) (member : f ∈ fields) :
    findField fields f.name = some f := by
  have found := Keyed.find?_key distinct member
  rw [findField, found, Option.some_or]

theorem readEntries_written (distinct : (fields.map Field.name).Nodup) (here : f ∈ fields)
    (written : f.written s = true) : readEntries fields (entries (f :: rest) s) u = .ok t ↔
      ∃ value, f.codec.decode (f.codec.encode (f.get s)) (f.get u) = .ok value ∧
        readEntries fields (entries rest s) (f.set value u) = .ok t := by
  have first : entries (f :: rest) s = (f.name, f.codec.encode (f.get s)) :: entries rest s := by
    simp [entries, written]
  rw [first, readEntries, findField_name distinct here]
  dsimp only [Field.read]
  cases f.codec.decode (f.codec.encode (f.get s)) (f.get u) with
  | error err => simp [Except.map, Except.bind]
  | ok value => simp [Except.map, Except.bind]

theorem entries_omitted (omitted : f.written s = false) :
    entries (f :: rest) s = entries rest s := by
  simp [entries, omitted]

theorem readEntries_frame (distinct : (fields.map Field.name).Nodup)
    (among : ∀ f ∈ rest, f ∈ fields) (independent : ∀ f ∈ rest, f.Independent g)
    (read : readEntries fields (entries rest s) u = .ok t) : g.get t = g.get u := by
  induction rest generalizing u with
  | nil =>
    cases read
    rfl
  | cons f rest ih =>
    obtain ⟨here, among⟩ := List.forall_mem_cons.mp among
    obtain ⟨apart, independent⟩ := List.forall_mem_cons.mp independent
    cases written : f.written s with
    | false =>
      rw [entries_omitted written] at read
      exact ih among independent read
    | true =>
      obtain ⟨value, -, later⟩ := (readEntries_written distinct here written).mp read
      rw [ih among independent later, apart]

theorem Field.Restores.congr (same : f.get u = f.get prior) :
    f.Restores s u ↔ f.Restores s prior := by
  rw [Field.Restores, Field.Restores, same]

/-- Reading gives back these fields exactly where each of them is restored. -/
theorem readEntries_restores_iff (distinct : (fields.map Field.name).Nodup)
    (among : ∀ f ∈ rest, f ∈ fields)
    (getSet : ∀ f ∈ fields, ∀ value s, f.get (f.set value s) = value)
    (independent : rest.Pairwise fun f g => f.Independent g ∧ g.Independent f) :
    (∃ t, readEntries fields (entries rest s) u = .ok t ∧ ∀ f ∈ rest, f.get t = f.get s) ↔
      ∀ f ∈ rest, f.Restores s u := by
  induction rest generalizing u with
  | nil => simp [entries, readEntries]
  | cons f rest ih =>
    obtain ⟨here, among⟩ := List.forall_mem_cons.mp among
    obtain ⟨apart, independent⟩ := List.pairwise_cons.mp independent
    have frame {u t : σ} (read : readEntries fields (entries rest s) u = .ok t) : f.get t = f.get u :=
      readEntries_frame distinct among (fun g member => (apart g member).2) read
    simp only [List.forall_mem_cons]
    cases written : f.written s with
    | false =>
      rw [entries_omitted written, ← ih among independent, Field.Restores, written]
      constructor
      · rintro ⟨t, read, first, others⟩
        exact ⟨by simpa [frame read] using first.symm, t, read, others⟩
      · rintro ⟨first, t, read, others⟩
        exact ⟨t, read, by simpa [frame read] using first.symm, others⟩
    | true =>
      simp only [readEntries_written distinct here written, Field.Restores, written, if_true]
      have others (value : f.Value) : (∀ g ∈ rest, g.Restores s (f.set value u)) ↔ ∀ g ∈ rest, g.Restores s u :=
        forall₂_congr fun g member => Field.Restores.congr ((apart g member).1 value u)
      constructor
      · rintro ⟨t, ⟨value, decoded, read⟩, first, all⟩
        have same : value = f.get s := by rw [← first, frame read, getSet f here]
        exact ⟨same ▸ decoded, (others value).mp ((ih among independent).mp ⟨t, read, all⟩)⟩
      · rintro ⟨decoded, all⟩
        obtain ⟨t, read, all⟩ := (ih among independent).mpr ((others (f.get s)).mpr all)
        exact ⟨t, ⟨f.get s, decoded, read⟩, by rw [frame read, getSet f here], all⟩

/-- A struct is read back as it was written exactly where each of its fields is. -/
theorem Struct.restores_iff (struct : Struct σ) (s prior : σ) :
    struct.codec.Restores s prior ↔ ∀ f ∈ struct.fields, f.Restores s prior := by
  rw [← readEntries_restores_iff struct.distinct (fun _ => id) struct.get_set struct.independent]
  constructor
  · exact fun read => ⟨s, read, fun _ _ => rfl⟩
  · rintro ⟨t, read, same⟩
    obtain rfl := struct.ext t s same
    exact read

theorem readEntries_get (distinct : (fields.map Field.name).Nodup) (among : ∀ f ∈ rest, f ∈ fields)
    (getSet : ∀ f ∈ fields, ∀ value s, f.get (f.set value s) = value)
    (independent : rest.Pairwise fun f g => f.Independent g ∧ g.Independent f)
    (read : readEntries fields (entries rest s) u = .ok t) (member : f ∈ rest)
    (written : f.written s = true) :
    f.codec.decode (f.codec.encode (f.get s)) (f.get u) = .ok (f.get t) := by
  induction rest generalizing u with
  | nil => contradiction
  | cons g rest ih =>
    obtain ⟨here, others⟩ := List.forall_mem_cons.mp among
    obtain ⟨apart, pairwise⟩ := List.pairwise_cons.mp independent
    obtain rfl | later := List.mem_cons.mp member
    · obtain ⟨value, decoded, after⟩ := (readEntries_written distinct here written).mp read
      rw [readEntries_frame distinct others (fun g later => (apart g later).2) after, getSet f here, decoded]
    · cases first : g.written s with
      | false =>
        rw [entries_omitted first] at read
        exact ih others pairwise read later
      | true =>
        obtain ⟨value, -, after⟩ := (readEntries_written distinct here first).mp read
        rw [← (apart f later).1 value u]
        exact ih others pairwise after later

theorem Struct.decode_get (struct : Struct σ)
    (read : struct.codec.decode (struct.codec.encode s) prior = .ok t) (member : f ∈ struct.fields)
    (written : f.written s = true) :
    f.codec.decode (f.codec.encode (f.get s)) (f.get prior) = .ok (f.get t) :=
  readEntries_get struct.distinct (fun _ => id) struct.get_set struct.independent read member
    written

end Struct
end Json
end Go
