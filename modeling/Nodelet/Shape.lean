import Nodelet.Go.Program
import Nodelet.Go.Strconv
import Nodelet.KubeEnv
import Mathlib.Data.List.TakeWhile

/-! Reading structures back from the mapping behind `kube.env`. The decoder goes by the text of each
tagged field. A field without a tag goes by its name, and no text can be read into it. -/
namespace Nodelet
open Sunpike

section Leaves

mutual

/-- The tagged fields with their texts. -/
def fieldLeaves : Field → List (String × String)
  | .string tag value => [(tag, value)]
  | .int32 tag value => [(tag, formatFloat value.toInt)]
  | .bool tag value => [(tag, toString value)]
  | .struct fields => structLeaves fields
  | .map => []

def structLeaves : List Field → List (String × String)
  | [] => []
  | field :: rest => fieldLeaves field ++ structLeaves rest

end

mutual

def fieldInts : Field → List Int32
  | .int32 _ value => [value]
  | .struct fields => structInts fields
  | _ => []

def structInts : List Field → List Int32
  | [] => []
  | field :: rest => fieldInts field ++ structInts rest

end

theorem structLeaves_append (first second : List Field) :
    structLeaves (first ++ second) = structLeaves first ++ structLeaves second := by
  induction first with
  | nil => rfl
  | cons field rest ih => simp [structLeaves, ih]

theorem structInts_append (first second : List Field) :
    structInts (first ++ second) = structInts first ++ structInts second := by
  induction first with
  | nil => rfl
  | cons field rest ih => simp [structInts, ih]

end Leaves

/-- The text that is found for a field. -/
abbrev RawMapVal := String → Option String

/-- The text of each tagged field is the one that is written for it. -/
def Agrees (raw : RawMapVal) (fields : List Field) : Prop :=
    ∀ leaf ∈ structLeaves fields, raw leaf.1 = some leaf.2

/-- The integers that are written without an exponent. -/
def Plain (fields : List Field) : Prop := ∀ value ∈ structInts fields, value.toInt.natAbs < 10 ^ 6

theorem agrees_append (raw : RawMapVal) (first second : List Field) :
    Agrees raw (first ++ second) ↔ Agrees raw first ∧ Agrees raw second := by
  simp only [Agrees, structLeaves_append, List.forall_mem_append]

theorem plain_append (first second : List Field) :
    Plain (first ++ second) ↔ Plain first ∧ Plain second := by
  simp only [Plain, structInts_append, List.forall_mem_append]

/-- What the decoder does with the fields of a type. It first reads what it finds, and then enters
the structures. Where the texts are those that are written for a value, it fails unless all integers
are plain and nothing is found for a field without a tag; otherwise it restores the value. -/
structure Shape (α : Type) where
  zero : α
  /-- The names of the fields without a tag. -/
  names : List String
  fields : α → List Field
  weak : RawMapVal → α → Except Go.Error α
  nested : RawMapVal → α → Except Go.Error α
  succeeds : ∀ raw value, Agrees raw (fields value) →
    ((∃ result, (weak raw zero >>= nested raw) = .ok result) ↔ Plain (fields value) ∧
      ∀ name ∈ names, raw name = none)
  restores : ∀ raw value result, Agrees raw (fields value) →
    (weak raw zero >>= nested raw) = .ok result → fields result = fields value

namespace Shape
variable {α β ε : Type}

/-- `decodeToNestedStruct`. Of several errors the first one is kept. -/
def decode (shape : Shape α) (raw : RawMapVal) : Except Go.Error α := do
  shape.nested raw (← (shape.weak raw shape.zero).mapError ("decoding error: " ++ ·))

theorem decode_ok {shape : Shape α} {result : α} :
    shape.decode raw = .ok result ↔
      (shape.weak raw shape.zero >>= shape.nested raw) = .ok result := by
  simp only [decode, Go.bind_eq_ok, Go.mapError_eq_ok]

section Scalars

/-- A field that is read from its text. -/
def scalar (tag : String) (zero : α) (field : α → Field) (text : α → String)
    (read : String → Except Go.Error α)
    (leaves : ∀ value, fieldLeaves (field value) = [(tag, text value)])
    (reads : ∀ value, (∃ result, read (text value) = .ok result) ↔ Plain [field value])
    (back : ∀ value result, read (text value) = .ok result → result = value) : Shape α where
  zero := zero
  names := []
  fields value := [field value]
  weak raw prior :=
    match raw tag with
    | some text => read text
    | none => .ok prior
  nested _ value := .ok value
  succeeds raw value agrees := by
    have found : raw tag = some (text value) :=
      agrees (tag, text value) (by simp [structLeaves, leaves])
    simp [found, Go.bind_eq_ok, reads]
  restores raw value result agrees decoded := by
    have found : raw tag = some (text value) :=
      agrees (tag, text value) (by simp [structLeaves, leaves])
    obtain ⟨_, decoded, ⟨⟩⟩ := Go.bind_eq_ok.mp decoded
    rw [found] at decoded
    rw [back value result decoded]

def string (tag : String) : Shape String :=
  scalar tag "" (.string tag) id .ok (fun _ => rfl) (fun _ => ⟨fun _ => nofun, fun _ => ⟨_, rfl⟩⟩)
    (by rintro _ _ ⟨⟩; rfl)

/-- The empty text is false. -/
def readBool (tag text : String) : Except Go.Error Bool :=
  match Go.parseBool text with
  | some value => .ok value
  | none => if text = "" then .ok false else .error ("cannot parse '" ++ tag ++ "' as bool")

theorem readBool_toString (tag : String) (value : Bool) :
    readBool tag (toString value) = .ok value := by
  cases value <;> rfl

def bool (tag : String) : Shape Bool :=
  scalar tag false (.bool tag) toString (readBool tag) (fun _ => rfl)
    (fun value => ⟨fun _ => nofun, fun _ => ⟨value, readBool_toString tag value⟩⟩)
    (fun value _ read => Except.ok.inj (read.symm.trans (readBool_toString tag value)))

/-- The empty text is zero. -/
def readInt32 (tag text : String) : Except Go.Error Int32 :=
  match Go.parseInt (if text = "" then "0" else text) 32 with
  | some value => .ok (.ofInt value)
  | none => .error ("cannot parse '" ++ tag ++ "' as int")

theorem digits_short_iff {n : Nat} : (toString n).toList.length ≤ 6 ↔ n < 10 ^ 6 := by
  rw [Go.toList_toString_nat]
  exact Nat.length_toDigits_le_iff (by decide) (by decide)

theorem formatFloat_plain {v : Int} (plain : v.natAbs < 10 ^ 6) : formatFloat v = toString v := by
  rw [formatFloat, if_pos (digits_short_iff.mpr plain)]

theorem parseInt_plain {v : Int} (plain : v.natAbs < 10 ^ 6) :
    Go.parseInt (formatFloat v) 32 = some v := by
  rw [formatFloat_plain plain]
  exact Go.parseInt_toString (by omega) (by omega)

theorem formatFloat_ne_empty (v : Int) : formatFloat v ≠ "" := by
  intro empty
  by_cases plain : v.natAbs < 10 ^ 6
  · have parsed := parseInt_plain plain
    rw [empty] at parsed
    contradiction
  · rw [formatFloat, if_neg (mt digits_short_iff.mp plain)] at empty
    simp at empty

/-- What is written for a large number goes on with a point or an exponent after its first digit. -/
theorem parseInt_exponent {v : Int} (large : 10 ^ 6 ≤ v.natAbs) :
    Go.parseInt (formatFloat v) 32 = none := by
  have digits := Go.toList_toString_nat v.natAbs
  have long : ¬ (toString v.natAbs).toList.length ≤ 6 :=
    mt digits_short_iff.mp (Nat.not_lt.mpr large)
  obtain ⟨first, tail, mantissa⟩ : ∃ first tail,
      ((toString v.natAbs).toList.reverse.dropWhile (· = '0')).reverse = first :: tail := by
    refine List.exists_cons_of_ne_nil fun empty => ?_
    rw [digits, List.reverse_eq_nil_iff, List.dropWhile_eq_nil_iff] at empty
    obtain ⟨c, rest, same⟩ :=
      List.exists_cons_of_ne_nil (Nat.toDigits_ne_nil (n := v.natAbs) (b := 10))
    have zero : c = '0' := by simpa using empty c (by simp [same])
    exact Go.toDigits_ne_zero_cons (Nat.lt_of_lt_of_le (by decide) large) rest (zero ▸ same)
  have digit : first.isDigit := by
    have member : first ∈ ((toString v.natAbs).toList.reverse.dropWhile (· = '0')).reverse :=
      mantissa ▸ List.mem_cons_self
    have inside := (List.dropWhile_sublist _).mem (List.mem_reverse.mp member)
    rw [List.mem_reverse, digits] at inside
    exact Nat.isDigit_of_mem_toDigits (by decide) (by decide) inside
  have signed : (if v < 0 then "-" else "").toList = [] ∨ (if v < 0 then "-"
      else "").toList = ['-'] := by
    split
    · exact .inr rfl
    · exact .inl rfl
  cases tail with
  | nil =>
    have text : (formatFloat v).toList = (if v < 0 then "-" else "").toList ++
        first :: 'e' :: ("+0".toList ++ (toString ((toString v.natAbs).toList.length - 1)).toList) := by
      simp only [formatFloat, if_neg long, mantissa]
      simp
    exact Go.parseInt_float digit (.inr rfl) signed text
  | cons second rest =>
    have text : (formatFloat v).toList = (if v < 0 then "-" else "").toList ++
        first :: '.' ::
          (second :: rest ++ "e+0".toList ++
            (toString ((toString v.natAbs).toList.length - 1)).toList) := by
      simp only [formatFloat, if_neg long, mantissa]
      simp
    exact Go.parseInt_float digit (.inl rfl) signed text

theorem readInt32_formatFloat (tag : String) (value : Int32) :
    readInt32 tag (formatFloat value.toInt) =
    if value.toInt.natAbs < 10 ^ 6 then .ok value
      else .error ("cannot parse '" ++ tag ++ "' as int") := by
  rw [readInt32, if_neg (formatFloat_ne_empty _)]
  by_cases plain : value.toInt.natAbs < 10 ^ 6
  · rw [if_pos plain, parseInt_plain plain]
    exact congrArg Except.ok (Int32.ofInt_toInt value)
  · rw [if_neg plain, parseInt_exponent (Nat.not_lt.mp plain)]

def int32 (tag : String) : Shape Int32 :=
  scalar tag 0 (.int32 tag) (fun value => formatFloat value.toInt) (readInt32 tag) (fun _ => rfl)
    (by
      intro value
      simp only [Plain, structInts, fieldInts, List.append_nil, List.forall_mem_singleton]
      rw [readInt32_formatFloat]
      split <;> simp_all)
    (by
      intro value result read
      rw [readInt32_formatFloat] at read
      split at read
      · exact (Except.ok.inj read).symm
      · contradiction)

end Scalars

/-- A field without a tag has no text. -/
def untagged (name : String) (raw : RawMapVal) (prior : α) : Except Go.Error α :=
  match raw name with
  | some _ => .error ("'" ++ name ++ "' expected a map, got 'string'")
  | none => .ok prior

theorem untagged_ok {name : String} {prior result : α} :
    untagged name raw prior = .ok result ↔ raw name = none ∧ prior = result := by
  unfold untagged
  cases raw name <;> simp

/-- A structure is filled on its own. -/
def struct (name : String) (shape : Shape α) : Shape α where
  zero := shape.zero
  names := name :: shape.names
  fields value := [.struct (shape.fields value)]
  weak := untagged name
  nested raw _ := (shape.decode raw).mapError ("error decoding field " ++ name ++ ": " ++ ·)
  succeeds raw value agrees := by
    have inside :
      Agrees raw (shape.fields value) := by simpa [Agrees, structLeaves, fieldLeaves] using agrees
    have plain : Plain [.struct (shape.fields value)] ↔ Plain (shape.fields value) := by
      simp [Plain, structInts, fieldInts]
    rw [plain, List.forall_mem_cons]
    constructor
    · rintro ⟨result, decoded⟩
      obtain ⟨_, free, decoded⟩ := Go.bind_eq_ok.mp decoded
      obtain ⟨plain, others⟩ :=
        (shape.succeeds raw value inside).mp ⟨result, decode_ok.mp (Go.mapError_eq_ok.mp decoded)⟩
      exact ⟨plain, (untagged_ok.mp free).1, others⟩
    · rintro ⟨plain, free, others⟩
      obtain ⟨result, decoded⟩ := (shape.succeeds raw value inside).mpr ⟨plain, others⟩
      exact ⟨result,
        Go.bind_eq_ok.mpr
          ⟨_, untagged_ok.mpr ⟨free, rfl⟩, Go.mapError_eq_ok.mpr (decode_ok.mpr decoded)⟩⟩
  restores raw value result agrees decoded := by
    have inside :
      Agrees raw (shape.fields value) := by simpa [Agrees, structLeaves, fieldLeaves] using agrees
    obtain ⟨_, -, decoded⟩ := Go.bind_eq_ok.mp decoded
    rw [shape.restores raw value result inside (decode_ok.mp (Go.mapError_eq_ok.mp decoded))]

/-- `ExtraCfg` is filled in later. -/
def map (name : String) : Shape (Option ExtraCfg) where
  zero := none
  names := [name]
  fields _ := [.map]
  weak := untagged name
  nested _ value := .ok value
  succeeds raw value agrees := by
    simp [Go.bind_eq_ok, untagged_ok, Plain, structInts, fieldInts]
  restores _ _ _ _ _ := rfl

theorem pair_ok {first : Except ε α} {second : Except ε β} {firstNext : α → Except ε α}
    {secondNext : β → Except ε β} {result : α × β} :
    ((do return (← first, ← second)) >>= fun value =>
      do return (← firstNext value.1, ← secondNext value.2)) = .ok result ↔
      (first >>= firstNext) = .ok result.1 ∧ (second >>= secondNext) = .ok result.2 := by
  cases first with
  | error err => exact ⟨nofun, nofun⟩
  | ok a =>
    cases second with
    | error err => exact ⟨nofun, nofun⟩
    | ok b =>
      change (firstNext a >>= fun a => secondNext b >>= fun b => .ok (a, b)) = _ ↔ firstNext a = _ ∧ secondNext b = _
      simp only [Go.bind_eq_ok]
      constructor
      · rintro ⟨a, firstOk, b, secondOk, ⟨⟩⟩
        exact ⟨firstOk, secondOk⟩
      · rintro ⟨firstOk, secondOk⟩
        exact ⟨_, firstOk, _, secondOk, rfl⟩

def both (first : Shape α) (second : Shape β) : Shape (α × β) where
  zero := (first.zero, second.zero)
  names := first.names ++ second.names
  fields value := first.fields value.1 ++ second.fields value.2
  weak raw prior := do return (← first.weak raw prior.1, ← second.weak raw prior.2)
  nested raw value := do return (← first.nested raw value.1, ← second.nested raw value.2)
  succeeds raw value agrees := by
    obtain ⟨one, two⟩ := (agrees_append ..).mp agrees
    simp only [pair_ok, plain_append, List.forall_mem_append]
    constructor
    · rintro ⟨result, firstOk, secondOk⟩
      obtain ⟨plain, free⟩ := (first.succeeds raw value.1 one).mp ⟨_, firstOk⟩
      obtain ⟨alsoPlain, alsoFree⟩ := (second.succeeds raw value.2 two).mp ⟨_, secondOk⟩
      exact ⟨⟨plain, alsoPlain⟩, free, alsoFree⟩
    · rintro ⟨⟨plain, alsoPlain⟩, free, alsoFree⟩
      obtain ⟨a, firstOk⟩ := (first.succeeds raw value.1 one).mpr ⟨plain, free⟩
      obtain ⟨b, secondOk⟩ := (second.succeeds raw value.2 two).mpr ⟨alsoPlain, alsoFree⟩
      exact ⟨(a, b), firstOk, secondOk⟩
  restores raw value result agrees decoded := by
    obtain ⟨one, two⟩ := (agrees_append ..).mp agrees
    obtain ⟨firstOk, secondOk⟩ := pair_ok.mp decoded
    rw [first.restores raw value.1 result.1 one firstOk,
      second.restores raw value.2 result.2 two secondOk]

theorem via_ok {unpack : β → α} {pack : α → β} (inverse : ∀ value, unpack (pack value) = value)
    {first : α → Except ε α} {next : α → Except ε α} {zero : α} {result : β} :
    ((first (unpack (pack zero))).map pack >>= fun value => (next (unpack value)).map pack) =
      .ok result ↔ ∃ inner, (first zero >>= next) = .ok inner ∧ pack inner = result := by
  rw [inverse]
  cases first zero with
  | error err => exact ⟨nofun, nofun⟩
  | ok a =>
    change (next (unpack (pack a))).map pack = .ok result ↔ ∃ inner, next a = .ok inner ∧
      pack inner = result
    rw [inverse, Go.map_eq_ok]

/-- The fields of a structure, one after the other. -/
def via (shape : Shape α) (unpack : β → α) (pack : α → β)
    (inverse : ∀ value, unpack (pack value) = value) : Shape β where
  zero := pack shape.zero
  names := shape.names
  fields value := shape.fields (unpack value)
  weak raw prior := (shape.weak raw (unpack prior)).map pack
  nested raw value := (shape.nested raw (unpack value)).map pack
  succeeds raw value agrees := by
    rw [← shape.succeeds raw (unpack value) agrees]
    simp only [via_ok inverse]
    exact ⟨fun ⟨_, result, decoded, _⟩ => ⟨result, decoded⟩, fun ⟨result, decoded⟩ =>
      ⟨_, result, decoded, rfl⟩⟩
  restores raw value result agrees decoded := by
    obtain ⟨inner, inside, rfl⟩ := (via_ok inverse).mp decoded
    rw [inverse, shape.restores raw (unpack value) inner agrees inside]

end Shape

end Nodelet
