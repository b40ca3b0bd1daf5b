import Nodelet.Go.Program
import Nodelet.Go.Strconv

/-! Settings in layers, as the viper package keeps them: variables of the environment before files,
and files before defaults; and how a setting is decoded into a field. Keys are compared without
regard to case, so one spelling of each is enough. -/
namespace Go.Viper

/-- A value of a YAML file, by its type in Go. No field can hold a collection. -/
inductive Raw
  | null
  | string (s : String)
  | int (i : Int)
  | uint64 (n : Nat)
  | float (q : Rat)
  | bool (b : Bool)
  | collection
  deriving DecidableEq

inductive RawType
  | string
  | int
  | uint64
  | float
  | bool
  | collection
  deriving DecidableEq

def Raw.type : Raw → Option RawType
  | .null => none
  | .string _ => some .string
  | .int _ => some .int
  | .uint64 _ => some .uint64
  | .float _ => some .float
  | .bool _ => some .bool
  | .collection => some .collection

/-- What a file sets. -/
abbrev Contents := String → Option Raw

/-- A value of another type than the one before it is dropped. -/
def mergeValue (old : Option Raw) (new : Raw) : Raw :=
  match old with
  | none => new
  | some old => if old.type ≠ none ∧ new.type ≠ old.type then old else new

def mergeMaps (src tgt : Contents) : Contents := fun key =>
  match src key with
  | none => tgt key
  | some new => some (mergeValue (tgt key) new)

end Viper

structure Viper where
  env : List String := []
  config : Viper.Contents := fun _ => none
  defaults : String → Option String := fun _ => none

namespace Viper

def mergeConfig (v : Viper) (cfg : Contents) : Viper := { v with config := mergeMaps cfg v.config }

def bindEnv (v : Viper) (key : String) : Viper := { v with env := v.env ++ [key] }

/-- A variable that is empty counts as unset, and so does a null in a file. -/
def find (v : Viper) (environ : String → Option String) (key : String) : Option Raw :=
  (((if key ∈ v.env then environ key else none).filter (· ≠ "")).map Raw.string).or
    (((v.config key).filter (· ≠ .null)).or ((v.defaults key).map Raw.string))

section Decoding

inductive Kind
  | string
  | int
  | uint
  | bool
  | float
  deriving DecidableEq

/-- A float is finite here, and kept as the number it is. -/
abbrev Kind.Value : Kind → Type
  | .string => String
  | .int => Int
  | .uint => Nat
  | .bool => Bool
  | .float => Rat

instance Kind.decidableEqValue : (kind : Kind) → DecidableEq kind.Value
  | .string => inferInstanceAs (DecidableEq String)
  | .int => inferInstanceAs (DecidableEq Int)
  | .uint => inferInstanceAs (DecidableEq Nat)
  | .bool => inferInstanceAs (DecidableEq Bool)
  | .float => inferInstanceAs (DecidableEq Rat)

def Kind.zero : (kind : Kind) → kind.Value
  | .string => ""
  | .int => 0
  | .uint => 0
  | .bool => false
  | .float => 0

/-- The conversions from and to floats. -/
structure Floats where
  format : Rat → String
  sprint : Rat → String
  parse : String → Option Rat
  ofInt : Int → Rat
  toInt : Rat → Int
  toUint : Rat → Nat
  parse_sprint (n : Nat) (small : n < 2 ^ 53) : parse (sprint n) = some (n : Rat)
  sprint_ne_empty (q : Rat) : sprint q ≠ ""

/-- `%v`. -/
def Kind.sprint (floats : Floats) : (kind : Kind) → kind.Value → String
  | .string, s => s
  | .int, i => toString i
  | .uint, n => toString n
  | .bool, b => toString b
  | .float, q => floats.sprint q

def orZero (text : String) : String := if text = "" then "0" else text

def parsed {α : Type} (name type : String) : Option α → Except Go.Error α
  | some value => .ok value
  | none => .error ("cannot parse '" ++ name ++ "' as " ++ type)

/-- The weak decoding of mapstructure into a field with this name. -/
def Kind.decode (floats : Floats) (name : String) : (kind : Kind) → Raw → Except Go.Error kind.Value
  | .string, .string s => .ok s
  | .string, .bool b => .ok (if b then "1" else "0")
  | .string, .int i => .ok (toString i)
  | .string, .uint64 n => .ok (toString n)
  | .string, .float q => .ok (floats.format q)
  | .int, .int i => .ok i
  | .int, .uint64 n => .ok ((n : Int).bmod (2 ^ 64))
  | .int, .float q => .ok (floats.toInt q)
  | .int, .bool b => .ok (if b then 1 else 0)
  | .int, .string s => parsed name "int" (parseInt (orZero s) 64)
  | .uint, .int i => .ok (i % 2 ^ 64).toNat
  | .uint, .uint64 n => .ok n
  | .uint, .float q => .ok (floats.toUint q)
  | .uint, .bool b => .ok (if b then 1 else 0)
  | .uint, .string s => parsed name "uint" ((parseUint (orZero s).toList).filter (· < 2 ^ 64))
  | .bool, .bool b => .ok b
  | .bool, .int i => .ok (i ≠ 0)
  | .bool, .uint64 n => .ok (n ≠ 0)
  | .bool, .float q => .ok (q ≠ 0)
  | .bool, .string s => if s = "" then .ok false else parsed name "bool" (parseBool s)
  | .float, .int i => .ok (floats.ofInt i)
  | .float, .uint64 n => .ok (floats.ofInt n)
  | .float, .float q => .ok q
  | .float, .bool b => .ok (if b then 1 else 0)
  | .float, .string s => parsed name "float" (floats.parse (orZero s))
  | _, .null | _, .collection => .error ("'" ++ name ++ "' got unconvertible type")

/-- The values that survive being written as text. -/
def Kind.Plain : (kind : Kind) → kind.Value → Prop
  | .int, i => i.natAbs < 2 ^ 63
  | .uint, n => n < 2 ^ 64
  | .float, q => q.den = 1 ∧ 0 ≤ q.num ∧ q.num < 2 ^ 53
  | .string, _ | .bool, _ => True

instance Kind.decidablePlain : (kind : Kind) → (value : kind.Value) → Decidable (kind.Plain value)
  | .int, i => inferInstanceAs (Decidable (i.natAbs < 2 ^ 63))
  | .uint, n => inferInstanceAs (Decidable (n < 2 ^ 64))
  | .float, q => inferInstanceAs (Decidable (q.den = 1 ∧ 0 ≤ q.num ∧ q.num < 2 ^ 53))
  | .string, _ | .bool, _ => inferInstanceAs (Decidable True)

section Text
variable (floats : Floats) (name : String)

theorem decode_toString_int {i : Int} (least : -2 ^ 63 ≤ i) (small : i < 2 ^ 63) :
    Kind.decode floats name .int (.string (toString i)) = .ok i := by
  rw [Kind.decode, orZero, if_neg (toString_int_ne_empty i),
    parseInt_toString (by omega) (by omega), parsed]

theorem decode_toString_nat {n : Nat} (small : n < 2 ^ 64) :
    Kind.decode floats name .uint (.string (toString n)) = .ok n := by
  have nonempty : toString n ≠ "" := by
    intro empty
    have digits := congrArg String.toList empty
    rw [toList_toString_nat] at digits
    exact Nat.toDigits_ne_nil digits
  rw [Kind.decode, orZero, if_neg nonempty, toList_toString_nat, parseUint_toDigits,
    Option.filter_some, if_pos (decide_eq_true small), parsed]

/-- The values of the types of Go. That `%v` of a float is read back is assumed. -/
def Kind.Fits : (kind : Kind) → kind.Value → Prop
  | .int, i => -2 ^ 63 ≤ i ∧ i < 2 ^ 63
  | .uint, n => n < 2 ^ 64
  | .float, q => floats.parse (floats.sprint q) = some q
  | .string, _ | .bool, _ => True

theorem Kind.Plain.fits {kind : Kind} {value : kind.Value} (plain : kind.Plain value) :
    kind.Fits floats value := by
  cases kind with
  | string | bool => trivial
  | int =>
    have within (i : Int) (small : i.natAbs < 2 ^ 63) : -2 ^ 63 ≤ i ∧ i < 2 ^ 63 := by omega
    exact within value plain
  | uint => exact plain
  | float =>
    obtain ⟨whole, positive, small⟩ := plain
    have natural : ((value.num.toNat : Nat) : Rat) = value := by
      refine Rat.ext ?_ whole.symm
      simp [Int.toNat_of_nonneg positive]
    have read := floats.parse_sprint value.num.toNat (by omega)
    rwa [natural] at read

theorem Kind.decode_sprint (kind : Kind) (value : kind.Value) (fits : kind.Fits floats value) :
    kind.decode floats name (.string (kind.sprint floats value)) = .ok value := by
  cases kind with
  | string => rfl
  | bool => cases value <;> rfl
  | int => exact decode_toString_int floats name fits.1 fits.2
  | uint => exact decode_toString_nat floats name fits
  | float =>
    rw [Kind.decode, orZero, Kind.sprint, if_neg (floats.sprint_ne_empty value), fits, parsed]

end Text
end Decoding

section Merging

/-- What the values of a key, file by file, leave: the last one that has the type of the first. -/
def settled (values : List Raw) : Option Raw :=
  match values.find? (· ≠ .null) with
  | none => none
  | some first => (values.filter (·.type = first.type)).getLast?

theorem foldl_mergeMaps (files : List Contents) (tgt : Contents) (key : String) :
    files.foldl (fun tgt src => mergeMaps src tgt) tgt key =
      (files.filterMap (· key)).foldl (fun old new => some (mergeValue old new)) (tgt key) := by
  induction files generalizing tgt with
  | nil => rfl
  | cons file files ih =>
    rw [List.foldl_cons, ih, mergeMaps, List.filterMap_cons]
    cases file key with
    | none => rfl
    | some new => rfl

variable {raw : Raw}

theorem Raw.type_eq_none : raw.type = none ↔ raw = .null := by
  cases raw <;> simp [Raw.type]

/-- After the first value only values of its type are taken. -/
theorem foldl_mergeValue {old : Raw} (present : old ≠ .null) (values : List Raw) :
    values.foldl (fun old new => some (mergeValue old new)) (some old) =
      ((old :: values).filter (·.type = old.type)).getLast? := by
  induction values generalizing old with
  | nil => simp
  | cons new values ih =>
    have typed : old.type ≠ none := Raw.type_eq_none.not.mpr present
    rw [List.foldl_cons]
    by_cases same : new.type = old.type
    · have present : new ≠ .null := Raw.type_eq_none.not.mp (same ▸ typed)
      have taken : mergeValue (some old) new = new := if_neg fun differ => differ.2 same
      rw [taken, ih present, same]
      simp [same, List.getLast?_cons_cons]
    · have dropped : mergeValue (some old) new = old := if_pos ⟨typed, same⟩
      rw [dropped, ih present]
      simp [same]

theorem settled_cons_null (values : List Raw) : settled (.null :: values) = settled values := by
  unfold settled
  rw [List.find?_cons_of_neg (by simp)]
  cases found : values.find? (· ≠ .null) with
  | none => rfl
  | some first =>
    have typed : first.type ≠ none :=
      Raw.type_eq_none.not.mpr (by simpa using List.find?_some found)
    have other : Raw.null.type ≠ first.type := typed.symm
    exact congrArg List.getLast? (List.filter_cons_of_neg (by simpa using other))

theorem settled_cons {first : Raw} (present : first ≠ .null) (values : List Raw) :
    settled (first :: values) = ((first :: values).filter (·.type = first.type)).getLast? := by
  rw [settled, List.find?_cons_of_pos (by simpa using present)]

theorem settled_present {values : List Raw} (kept : settled values = some raw) : raw ≠ .null := by
  unfold settled at kept
  split at kept
  · contradiction
  · rename_i first found
    have typed : first.type ≠ none :=
      Raw.type_eq_none.not.mpr (by simpa using List.find?_some found)
    have same :
      raw.type = first.type := by simpa using (List.mem_filter.mp (List.mem_of_getLast? kept)).2
    exact Raw.type_eq_none.not.mp (same ▸ typed)

/-- Any value but null settles its key. -/
theorem exists_settled {values : List Raw} (member : raw ∈ values) (present : raw ≠ .null) :
    ∃ kept, settled values = some kept := by
  have some : (values.find? (· ≠ .null)).isSome :=
    List.find?_isSome.mpr ⟨raw, member, by simpa using present⟩
  obtain ⟨first, found⟩ := Option.isSome_iff_exists.mp some
  have typed : first ∈ values.filter (·.type = first.type) :=
    List.mem_filter.mpr ⟨List.mem_of_find?_eq_some found, by simp⟩
  rw [settled, found]
  exact ⟨_, List.getLast?_eq_some_getLast (List.ne_nil_of_mem typed)⟩

theorem filter_foldl_mergeValue (values : List Raw) {old : Option Raw}
    (blank : old = none ∨ old = some .null) :
    (values.foldl (fun old new => some (mergeValue old new)) old).filter (· ≠ .null) =
      settled values := by
  induction values generalizing old with
  | nil => rcases blank with rfl | rfl <;> rfl
  | cons new values ih =>
    have taken : mergeValue old new = new := by rcases blank with rfl | rfl <;> rfl
    rw [List.foldl_cons, taken]
    by_cases null : new = .null
    · subst null
      rw [ih (.inr rfl), settled_cons_null]
    · rw [foldl_mergeValue null, ← settled_cons null]
      cases kept : settled (new :: values) with
      | none => rfl
      | some raw => simp [settled_present kept]

end Merging
end Viper
end Go
