import Mathlib.Algebra.Group.Int.Defs
import Mathlib.Algebra.Group.Nat.Defs
import Mathlib.Tactic.Common

/-! Conversions between numbers and text of the Go standard library. -/
namespace Go

def decimalDigits (digits : List Char) : Nat :=
  digits.foldl (fun value digit => value * 10 + (digit.toNat - '0'.toNat)) 0

def Int64 (value : Int) : Prop := -9223372036854775808 ≤ value ∧ value ≤ 9223372036854775807

instance (value : Int) : Decidable (Int64 value) :=
  inferInstanceAs (Decidable (-9223372036854775808 ≤ value ∧ value ≤ 9223372036854775807))

/-- The result of an operation on `int64`s, which wraps around. -/
def wrapInt64 (value : Int) : Int := value.bmod 18446744073709551616

theorem wrapInt64_of_int64 {value : Int} (inRange : Int64 value) : wrapInt64 value = value := by
  obtain ⟨least, most⟩ := inRange
  exact Int.bmod_eq_of_le (by omega) (by omega)

/-- `strconv.Atoi` on a 64-bit platform; `none` is a syntax or range error. -/
def atoi (text : String) : Option Int :=
  let (negative, digits) :=
    match text.toList with
    | '-' :: rest => (true, rest)
    | '+' :: rest => (false, rest)
    | rest => (false, rest)
  if digits.isEmpty || !digits.all Char.isDigit then none
  else
    let value : Int := if negative then -(decimalDigits digits : Int) else decimalDigits digits
    if -9223372036854775808 ≤ value ∧ value ≤ 9223372036854775807 then some value else none

/-- `strconv.ParseBool`. -/
def parseBool (text : String) : Option Bool :=
  if text ∈ ["1", "t", "T", "true", "TRUE", "True"] then some true
  else if text ∈ ["0", "f", "F", "false", "FALSE", "False"] then some false
  else none

def digitValue (c : Char) : Option Nat :=
  if c.isDigit then some (c.toNat - '0'.toNat)
  else if c.isAlpha then some (c.toLower.toNat - 'a'.toNat + 10)
  else none

/-- The digits in this base; underscores are skipped. -/
def parseDigits (base : Nat) : List Char → Nat → Option Nat
  | [], value => some value
  | c :: rest, value =>
    if c = '_' then parseDigits base rest value
    else do
      let digit ← digitValue c
      if digit < base then parseDigits base rest (value * base + digit) else none

/-- The base that the text itself names, and what is left. -/
def splitBase : List Char → Nat × List Char
  | '0' :: mark :: c :: rest =>
    if mark.toLower = 'b' then (2, c :: rest)
    else if mark.toLower = 'o' then (8, c :: rest)
    else if mark.toLower = 'x' then (16, c :: rest)
    else (8, mark :: c :: rest)
  | '0' :: rest => (8, rest)
  | digits => (10, digits)

/-- Each underscore stands between two digits; `last` tells whether the last character was a digit,
and whether it was an underscore. -/
def underscoresBetween (hex : Bool) : List Char → Bool × Bool → Bool
  | [], (_, underscore) => !underscore
  | c :: rest, (digit, underscore) =>
    if c.isDigit || (hex && 'a' ≤ c.toLower && c.toLower ≤ 'f') then underscoresBetween hex rest
      (true, false)
    else if c = '_' then digit && underscoresBetween hex rest (false, true)
    else !underscore && underscoresBetween hex rest (false, false)

/-- The mark of a base counts as a digit. -/
def underscoreOK : List Char → Bool
  | '0' :: mark :: rest =>
    if mark.toLower ∈ ['b', 'o', 'x'] then underscoresBetween (mark.toLower = 'x') rest
      (true, false)
    else underscoresBetween false ('0' :: mark :: rest) (false, false)
  | digits => underscoresBetween false digits (false, false)

def parseUint (digits : List Char) : Option Nat := do
  if digits.isEmpty then none
  let (base, rest) := splitBase digits
  let value ← parseDigits base rest 0
  if '_' ∈ rest ∧ !underscoreOK digits then none
  return value

def splitSign : List Char → Bool × List Char
  | '-' :: rest => (true, rest)
  | '+' :: rest => (false, rest)
  | rest => (false, rest)

/-- `strconv.ParseInt` with base 0; `none` is a syntax or range error. -/
def parseInt (text : String) (bits : Nat) : Option Int := do
  let (negative, digits) := splitSign text.toList
  let value ← parseUint digits
  if negative then if value ≤ 2 ^ (bits - 1) then return -(value : Int) else none
  else if value < 2 ^ (bits - 1) then return (value : Int) else none

section Decimal
variable {n : Nat}

theorem digitValue_of_isDigit {c : Char} (digit : c.isDigit) :
    digitValue c = some (c.toNat - '0'.toNat) := if_pos digit

theorem parseDigits_eq (digits : List Char) (decimal : ∀ c ∈ digits, c.isDigit) (value : Nat) :
    parseDigits 10 digits value = some (Nat.ofDigitChars 10 digits value) := by
  induction digits generalizing value with
  | nil => rfl
  | cons c rest ih =>
    obtain ⟨digit, decimal⟩ := List.forall_mem_cons.mp decimal
    have below : c.toNat - '0'.toNat < 10 := by
      have upper : c.toNat ≤ 57 := (Char.isDigit_iff_toNat.mp digit).2
      exact Nat.lt_of_le_of_lt (Nat.sub_le_sub_right upper _) (by decide)
    have other : c ≠ '_' := by
      rintro rfl
      contradiction
    rw [parseDigits, if_neg other, digitValue_of_isDigit digit, Nat.ofDigitChars_cons]
    simp only [Option.bind_eq_bind, Option.bind_some, if_pos below]
    rw [ih decimal, Nat.mul_comm]

theorem toDigits_ne_zero_cons (positive : 0 < n) (rest : List Char) :
    Nat.toDigits 10 n ≠ '0' :: rest := by
  induction n using Nat.strongRecOn generalizing rest with
  | ind n ih =>
    by_cases small : n < 10
    · have first : ∀ n < 10, 0 < n → Nat.digitChar n ≠ '0' := by decide
      rw [Nat.toDigits_of_lt_base small]
      exact fun same => first n small positive (List.cons.inj same).1
    · rw [Nat.toDigits_of_base_le (by decide) (Nat.not_lt.mp small)]
      intro same
      obtain ⟨nil, -⟩ | ⟨more, first, -⟩ := List.append_eq_cons_iff.mp same
      · exact Nat.toDigits_ne_nil nil
      · exact ih (n / 10) (by omega) (by omega) more first

theorem splitBase_of_ne (digits : List Char) (other : ∀ rest, digits ≠ '0' :: rest) :
    splitBase digits = (10, digits) := by
  unfold splitBase
  split
  · exact absurd rfl (other _)
  · exact absurd rfl (other _)
  · rfl

theorem parseUint_toDigits (n : Nat) : parseUint (Nat.toDigits 10 n) = some n := by
  obtain rfl | positive := Nat.eq_zero_or_pos n
  · decide
  · have digits : ∀ c ∈ Nat.toDigits 10 n, c.isDigit := fun c member =>
      Nat.isDigit_of_mem_toDigits (by decide) (by decide) member
    have plain : '_' ∉ Nat.toDigits 10 n := Nat.underscore_not_in_toDigits
    have base := splitBase_of_ne _ fun rest => toDigits_ne_zero_cons positive rest
    simp [parseUint, base, parseDigits_eq _ digits, plain, Nat.ofDigitChars_ten_toDigits,
      Nat.toDigits_ne_nil]

theorem splitSign_of_isDigit (digits : List Char) (decimal : ∀ c ∈ digits.head?, c.isDigit) :
    splitSign digits = (false, digits) := by
  unfold splitSign
  split
  · exact absurd (decimal '-' rfl) (by decide)
  · exact absurd (decimal '+' rfl) (by decide)
  · rfl

variable {bits : Nat} {text : String} {first second : Char}

theorem parseInt_natural (digits : text.toList = Nat.toDigits 10 n) (small : n < 2 ^ (bits - 1)) :
    parseInt text bits = some (n : Int) := by
  have sign : splitSign (Nat.toDigits 10 n) = (false, Nat.toDigits 10 n) :=
    splitSign_of_isDigit _ fun c first =>
      Nat.isDigit_of_mem_toDigits (by decide) (by decide) (List.mem_of_mem_head? first)
  rw [parseInt, digits, sign]
  simp [parseUint_toDigits, small]

theorem parseInt_negative (digits : text.toList = '-' :: Nat.toDigits 10 n)
    (small : n ≤ 2 ^ (bits - 1)) : parseInt text bits = some (-(n : Int)) := by
  rw [parseInt, digits, splitSign]
  simp [parseUint_toDigits, small]

theorem toList_toString_nat (n : Nat) : (toString n).toList = Nat.toDigits 10 n := by
  rw [Nat.toString_eq_ofList_toDigits, String.toList_ofList]

theorem toList_toString_negSucc (n : Nat) :
    (toString (Int.negSucc n)).toList = '-' :: Nat.toDigits 10 (n + 1) := by
  rw [show toString (Int.negSucc n) = "-" ++ toString (n + 1) from rfl, String.toList_append,
    toList_toString_nat]
  rfl

/-- An integer in range is read back. -/
theorem parseInt_toString {v : Int} (least : -((2 ^ (bits - 1) : Nat) : Int) ≤ v)
    (small : v < (2 ^ (bits - 1) : Nat)) : parseInt (toString v) bits = some v := by
  cases v with
  | ofNat n => exact parseInt_natural (toList_toString_nat n) (Int.ofNat_lt.mp small)
  | negSucc n => exact parseInt_negative (toList_toString_negSucc n) (by omega)

theorem int64_of_atoi {v : Int} (read : atoi text = some v) : Int64 v := by
  have checked {value : Int}
    (read : (if -9223372036854775808 ≤ value ∧ value ≤ 9223372036854775807 then some value
      else none) = some v) : Int64 v := by
    obtain ⟨bounds, same⟩ := Option.ite_none_right_eq_some.mp read
    exact Option.some.inj same ▸ bounds
  unfold atoi at read
  dsimp only at read
  split at read
  all_goals exact checked (Option.ite_none_left_eq_some.mp read).2

theorem decimalDigits_toDigits (n : Nat) : decimalDigits (Nat.toDigits 10 n) = n := by
  have fold (digits : List Char) :
    ∀ value, digits.foldl (fun value digit => value * 10 + (digit.toNat - '0'.toNat)) value =
      Nat.ofDigitChars 10 digits value := by
    induction digits with
    | nil => intro value; rfl
    | cons c rest ih =>
      intro value
      rw [List.foldl_cons, ih, Nat.ofDigitChars_cons, Nat.mul_comm]
  rw [decimalDigits, fold, Nat.ofDigitChars_ten_toDigits]

theorem atoi_toString {v : Int} (holds : Int64 v) : atoi (toString v) = some v := by
  have digit {n : Nat} {c : Char} (member : c ∈ Nat.toDigits 10 n) : c.isDigit :=
    Nat.isDigit_of_mem_toDigits (by decide) (by decide) member
  have decimal (n : Nat) :
      ((Nat.toDigits 10 n).isEmpty || !(Nat.toDigits 10 n).all Char.isDigit) = false := by
    have all : (Nat.toDigits 10 n).all Char.isDigit = true := List.all_eq_true.mpr fun _ member =>
      digit member
    simp [all, Nat.toDigits_ne_nil]
  cases v with
  | ofNat n =>
    have unsigned {c : Char} {rest : List Char} (sign : c.isDigit = false) : Nat.toDigits 10 n ≠ c :: rest := by
      intro first
      have here : c.isDigit = true := digit (first ▸ List.mem_cons_self)
      rw [sign] at here
      contradiction
    rw [atoi, show (toString (Int.ofNat n)).toList = Nat.toDigits 10 n from toList_toString_nat n]
    dsimp only
    split
    · exact absurd ‹_› (unsigned rfl)
    · exact absurd ‹_› (unsigned rfl)
    · simp only [decimal, decimalDigits_toDigits, Bool.false_eq_true, if_false]
      exact if_pos holds
  | negSucc n =>
    rw [atoi, toList_toString_negSucc]
    simp only [decimal, decimalDigits_toDigits, Bool.false_eq_true, if_false, if_true]
    exact if_pos holds

theorem toString_int_ne_empty (v : Int) : toString v ≠ "" := by
  intro empty
  have wide : v.natAbs < 2 ^ (v.natAbs + 1 - 1) := Nat.lt_two_pow_self
  have read : parseInt (toString v) (v.natAbs + 1) = some v :=
    parseInt_toString (by omega) (by omega)
  rw [empty] at read
  contradiction

/-- Neither a decimal point nor an exponent is part of an integer. -/
theorem parseUint_float (float : second = '.' ∨ second = 'e') (rest : List Char) :
    parseUint (first :: second :: rest) = none := by
  have invalid (base : Nat) (small : base ≤ 10) (value : Nat) :
      parseDigits base (second :: rest) value = none := by
    obtain rfl | rfl := float
    · rfl
    · exact if_neg (show ¬ 14 < base by omega)
  by_cases zero : first = '0'
  · subst zero
    have base : splitBase ('0' :: second :: rest) = (8, second :: rest) := by
      obtain rfl | rfl := float <;> cases rest <;> rfl
    simp [parseUint, base, invalid]
  · have base : splitBase (first :: second :: rest) = (10, first :: second :: rest) :=
      splitBase_of_ne _ fun rest same => zero (List.cons.inj same).1
    have none : parseDigits 10 (first :: second :: rest) 0 = none := by
      rw [parseDigits]
      split
      · exact invalid 10 (Nat.le_refl _) 0
      · cases digitValue first with
        | none => rfl
        | some digit => simp [invalid]
    simp [parseUint, base, none]

theorem parseInt_float {sign : List Char} {rest : List Char}
    (digit : first.isDigit) (float : second = '.' ∨ second = 'e') (signed : sign = [] ∨
      sign = ['-'])
    (same : text.toList = sign ++ first :: second :: rest) : parseInt text bits = none := by
  have split : (splitSign text.toList).2 = first :: second :: rest := by
    obtain rfl | rfl := signed
    · rw [same, List.nil_append, splitSign_of_isDigit _ (by simpa using digit)]
    · rw [same]
      rfl
  simp [parseInt, split, parseUint_float float]

end Decimal
end Go
