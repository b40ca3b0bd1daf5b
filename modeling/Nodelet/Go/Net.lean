import Nodelet.Go.Fields
import Nodelet.Go.Strconv
import Mathlib.Data.List.TakeWhile

/-! `net.ParseIP`: dotted decimal numbers without leading zeros, or groups of hexadecimal digits
with at most one ellipsis, which may end in a dotted number. -/
namespace Go.Net

inductive Address where
  | v4 (bytes : List Nat)
  | v6 (bytes : List Nat)
  deriving DecidableEq, Repr

def isHex (c : Char) : Bool := (digitValue c).any (· < 16)

def hexValue (digits : List Char) : Nat :=
    digits.foldl (fun value c => value * 16 + (digitValue c).getD 0) 0

def isOctet (part : List Char) : Bool :=
  part ≠ [] ∧ part.all Char.isDigit ∧ decimalDigits part ≤ 255 ∧
    (part.length = 1 ∨ part.head? ≠ some '0')

def parseIPv4 (s : List Char) : Option (List Nat) :=
  let parts := s.splitOn '.'
  if parts.length = 4 ∧ parts.all isOctet then some (parts.map decimalDigits) else none

/-- The bytes that have been read, where the ellipsis was, and the rest of the text. At most `left`
groups may follow. -/
def groups : Nat → List Nat → Option Nat → List Char → Option (List Nat × Option Nat × List Char)
  | 0, bytes, ellipsis, s => some (bytes, ellipsis, s)
  | left + 1, bytes, ellipsis, s =>
    let digits := s.takeWhile isHex
    let rest := s.dropWhile isHex
    if digits = [] ∨ 0xFFFF < hexValue digits then none
    else if rest.head? = some '.' then
      if ellipsis = none ∧ bytes.length ≠ 12 ∨ 16 < bytes.length + 4 then none
      else (parseIPv4 s).map fun last => (bytes ++ last, ellipsis, [])
    else
      let bytes := bytes ++ [hexValue digits / 256, hexValue digits % 256]
      match rest with
      | [] => some (bytes, ellipsis, [])
      | [_] => none
      | colon :: second :: rest =>
        if colon ≠ ':' then none
        else if second ≠ ':' then groups left bytes ellipsis (second :: rest)
        else if ellipsis ≠ none then none
        else if rest = [] then some (bytes, some bytes.length, [])
        else groups left bytes (some bytes.length) rest

/-- The ellipsis stands for at least one group. -/
def expand (bytes : List Nat) (ellipsis : Option Nat) : Option (List Nat) :=
  if bytes.length < 16 then
    ellipsis.map fun i => bytes.take i ++ List.replicate (16 - bytes.length) 0 ++ bytes.drop i
  else if ellipsis = none then some bytes else none

def parseIPv6 (s : List Char) : Option (List Nat) :=
  if s = [':', ':'] then some (List.replicate 16 0)
  else
    let (ellipsis, s) := if s.take 2 = [':', ':'] then (some 0, s.drop 2) else (none, s)
    match groups 8 [] ellipsis s with
    | some (bytes, ellipsis, []) => expand bytes ellipsis
    | _ => none

/-- The first dot or colon decides. -/
def parseIP (s : List Char) : Option Address :=
  match s.find? fun c => c = '.' ∨ c = ':' with
  | some '.' => (parseIPv4 s).map .v4
  | some _ => (parseIPv6 s).map .v6
  | none => none

example : parseIP "10.0.0.1".toList = some (.v4 [10, 0, 0, 1]) := by decide
example :
  parseIP "fd00::1".toList =
    some (.v6 [0xfd, 0, 0, 0, 0, 0, 0, 0, 0, 0, 0, 0, 0, 0, 0, 1]) := by decide
example : parseIP "::ffff:10.0.0.256".toList = none := by decide
example : parseIP "10.0.0.01".toList = none := by decide

/-- A rune of an address. -/
def addressChar (c : Char) : Bool := isHex c ∨ c = '.' ∨ c = ':'

section Characters
variable {s rest : List Char} {bytes bytes' : List Nat} {ellipsis ellipsis' : Option Nat}
  {left : Nat} {c : Char}

theorem isHex_of_isDigit (digit : c.isDigit = true) : isHex c = true := by
  have upper : c.toNat ≤ 57 := (Char.isDigit_iff_toNat.mp digit).2
  have value : digitValue c = some (c.toNat - 48) := digitValue_of_isDigit digit
  rw [isHex, value, Option.any_some, decide_eq_true_eq]
  omega

theorem addressChar_of_parseIPv4 (parsed : parseIPv4 s = some bytes) :
    ∀ c ∈ s, addressChar c = true := by
  intro c member
  obtain ⟨⟨-, octets⟩, -⟩ := Option.ite_none_right_eq_some.mp parsed
  obtain dot | ⟨part, inside, holds⟩ := mem_splitOnP (· == '.') member
  · have same : c = '.' := eq_of_beq dot
    simp [addressChar, same]
  · have octet := List.all_eq_true.mp octets part inside
    have digits : ∀ c ∈ part, c.isDigit = true := by
      simp only [isOctet, decide_eq_true_eq] at octet
      exact List.all_eq_true.mp octet.2.1
    simp [addressChar, isHex_of_isDigit (digits c holds)]

theorem mem_takeWhile_or_dropWhile (member : c ∈ s) : isHex c = true ∨ c ∈ s.dropWhile isHex := by
  rw [← List.takeWhile_append_dropWhile (p := isHex) (l := s)] at member
  obtain digit | later := List.mem_append.mp member
  · exact .inl (List.mem_takeWhile_imp digit)
  · exact .inr later

/-- What has been read are runes of an address. -/
theorem addressChar_of_groups
    (parsed : groups left bytes ellipsis s = some (bytes', ellipsis', rest)) :
    ∀ c ∈ s, addressChar c = true ∨ c ∈ rest := by
  induction left generalizing bytes ellipsis s with
  | zero =>
    cases parsed
    exact fun c member => .inr member
  | succ left ih =>
    have colon : addressChar ':' = true := by decide
    unfold groups at parsed
    dsimp only at parsed
    split at parsed
    · contradiction
    split at parsed
    · obtain ⟨-, parsed⟩ := Option.ite_none_left_eq_some.mp parsed
      obtain ⟨last, parsed, -⟩ := Option.map_eq_some_iff.mp parsed
      exact fun c member => .inl (addressChar_of_parseIPv4 parsed c member)
    intro c member
    obtain digit | later := mem_takeWhile_or_dropWhile member
    · exact .inl (by simp [addressChar, digit])
    split at parsed
    · rename_i ended
      rw [ended] at later
      contradiction
    · contradiction
    · rename_i first second tail split
      rw [split] at later
      obtain ⟨firstColon, following⟩ := Option.ite_none_left_eq_some.mp parsed
      obtain rfl | later := List.mem_cons.mp later
      · exact .inl (not_not.mp firstColon ▸ colon)
      split at following
      · exact ih following c later
      · rename_i secondColon
        obtain ⟨-, following⟩ := Option.ite_none_left_eq_some.mp following
        obtain rfl | later := List.mem_cons.mp later
        · exact .inl (not_not.mp secondColon ▸ colon)
        split at following
        · rename_i ended
          rw [ended] at later
          contradiction
        · exact ih following c later

theorem addressChar_of_parseIPv6 (parsed : parseIPv6 s = some bytes) :
    ∀ c ∈ s, addressChar c = true := by
  have colon : addressChar ':' = true := by decide
  intro c member
  unfold parseIPv6 at parsed
  split at parsed
  · rename_i only
    simp [only] at member
    exact member ▸ colon
  · by_cases leading : s.take 2 = [':', ':']
    · rw [if_pos leading] at parsed
      dsimp only at parsed
      split at parsed
      · rename_i read
        rw [← List.take_append_drop 2 s, leading] at member
        obtain begins | later := List.mem_append.mp member
        · exact (by simpa using begins : c = ':') ▸ colon
        · exact (addressChar_of_groups read c later).resolve_right List.not_mem_nil
      · contradiction
    · rw [if_neg leading] at parsed
      dsimp only at parsed
      split at parsed
      · rename_i read
        exact (addressChar_of_groups read c member).resolve_right List.not_mem_nil
      · contradiction

theorem addressChar_of_parseIP (parsed : parseIP s = some address) :
    s ≠ [] ∧ ∀ c ∈ s, addressChar c = true := by
  unfold parseIP at parsed
  constructor
  · rintro rfl
    contradiction
  · split at parsed
    · obtain ⟨bytes, parsed, -⟩ := Option.map_eq_some_iff.mp parsed
      exact addressChar_of_parseIPv4 parsed
    · obtain ⟨bytes, parsed, -⟩ := Option.map_eq_some_iff.mp parsed
      exact addressChar_of_parseIPv6 parsed
    · contradiction

end Characters

end Go.Net
