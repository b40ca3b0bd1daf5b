import Nodelet.Go.Program
import Mathlib.Algebra.Group.Nat.Defs
import Mathlib.Data.List.Nodup

/-! The base64 encodings. Line ends are skipped wherever they stand, and an encoding without a
padding character takes a last quantum of two or three digits as it is. The bits of the last digit
that are not needed are not looked at. -/
namespace Go.Base64

def lineEnd (byte : UInt8) : Bool := byte = 10 ∨ byte = 13

structure Encoding where
  alphabet : List UInt8
  padding : Option UInt8
  size : alphabet.length = 64
  distinct : alphabet.Nodup
  lines : ∀ byte ∈ alphabet, lineEnd byte = false
  apart : ∀ pad ∈ padding, pad ∉ alphabet ∧ lineEnd pad = false

def ascii (text : String) : List UInt8 := text.toList.map fun c => UInt8.ofNat c.toNat

theorem lines_of_all {alphabet : List UInt8}
    (all : (alphabet.all fun byte => !lineEnd byte) = true) :
    ∀ byte ∈ alphabet, lineEnd byte = false := by
  simpa using all

def stdEncoding : Encoding where
  alphabet := ascii "ABCDEFGHIJKLMNOPQRSTUVWXYZabcdefghijklmnopqrstuvwxyz0123456789+/"
  padding := some 61
  size := by decide +kernel
  distinct := by decide +kernel
  lines := lines_of_all (by decide +kernel)
  apart := by decide +kernel

def rawURLEncoding : Encoding where
  alphabet := ascii "ABCDEFGHIJKLMNOPQRSTUVWXYZabcdefghijklmnopqrstuvwxyz0123456789-_"
  padding := none
  size := by decide +kernel
  distinct := by decide +kernel
  lines := lines_of_all (by decide +kernel)
  apart := by decide +kernel

/-- The bytes of a quantum of up to four digits. -/
def quantum (digits : List Nat) : List UInt8 :=
  let value :=
    digits.getD 0 0 * 2 ^ 18 + digits.getD 1 0 * 2 ^ 12 + digits.getD 2 0 * 2 ^ 6 + digits.getD 3 0
  [UInt8.ofNat (value / 2 ^ 16), UInt8.ofNat (value / 2 ^ 8), UInt8.ofNat value].take
    (digits.length - 1)

def corruptInputError (offset : Nat) : Error :=
    "illegal base64 data at input byte " ++ toString offset

namespace Encoding
variable (enc : Encoding)

def digit (value : Nat) : UInt8 := enc.alphabet.getD value 0

def decodeMap (byte : UInt8) : Option Nat :=
  if byte ∈ enc.alphabet then some (enc.alphabet.idxOf byte) else none

def pad (count : Nat) : List UInt8 := (enc.padding.map (List.replicate count)).getD []

def encodeToString : List UInt8 → List UInt8
  | [] => []
  | [a] =>
    let value := a.toNat * 2 ^ 16
    [enc.digit (value / 2 ^ 18 % 64), enc.digit (value / 2 ^ 12 % 64)] ++ enc.pad 2
  | [a, b] =>
    let value := a.toNat * 2 ^ 16 + b.toNat * 2 ^ 8
    [enc.digit (value / 2 ^ 18 % 64), enc.digit (value / 2 ^ 12 % 64),
      enc.digit (value / 2 ^ 6 % 64)] ++ enc.pad 1
  | a :: b :: c :: rest =>
    let value := a.toNat * 2 ^ 16 + b.toNat * 2 ^ 8 + c.toNat
    enc.digit (value / 2 ^ 18 % 64) :: enc.digit (value / 2 ^ 12 % 64) :: enc.digit
      (value / 2 ^ 6 % 64) :: enc.digit (value % 64) :: encodeToString rest

/-- What may follow the first padding character, which stands before byte `si`: the second one where
there are two digits, and line ends. -/
def checkPadding (pad : UInt8) (si count : Nat) (rest : List UInt8) : Except Error Unit :=
  let trailing (si : Nat) (rest : List UInt8) : Except Error Unit :=
    let left := rest.dropWhile lineEnd
    if left = [] then .ok () else .error (corruptInputError (si + (rest.length - left.length)))
  if count < 2 then .error (corruptInputError (si - 1))
  else if count = 2 then
    let left := rest.dropWhile lineEnd
    let si := si + (rest.length - left.length)
    match left with
    | [] => .error (corruptInputError si)
    | byte :: left => if byte = pad then trailing (si + 1) left
      else .error (corruptInputError (si - 1))
  else trailing si rest

/-- Decode from byte `si` on, where `digits` is what there is of the present quantum. -/
def decodeFrom : Nat → List Nat → List UInt8 → Except Error (List UInt8)
  | si, digits, [] =>
    if digits = [] then .ok []
    else if digits.length = 1 ∨
      enc.padding.isSome then .error (corruptInputError (si - digits.length))
    else .ok (quantum digits)
  | si, digits, byte :: rest =>
    match enc.decodeMap byte with
    | some value =>
      if digits.length = 3 then (decodeFrom (si + 1) [] rest).map (quantum (digits ++ [value]) ++ ·)
      else decodeFrom (si + 1) (digits ++ [value]) rest
    | none =>
      if lineEnd byte then decodeFrom (si + 1) digits rest
      else if enc.padding = some byte then
        (checkPadding byte (si + 1) digits.length rest).map fun _ => quantum digits
      else .error (corruptInputError si)

def decodeString (text : List UInt8) : Except Error (List UInt8) := enc.decodeFrom 0 [] text

end Encoding

section RoundTrip
variable {enc : Encoding} {si : Nat} {value : Nat}

theorem Encoding.decodeMap_eq_some {byte : UInt8} :
    enc.decodeMap byte = some value ↔ byte ∈ enc.alphabet ∧ enc.alphabet.idxOf byte = value := by
  rw [decodeMap]
  split <;> simp_all

theorem Encoding.decodeMap_digit (small : value < 64) :
    enc.decodeMap (enc.digit value) = some value := by
  have inside : value < enc.alphabet.length := enc.size ▸ small
  have same : enc.digit value = enc.alphabet[value] := by simp [digit, inside]
  rw [decodeMap, same, if_pos (List.getElem_mem inside), enc.distinct.idxOf_getElem value inside]

theorem Encoding.decodeMap_padding {pad : UInt8} (padded : enc.padding = some pad) :
    enc.decodeMap pad = none :=
  if_neg (enc.apart pad padded).1

theorem ofNat_toNat_of_mod {a : UInt8} (same : value % 256 = a.toNat) : UInt8.ofNat value = a := by
  rw [← UInt8.toNat_inj, UInt8.toNat_ofNat', same]

theorem quantum_four (a b c : UInt8) : let value := a.toNat * 2 ^ 16 + b.toNat * 2 ^ 8 + c.toNat
    quantum [value / 2 ^ 18 % 64, value / 2 ^ 12 % 64, value / 2 ^ 6 % 64, value % 64] =
      [a, b, c] := by
  have first := a.toNat_lt
  have second := b.toNat_lt
  have third := c.toNat_lt
  simp only [quantum, List.getD_cons_zero, List.getD_cons_succ, List.length_cons, List.length_nil]
  rw [ofNat_toNat_of_mod (a := a) (by omega), ofNat_toNat_of_mod (a := b) (by omega),
    ofNat_toNat_of_mod (a := c) (by omega)]
  rfl

theorem quantum_three (a b : UInt8) : let value := a.toNat * 2 ^ 16 + b.toNat * 2 ^ 8
    quantum [value / 2 ^ 18 % 64, value / 2 ^ 12 % 64, value / 2 ^ 6 % 64] = [a, b] := by
  have first := a.toNat_lt
  have second := b.toNat_lt
  simp only [quantum, List.getD_cons_zero, List.getD_cons_succ, List.getD_nil, List.length_cons,
    List.length_nil]
  rw [ofNat_toNat_of_mod (a := a) (by omega), ofNat_toNat_of_mod (a := b) (by omega)]
  rfl

theorem quantum_two (a : UInt8) : let value := a.toNat * 2 ^ 16
    quantum [value / 2 ^ 18 % 64, value / 2 ^ 12 % 64] = [a] := by
  have first := a.toNat_lt
  simp only [quantum, List.getD_cons_zero, List.getD_cons_succ, List.getD_nil, List.length_cons,
    List.length_nil]
  rw [ofNat_toNat_of_mod (a := a) (by omega)]
  rfl

variable {digits : List Nat} {value : Nat} {rest : List UInt8}

theorem Encoding.decodeFrom_digit (small : value < 64) (more : digits.length ≠ 3) :
    enc.decodeFrom si digits (enc.digit value :: rest) =
      enc.decodeFrom (si + 1) (digits ++ [value]) rest := by
  rw [decodeFrom, decodeMap_digit small]
  exact if_neg more

theorem Encoding.decodeFrom_last (small : value < 64) (last : digits.length = 3) :
    enc.decodeFrom si digits (enc.digit value :: rest) =
      (enc.decodeFrom (si + 1) [] rest).map (quantum (digits ++ [value]) ++ ·) := by
  rw [decodeFrom, decodeMap_digit small]
  exact if_pos last

theorem Encoding.decodeFrom_pad (two : 2 ≤ digits.length) (three : digits.length ≤ 3) :
    enc.decodeFrom si digits (enc.pad (4 - digits.length)) = .ok (quantum digits) := by
  have some : digits ≠ [] := List.ne_nil_of_length_pos (by omega)
  cases padded : enc.padding with
  | none => simp [pad, padded, decodeFrom, some, show digits.length ≠ 1 by omega]
  | some byte =>
    have outside := decodeMap_padding padded
    have line := (enc.apart byte padded).2
    obtain two | three : digits.length = 2 ∨ digits.length = 3 := by omega
    · simp [pad, padded, two, List.replicate, decodeFrom, outside, line, checkPadding, Except.map]
    · simp [pad, padded, three, List.replicate, decodeFrom, outside, line, checkPadding, Except.map]

theorem Encoding.decodeFrom_encodeToString (bytes : List UInt8) :
    enc.decodeFrom si [] (enc.encodeToString bytes) = .ok bytes := by
  have small (value : Nat) : value % 64 < 64 := Nat.mod_lt _ (by decide)
  induction bytes using encodeToString.induct generalizing si with
  | case1 => rfl
  | case2 a =>
    rw [encodeToString, List.cons_append, decodeFrom_digit (small _) (by simp), List.cons_append,
      decodeFrom_digit (small _) (by simp), List.nil_append]
    exact (decodeFrom_pad (by simp) (by simp)).trans (congrArg _ (quantum_two a))
  | case3 a b =>
    rw [encodeToString, List.cons_append, decodeFrom_digit (small _) (by simp), List.cons_append,
      decodeFrom_digit (small _) (by simp), List.cons_append, decodeFrom_digit (small _) (by simp), List.nil_append]
    exact (decodeFrom_pad (by simp) (by simp)).trans (congrArg _ (quantum_three a b))
  | case4 a b c rest ih =>
    rw [encodeToString, decodeFrom_digit (small _) (by simp), decodeFrom_digit (small _) (by simp),
      decodeFrom_digit (small _) (by simp), decodeFrom_last (small _) rfl, ih]
    exact congrArg (fun first => Except.ok (first ++ rest)) (quantum_four a b c)

/-- What is encoded is decoded again. -/
theorem Encoding.decodeString_encodeToString (bytes : List UInt8) :
    enc.decodeString (enc.encodeToString bytes) = .ok bytes := decodeFrom_encodeToString bytes

end RoundTrip

section Agreement
variable {raw enc : Encoding} {digits : List Nat} {si : Nat} {text first second : List UInt8}

/-- An encoding without padding and another one that give no digit two values. -/
structure Agree (raw enc : Encoding) : Prop where
  unpadded : raw.padding = none
  same : ∀ byte value value', raw.decodeMap byte = some value → enc.decodeMap byte = some value' →
    value = value'
  padding : ∀ pad ∈ enc.padding, pad ∉ raw.alphabet

/-- A text that both can decode is the same to both. -/
theorem Agree.decodeFrom (agree : Agree raw enc)
    (decoded : raw.decodeFrom si digits text = .ok first)
    (other : enc.decodeFrom si digits text = .ok second) : first = second := by
  induction text generalizing si digits first second with
  | nil =>
    rw [Encoding.decodeFrom] at decoded other
    split_ifs at decoded other <;> simp_all
  | cons byte rest ih =>
    rw [Encoding.decodeFrom] at decoded other
    cases here : raw.decodeMap byte with
    | none =>
      rw [here] at decoded
      dsimp only at decoded
      rw [agree.unpadded, if_neg (by simp : ¬ (none : Option UInt8) = some byte)] at decoded
      split at decoded
      · rename_i line
        have outside : enc.decodeMap byte = none := if_neg fun inside => by simpa [line] using enc.lines byte inside
        rw [outside] at other
        exact ih decoded ((if_pos line).symm.trans other)
      · contradiction
    | some value =>
      have inside : byte ∈ raw.alphabet := by
        by_contra outside
        simp [Encoding.decodeMap, outside] at here
      cases there : enc.decodeMap byte with
      | none =>
        have other : enc.padding ≠ some byte := fun padded => agree.padding byte padded inside
        simp [there, raw.lines byte inside, other] at *
      | some value' =>
        obtain rfl := agree.same byte value value' here there
        simp only [here, there] at decoded other
        split at decoded
        · rename_i last
          rw [if_pos last] at other
          obtain ⟨left, decodedRest, rfl⟩ := map_eq_ok.mp decoded
          obtain ⟨right, otherRest, rfl⟩ := map_eq_ok.mp other
          rw [ih decodedRest otherRest]
        · rename_i more
          exact ih decoded ((if_neg more).symm.trans other)

theorem decodeMap_of_shared {shared last last' : List UInt8} (here : raw.alphabet = shared ++ last)
    (there : enc.alphabet = shared ++ last') (apart : ∀ byte ∈ last, byte ∉ last') {byte : UInt8}
    {value value' : Nat}
    (decoded : raw.decodeMap byte = some value) (other : enc.decodeMap byte = some value') :
    value = value' := by
  obtain ⟨member, rfl⟩ := Encoding.decodeMap_eq_some.mp decoded
  obtain ⟨member', rfl⟩ := Encoding.decodeMap_eq_some.mp other
  rw [here, List.mem_append] at member
  rw [there, List.mem_append] at member'
  by_cases common : byte ∈ shared
  · rw [here, there, List.idxOf_append_of_mem common, List.idxOf_append_of_mem common]
  · exact absurd (member'.resolve_left common) (apart byte (member.resolve_left common))

/-- The alphabets differ in their last two digits. -/
theorem agree_std : Agree rawURLEncoding stdEncoding where
  unpadded := rfl
  same _ _ _ := by
    have url :
      rawURLEncoding.alphabet = stdEncoding.alphabet.take 62 ++ [45, 95] := by decide +kernel
    have std : stdEncoding.alphabet = stdEncoding.alphabet.take 62 ++ [43, 47] := by decide +kernel
    exact decodeMap_of_shared url std (by simp)
  padding := by decide +kernel

end Agreement
end Go.Base64
