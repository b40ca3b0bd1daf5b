import Nodelet.Go.Program
import Mathlib.Data.String.Basic

/-! The bytes of a string and the runes of bytes. A byte that begins no rune counts as one rune,
U+FFFD. -/
namespace Go.Utf8

def bytes (text : String) : List UInt8 := text.toList.flatMap String.utf8EncodeChar

def runeError : Char := '�'

def decodeRune (text : List UInt8) : Option Char := text.toByteArray.utf8DecodeChar? 0

/-- The runes that begin after `skip` bytes. -/
def runesFrom : Nat → List UInt8 → List Char
  | _, [] => []
  | skip + 1, _ :: rest => runesFrom skip rest
  | 0, byte :: rest =>
    match decodeRune (byte :: rest) with
    | some rune => rune :: runesFrom (rune.utf8Size - 1) rest
    | none => runeError :: runesFrom 0 rest

def runes (text : List UInt8) : List Char := runesFrom 0 text

theorem runesFrom_length (skipped rest : List UInt8) :
    runesFrom skipped.length (skipped ++ rest) = runes rest := by
  induction skipped with
  | nil => rfl
  | cons byte skipped ih => exact ih

theorem runes_encode (rune : Char) (rest : List UInt8) :
    runes (String.utf8EncodeChar rune ++ rest) = rune :: runes rest := by
  have decoded : decodeRune (String.utf8EncodeChar rune ++ rest) = some rune := by
    rw [decodeRune, List.toByteArray_append]
    exact ByteArray.utf8DecodeChar?_utf8EncodeChar_append
  have size := String.length_utf8EncodeChar rune
  cases encoded : String.utf8EncodeChar rune with
  | nil =>
    have positive := rune.utf8Size_pos
    simp only [encoded, List.length_nil] at size
    omega
  | cons byte more =>
    rw [encoded] at decoded size
    rw [List.cons_append, runes, runesFrom, ← List.cons_append, decoded]
    dsimp only
    rw [← size]
    exact congrArg _ (runesFrom_length more rest)

theorem runes_bytes (text : String) : runes (bytes text) = text.toList := by
  rw [bytes]
  induction text.toList with
  | nil => rfl
  | cons rune rest ih => rw [List.flatMap_cons, runes_encode, ih]

theorem decodeRune_continuation (rest : List UInt8) : decodeRune (128 :: rest) = none := by
  have first (some : 0 < (128 :: rest).toByteArray.size) : (128 :: rest).toByteArray[0] = 128 := by
    simp [ByteArray.getElem_eq_getElem_data]
  rw [decodeRune, ByteArray.utf8DecodeChar?]
  split
  · split <;> rename_i byte
    · rfl
    all_goals
      rw [first] at byte
      contradiction
  · rfl

theorem runes_continuation (rest : List UInt8) : runes (128 :: rest) = runeError :: runes rest := by
  rw [runes, runesFrom, decodeRune_continuation]
  rfl

variable {rune : Char}

/-- The bytes of a rune beyond ASCII are all beyond it. -/
theorem le_of_mem_encode {byte : UInt8} (beyond : 128 ≤ rune.toNat)
    (member : byte ∈ String.utf8EncodeChar rune) : 128 ≤ byte.toNat := by
  have value : rune.val.toNat = rune.toNat := rfl
  have marked (n : Nat) (high : 128 ≤ n) (small : n < 256) : 128 ≤ (UInt8.ofNat n).toNat := by
    rw [UInt8.toNat_ofNat']
    omega
  unfold String.utf8EncodeChar at member
  dsimp only at member
  rw [if_neg (by omega)] at member
  split at member
  · simp only [List.mem_cons, List.not_mem_nil, or_false] at member
    rcases member with rfl | rfl <;> exact marked _ (by omega) (by omega)
  split at member
  · simp only [List.mem_cons, List.not_mem_nil, or_false] at member
    rcases member with rfl | rfl | rfl <;> exact marked _ (by omega) (by omega)
  · simp only [List.mem_cons, List.not_mem_nil, or_false] at member
    rcases member with rfl | rfl | rfl | rfl <;> exact marked _ (by omega) (by omega)

theorem encode_ascii (ascii : rune.toNat < 128) :
    String.utf8EncodeChar rune = [UInt8.ofNat rune.toNat] := by
  unfold String.utf8EncodeChar
  exact if_pos (show rune.toNat ≤ 127 by omega)

theorem le_of_decodeRune {byte : UInt8} {rest : List UInt8} (beyond : 128 ≤ byte.toNat)
    (decoded : decodeRune (byte :: rest) = some rune) : 128 ≤ rune.toNat := by
  by_contra ascii
  have whole := ByteArray.eq_of_utf8DecodeChar?_eq_some decoded
  rw [encode_ascii (by omega)] at whole
  have first := congrArg (fun bytes : ByteArray => bytes.data.toList.head?) whole
  have same : some byte = some (UInt8.ofNat rune.toNat) := by simpa using first
  have value := congrArg UInt8.toNat (Option.some.inj same)
  rw [UInt8.toNat_ofNat'] at value
  omega

theorem le_of_mem_runesFrom {text : List UInt8} (beyond : ∀ byte ∈ text, 128 ≤ byte.toNat)
    (skip : Nat) : ∀ rune ∈ runesFrom skip text, 128 ≤ rune.toNat := by
  induction text generalizing skip with
  | nil => simp [runesFrom]
  | cons byte rest ih =>
    obtain ⟨first, others⟩ := List.forall_mem_cons.mp beyond
    cases skip with
    | succ skip => exact ih others skip
    | zero =>
      rw [runesFrom]
      split
      · exact List.forall_mem_cons.mpr ⟨le_of_decodeRune first ‹_›, ih others _⟩
      · exact List.forall_mem_cons.mpr ⟨by decide, ih others _⟩

/-- What is read of bytes that were cut off: whole runes, and beyond ASCII what is left of the next
one. -/
theorem runes_take {n : Nat} (cut : n < (text.flatMap String.utf8EncodeChar).length) :
    ∃ kept tail, kept <+: text ∧ kept ≠ text ∧ (∀ rune ∈ tail, 128 ≤ rune.toNat) ∧
      runes ((text.flatMap String.utf8EncodeChar).take n) = kept ++ tail := by
  induction text generalizing n with
  | nil => simp at cut
  | cons rune rest ih =>
    rw [List.flatMap_cons] at cut ⊢
    rw [List.length_append] at cut
    by_cases whole : (String.utf8EncodeChar rune).length ≤ n
    · obtain ⟨kept, tail, initial, less, beyond, read⟩ := ih (n := n - (String.utf8EncodeChar rune).length) (by omega)
      refine ⟨rune :: kept, tail, List.cons_prefix_cons.mpr ⟨rfl, initial⟩, by simpa using less, beyond, ?_⟩
      rw [List.take_append, List.take_of_length_le whole, runes_encode, read, List.cons_append]
    · rw [List.take_append_of_le_length (by omega)]
      refine ⟨[], runes ((String.utf8EncodeChar rune).take n), List.nil_prefix, by simp, ?_, rfl⟩
      by_cases ascii : rune.toNat < 128
      · have none : n = 0 := by
          rw [encode_ascii ascii, List.length_singleton] at whole
          omega
        simp [none, runes, runesFrom]
      · exact le_of_mem_runesFrom (fun byte member => le_of_mem_encode (by omega) (List.mem_of_mem_take member)) 0

end Go.Utf8
