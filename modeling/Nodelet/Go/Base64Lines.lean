import Nodelet.Go.Base64
import Mathlib.Data.List.TakeWhile

/-! Base64 with line ends. They are skipped, and what is left is a sequence of quanta of four
digits, the last of which may be padded. -/
namespace Go.Base64
variable {enc : Encoding} {si sj : Nat} {digits : List Nat} {byte pad : UInt8}
  {text rest out : List UInt8}

/-- The text without its line ends. -/
def unwrap (text : List UInt8) : List UInt8 := text.filter fun byte => !lineEnd byte

theorem unwrap_cons_of_line (line : lineEnd byte = true) :
    unwrap (byte :: text) = unwrap text := by simp [unwrap, line]

theorem unwrap_cons_of_not_line (line : lineEnd byte = false) :
    unwrap (byte :: text) = byte :: unwrap text := by
  simp [unwrap, line]

@[simp] theorem unwrap_unwrap : unwrap (unwrap text) = unwrap text := by simp [unwrap]

theorem dropWhile_lineEnd_eq_nil : text.dropWhile lineEnd = [] ↔ unwrap text = [] := by
  simp [unwrap, List.dropWhile_eq_nil_iff, List.filter_eq_nil_iff]

theorem dropWhile_lineEnd_eq_cons :
    text.dropWhile lineEnd = byte :: rest → unwrap text = byte :: unwrap rest := by
  induction text with
  | nil => intro nothing; contradiction
  | cons first text ih =>
    intro left
    cases line : lineEnd first with
    | true =>
      rw [List.dropWhile_cons_of_pos line] at left
      rw [unwrap_cons_of_line line, ih left]
    | false =>
      rw [List.dropWhile_cons_of_neg (by simp [line])] at left
      obtain ⟨rfl, rfl⟩ := List.cons.inj left
      exact unwrap_cons_of_not_line line

namespace Encoding

theorem checkPadding_ok {count : Nat} (three : count ≤ 3) :
    checkPadding pad si count rest = .ok () ↔ 2 ≤ count ∧
      unwrap rest = List.replicate (3 - count) pad := by
  obtain few | rfl | rfl : count < 2 ∨ count = 2 ∨ count = 3 := by omega
  · simp [checkPadding, few, Nat.not_le_of_gt few]
  · cases left : rest.dropWhile lineEnd with
    | nil => simp [checkPadding, left, dropWhile_lineEnd_eq_nil.mp left]
    | cons byte left' =>
      rw [dropWhile_lineEnd_eq_cons left]
      by_cases same : byte = pad
      · simp [checkPadding, left, same, unwrap]
      · simp [checkPadding, left, same]
  · simp [checkPadding, unwrap]

theorem decodeFrom_nil_ok : enc.decodeFrom si digits [] = .ok out ↔
    digits = [] ∧ out = [] ∨ 2 ≤ digits.length ∧ enc.padding = none ∧ quantum digits = out := by
  obtain rfl | some := eq_or_ne digits []
  · simp [decodeFrom, eq_comm]
  · have positive := List.length_pos_iff.mpr some
    by_cases failed : digits.length = 1 ∨ enc.padding.isSome
    · obtain one | padded := failed
      · simp [decodeFrom, some, one]
      · simp [decodeFrom, some, padded, Option.isSome_iff_ne_none.mp padded]
    · obtain ⟨more, unpadded⟩ := not_or.mp failed
      have two : 2 ≤ digits.length := by omega
      simp [decodeFrom, some, more, two, Option.not_isSome_iff_eq_none.mp unpadded]

theorem decodeFrom_cons_ok (line : lineEnd byte = false) (few : digits.length ≤ 3) :
    enc.decodeFrom si digits (byte :: rest) = .ok out ↔
      (∃ value, enc.decodeMap byte = some value ∧
        ((digits.length = 3 ∧ ∃ later, enc.decodeFrom (si + 1) [] rest = .ok later ∧
        quantum (digits ++ [value]) ++ later = out) ∨
          digits.length ≠ 3 ∧ enc.decodeFrom (si + 1) (digits ++ [value]) rest = .ok out)) ∨
      enc.padding = some byte ∧ 2 ≤ digits.length ∧
        unwrap rest = List.replicate (3 - digits.length) byte ∧ quantum digits = out := by
  rw [decodeFrom]
  cases found : enc.decodeMap byte with
  | some value =>
    have unpadded : enc.padding ≠ some byte :=
      fun padded => by simp [decodeMap_padding padded] at found
    by_cases last : digits.length = 3
    · simp [last, unpadded, map_eq_ok]
    · simp [last, unpadded]
  | none =>
    by_cases padded : enc.padding = some byte
    · simp [line, padded, map_eq_ok, checkPadding_ok few, and_assoc]
    · simp [line, padded]

theorem decodeFrom_cons_line (line : lineEnd byte = true) :
    enc.decodeFrom si digits (byte :: rest) = enc.decodeFrom (si + 1) digits rest := by
  have outside : enc.decodeMap byte = none :=
    if_neg fun inside => by simpa [line] using enc.lines byte inside
  simp [decodeFrom, outside, line]

/-- Line ends make no difference to what is decoded. -/
theorem decodeFrom_unwrap (few : digits.length ≤ 3) :
    enc.decodeFrom si digits text = .ok out ↔ enc.decodeFrom sj digits (unwrap text) = .ok out := by
  induction text generalizing si sj digits out with
  | nil => simp only [unwrap, List.filter_nil, decodeFrom_nil_ok]
  | cons byte rest ih =>
    cases line : lineEnd byte with
    | true => rw [decodeFrom_cons_line line, unwrap_cons_of_line line, ih few]
    | false =>
      have fresh (later) : enc.decodeFrom (si + 1) [] rest = .ok later ↔
          enc.decodeFrom (sj + 1) [] (unwrap rest) = .ok later := ih (by simp)
      have longer (value) : digits.length ≠ 3 ∧ enc.decodeFrom (si + 1) (digits ++ [value]) rest = .ok out ↔
          digits.length ≠ 3 ∧ enc.decodeFrom (sj + 1) (digits ++ [value]) (unwrap rest) = .ok out :=
        and_congr_right fun room => ih (by rw [List.length_append, List.length_singleton]; omega)
      rw [unwrap_cons_of_not_line line, decodeFrom_cons_ok line few, decodeFrom_cons_ok line few, unwrap_unwrap]
      simp only [fresh, longer]

/-- Quanta of four digits, the last of which may be short: of two digits or three, and filled up
with padding. -/
inductive WellFormed (enc : Encoding) : List UInt8 → Prop
  | nil : WellFormed enc []
  | quantum {a b c d : UInt8} {later : List UInt8} : a ∈ enc.alphabet → b ∈ enc.alphabet →
    c ∈ enc.alphabet →
      d ∈ enc.alphabet → WellFormed enc later → WellFormed enc (a :: b :: c :: d :: later)
  | three {a b c : UInt8} : a ∈ enc.alphabet → b ∈ enc.alphabet → c ∈ enc.alphabet →
      WellFormed enc (a :: b :: c :: enc.pad 1)
  | two {a b : UInt8} : a ∈ enc.alphabet → b ∈ enc.alphabet → WellFormed enc (a :: b :: enc.pad 2)

section WellFormed
variable {first : List UInt8} (letters : ∀ byte ∈ first, byte ∈ enc.alphabet)
include letters

theorem WellFormed.short (two : 2 ≤ first.length) (three : first.length ≤ 3) :
    enc.WellFormed (first ++ enc.pad (4 - first.length)) := by
  obtain two | three : first.length = 2 ∨ first.length = 3 := by omega
  · obtain ⟨a, b, rfl⟩ := List.length_eq_two.mp two
    exact .two (letters a (by simp)) (letters b (by simp))
  · obtain ⟨a, b, c, rfl⟩ := List.length_eq_three.mp three
    exact .three (letters a (by simp)) (letters b (by simp)) (letters c (by simp))

theorem WellFormed.full (three : first.length = 3) (letter : byte ∈ enc.alphabet)
    (after : enc.WellFormed rest) : enc.WellFormed (first ++ byte :: rest) := by
  obtain ⟨a, b, c, rfl⟩ := List.length_eq_three.mp three
  exact .quantum (letters a (by simp)) (letters b (by simp)) (letters c (by simp)) letter after

/-- What is decoded after the digits `first` makes a well formed text with them. -/
theorem wellFormed_of_decodeFrom (same : digits.length = first.length) (few : first.length ≤ 3)
    (flat : ∀ byte ∈ text, lineEnd byte = false)
    (decoded : enc.decodeFrom si digits text = .ok out) : enc.WellFormed (first ++ text) := by
  induction text generalizing si first digits out with
  | nil =>
    obtain ⟨rfl, -⟩ | ⟨two, unpadded, -⟩ := decodeFrom_nil_ok.mp decoded
    · obtain rfl := List.eq_nil_of_length_eq_zero same.symm
      exact .nil
    · simpa [pad, unpadded] using WellFormed.short letters (same ▸ two) few
  | cons byte rest ih =>
    obtain ⟨line, flat⟩ := List.forall_mem_cons.mp flat
    obtain ⟨value, digit, whole⟩ | ⟨padded, two, filled, -⟩ :=
      (decodeFrom_cons_ok line (same ▸ few)).mp decoded
    · have letter := (decodeMap_eq_some.mp digit).1
      obtain ⟨last, later, decoded, -⟩ | ⟨room, decoded⟩ := whole
      · have after : enc.WellFormed ([] ++ rest) := ih (by simp) rfl (by simp) flat decoded
        exact .full letters (same ▸ last) letter after
      · have letters : ∀ other ∈ first ++ [byte], other ∈ enc.alphabet := by
          simpa [or_imp, forall_and] using ⟨letters, letter⟩
        simpa using ih letters (by simp [same]) (by simp; omega) flat decoded
    · have shape := WellFormed.short letters (same ▸ two) few
      rw [same, unwrap, List.filter_eq_self.mpr (by simpa using flat)] at filled
      rw [filled, ← List.replicate_succ, show 3 - first.length + 1 = 4 - first.length by omega]
      simpa [pad, padded] using shape

end WellFormed

theorem decodeString_unwrap :
    enc.decodeString text = .ok out ↔ enc.decodeString (unwrap text) = .ok out :=
  decodeFrom_unwrap (by simp)

theorem WellFormed.decodes (shape : enc.WellFormed text) :
    ∃ out, enc.decodeFrom si [] text = .ok out := by
  induction shape generalizing si with
  | nil => exact ⟨[], rfl⟩
  | quantum a b c d _ ih =>
    obtain ⟨out, decoded⟩ := @ih (si + 4)
    simp [decodeFrom, decodeMap, a, b, c, d, decoded, Except.map]
  | three a b c =>
    cases padded : enc.padding with
    | none => simp [decodeFrom, decodeMap, a, b, c, pad, padded]
    | some filler =>
      simp [decodeFrom, decodeMap, a, b, c, pad, padded, enc.apart filler padded, checkPadding, Except.map]
  | two a b =>
    cases padded : enc.padding with
    | none => simp [decodeFrom, decodeMap, a, b, pad, padded]
    | some filler =>
      simp [decodeFrom, decodeMap, a, b, pad, padded, enc.apart filler padded, checkPadding, Except.map]

/-- What is decoded is well formed but for its line ends, and all of it is decoded. -/
theorem decodeString_ok_iff :
    (∃ out, enc.decodeString text = .ok out) ↔ enc.WellFormed (unwrap text) := by
  constructor
  · rintro ⟨out, decoded⟩
    have whole : enc.WellFormed ([] ++ unwrap text) :=
      wellFormed_of_decodeFrom (by simp) rfl (by simp) (by simp [unwrap]) (decodeString_unwrap.mp decoded)
    exact whole
  · intro shape
    obtain ⟨out, decoded⟩ := shape.decodes
    exact ⟨out, decodeString_unwrap.mpr decoded⟩

theorem length_quantum (few : digits.length ≤ 4) : (quantum digits).length = digits.length - 1 := by
  simp only [quantum, List.length_take, List.length_cons, List.length_nil]
  omega

variable {filler : UInt8}

/-- Four characters stand for three bytes, or for as many fewer as there are padding characters. -/
theorem length_decodeFrom (padded : enc.padding = some filler) (few : digits.length ≤ 3)
    (decoded : enc.decodeFrom si digits text = .ok out) :
    4 * (out.length + text.count filler) = 3 * (digits.length + (unwrap text).length) := by
  have flat : lineEnd filler = false := (enc.apart filler padded).2
  induction text generalizing si digits out with
  | nil =>
    obtain ⟨rfl, rfl⟩ | ⟨_, unpadded, _⟩ := decodeFrom_nil_ok.mp decoded
    · rfl
    · simp [padded] at unpadded
  | cons byte rest ih =>
    cases line : lineEnd byte with
    | true =>
      have other : byte ≠ filler := fun same => by simp [same, flat] at line
      rw [decodeFrom_cons_line line] at decoded
      rw [List.count_cons_of_ne other, unwrap_cons_of_line line]
      exact ih few decoded
    | false =>
      rw [unwrap_cons_of_not_line line, List.length_cons]
      obtain ⟨value, digit, whole⟩ | ⟨pads, two, filled, rfl⟩ := (decodeFrom_cons_ok line few).mp decoded
      · have other : byte ≠ filler := by
          rintro rfl
          simp [decodeMap_padding padded] at digit
        rw [List.count_cons_of_ne other]
        obtain ⟨last, later, after, rfl⟩ | ⟨room, after⟩ := whole
        · have remaining := ih (by simp) after
          have three : (quantum (digits ++ [value])).length = _ := length_quantum (by simp [last])
          simp only [List.length_append, List.length_singleton, List.length_nil] at remaining three ⊢
          omega
        · have remaining := ih (by simp; omega) after
          simp only [List.length_append, List.length_singleton] at remaining
          omega
      · obtain rfl : filler = byte := Option.some.inj (padded.symm.trans pads)
        have count : rest.count filler = 3 - digits.length := by
          rw [← List.count_filter (p := fun byte => !lineEnd byte) (by simp [flat]), ← unwrap, filled,
            List.count_replicate_self]
        rw [List.count_cons_self, count, filled, List.length_replicate, length_quantum (by omega)]
        omega

theorem length_decodeString (padded : enc.padding = some filler)
    (decoded : enc.decodeString text = .ok out) :
    4 * (out.length + text.count filler) = 3 * (unwrap text).length := by
  have whole := length_decodeFrom padded (by simp) decoded
  rwa [List.length_nil, Nat.zero_add] at whole

theorem length_encodeToString (padded : enc.padding = some filler) (bytes : List UInt8) :
    (enc.encodeToString bytes).length = 4 * ((bytes.length + 2) / 3) := by
  fun_induction enc.encodeToString bytes with
  | case1 => rfl
  | case2 => simp [pad, padded]
  | case3 => simp [pad, padded]
  | case4 a b c rest value ih =>
    simp only [List.length_cons, ih]
    omega

end Encoding
end Go.Base64
