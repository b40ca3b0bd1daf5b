import Nodelet.Go.JsonValue
import Nodelet.Go.Strconv

/-! `json.MarshalIndent` of a struct whose fields are strings, integers and slices of strings, with
an indentation of one space. A string literal stands for what was quoted. -/
namespace Go.JsonText

def hex (digit : Nat) : Char := if digit < 10 then Char.ofNat (48 + digit)
    else Char.ofNat (87 + digit)

/-- Runes that have a meaning in HTML are escaped too. -/
def escape (c : Char) : List Char :=
  if c = '"' ∨ c = '\\' then ['\\', c]
  else if c = '\n' then ['\\', 'n']
  else if c = '\r' then ['\\', 'r']
  else if c = '\t' then ['\\', 't']
  else if c < ' ' ∨ c = '<' ∨ c = '>' ∨ c = '&' ∨ c = '\u2028' ∨ c = '\u2029' then
    ['\\', 'u', hex (c.toNat / 4096), hex (c.toNat / 256 % 16), hex (c.toNat / 16 % 16),
      hex (c.toNat % 16)]
  else [c]

def body (text : String) : List Char := text.toList.flatMap escape

def quote (text : String) : List Char := '"' :: (body text ++ ['"'])

/-- The contents of a field. A nil slice is not an empty one. -/
inductive Item where
  | string (value : String)
  | int (value : Int)
  | strings (value : Option (List String))
  deriving DecidableEq, Repr

def Item.value : Item → Value
  | .string value => .string value
  | .int value => .number (toString value)
  | .strings none => .null
  | .strings (some items) => .array (items.map .string)

/-- The elements of an array, after the bracket that opens it. -/
def elements : List String → List Char
  | [] => [']']
  | [last] => '\n' :: ' ' :: ' ' :: (quote last ++ ['\n', ' ', ']'])
  | item :: rest => '\n' :: ' ' :: ' ' :: (quote item ++ ',' :: elements rest)

def Item.text : Item → List Char
  | .string value => quote value
  | .int value => (toString value).toList
  | .strings none => Word.null.text
  | .strings (some items) => '[' :: elements items

def members : List (String × Item) → List Char
  | [] => ['\x7d']
  | [(key, item)] => '\n' :: ' ' :: (quote key ++ ':' :: ' ' :: (item.text ++ ['\n', '\x7d']))
  | (key, item) :: rest =>
    '\n' :: ' ' :: (quote key ++ ':' :: ' ' :: (item.text ++ ',' :: members rest))

def marshalIndent (entries : List (String × Item)) : List Char := '\x7b' :: members entries

section Quote
variable {c : Char}

theorem hexDigit_hex {d : Nat} (small : d < 16) : hexDigit (hex d) = d := by
  revert d
  decide

theorem isHex_hex {d : Nat} (small : d < 16) : isHex (hex d) = true := by
  revert d
  decide

/-- The four digits of an escape sequence. -/
theorem hexValue_digits {n : Nat} (small : n < 65536) :
    hexValue [hex (n / 4096), hex (n / 256 % 16), hex (n / 16 % 16), hex (n % 16)] = n := by
  simp only [hexValue, List.foldl_cons, List.foldl_nil]
  rw [hexDigit_hex (by omega), hexDigit_hex (by omega), hexDigit_hex (by omega),
    hexDigit_hex (by omega)]
  omega

/-- What is escaped by its number has four digits and is no half of a pair. -/
theorem toNat_of_escaped
    (escaped : c < ' ' ∨ c = '<' ∨ c = '>' ∨ c = '&' ∨ c = '\u2028' ∨ c = '\u2029') :
    c.toNat < 0xD800 := by
  obtain control | rfl | rfl | rfl | rfl | rfl := escaped
  · have less : c.toNat < 32 := control
    omega
  all_goals decide

theorem unquote_escape (c : Char) (rest : List Char) :
    unquote (escape c ++ rest) = c :: unquote rest := by
  unfold escape
  split_ifs with mark newline carriage tab escaped
  · obtain rfl | rfl := mark
    · rfl
    · rfl
  · rw [newline]; rfl
  · rw [carriage]; rfl
  · rw [tab]; rfl
  · have small := toNat_of_escaped escaped
    have value := hexValue_digits (n := c.toNat) (by omega)
    have high : highSurrogate c.toNat = false := decide_eq_false (by omega)
    have low : lowSurrogate c.toNat = false := decide_eq_false (by omega)
    simp only [unquote, List.cons_append, List.nil_append, pieces, if_true, List.head?_cons,
      List.tail_cons,
      List.take_succ_cons, List.take_zero, value, join, high, low, Bool.false_eq_true, if_false, Char.ofNat_toNat]
  · have plain : c ≠ '\\' := fun same => mark (.inr same)
    simp [unquote, pieces, plain, join]

theorem unquote_body (text : String) : unquote (body text) = text.toList := by
  have all (chars : List Char) : unquote (chars.flatMap escape) = chars := by
    induction chars with
    | nil => rfl
    | cons c rest ih => rw [List.flatMap_cons, unquote_escape, ih]
  exact all text.toList

end Quote

end Go.JsonText
