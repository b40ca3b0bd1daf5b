import Nodelet.Go.Scanner
import Nodelet.Go.Utf8

/-! What a JSON text says: its outermost value, and the entries if that is an object, which are
stored in a struct of strings. -/
namespace Go.JsonText
open Utf8 (runes runeError)

section Unquote

/-- A rune, or the code unit of an escape sequence with four digits. -/
inductive Piece where
  | rune (c : Char)
  | unit (value : Nat)
  deriving DecidableEq, Repr

def hexDigit (c : Char) : Nat :=
  if isDigit c then c.toNat - '0'.toNat
  else if 'a' ≤ c ∧ c ≤ 'f' then c.toNat - 'a'.toNat + 10
  else c.toNat - 'A'.toNat + 10

def hexValue (digits : List Char) : Nat := digits.foldl (fun value c => value * 16 + hexDigit c) 0

def escaped (c : Char) : Char :=
  if c = 'b' then '\x08' else if c = 'f' then '\x0c' else if c = 'n' then '\n'
    else if c = 'r' then '\r'
  else if c = 't' then '\t' else c

/-- The pieces that begin after `skip` runes. -/
def pieces : Nat → List Char → List Piece
  | _, [] => []
  | skip + 1, _ :: rest => pieces skip rest
  | 0, c :: rest =>
    if c = '\\' then
      match rest.head? with
      | none => []
      | some e =>
        if e = 'u' then .unit (hexValue (rest.tail.take 4)) :: pieces 5 rest else .rune (escaped e) :: pieces 1 rest
    else .rune c :: pieces 0 rest

def highSurrogate (value : Nat) : Bool := 0xD800 ≤ value ∧ value < 0xDC00

def lowSurrogate (value : Nat) : Bool := 0xDC00 ≤ value ∧ value < 0xE000

/-- The runes of the pieces, where `high` is a first half that waits for the second. A half that
stands alone counts as U+FFFD. -/
def join : Option Nat → List Piece → List Char
  | none, [] => []
  | some _, [] => [runeError]
  | none, .rune c :: rest => c :: join none rest
  | some _, .rune c :: rest => runeError :: c :: join none rest
  | none, .unit value :: rest =>
    if highSurrogate value then join (some value) rest
    else if lowSurrogate value then runeError :: join none rest
    else Char.ofNat value :: join none rest
  | some high, .unit value :: rest =>
    if highSurrogate value then runeError :: join (some value) rest
    else if lowSurrogate value then
      Char.ofNat (0x10000 + (high - 0xD800) * 0x400 + (value - 0xDC00)) :: join none rest
    else runeError :: Char.ofNat value :: join none rest

/-- What a string literal stands for, of which `raw` is the text between the quotes. -/
def unquote (raw : List Char) : List Char := join none (pieces 0 raw)

theorem length_join (high : Option Nat) (list : List Piece) :
    (join high list).length ≤ list.length + if high.isSome then 1 else 0 := by
  induction high, list using join.induct <;> grind [join]

theorem length_pieces (skip : Nat) (raw : List Char) : (pieces skip raw).length ≤ raw.length := by
  induction skip, raw using pieces.induct <;> grind [pieces]

theorem length_unquote (raw : List Char) : (unquote raw).length ≤ raw.length :=
  (length_join none _).trans (length_pieces 0 raw)

variable {raw : List Char}

theorem length_pieces_lt (escape : '\\' ∈ raw) : (pieces 0 raw).length < raw.length := by
  induction raw with
  | nil => contradiction
  | cons c rest ih =>
    rw [pieces]
    split
    · cases rest with
      | nil => simp
      | cons e rest =>
        have four := length_pieces 4 rest
        have none := length_pieces 0 rest
        dsimp only [List.head?_cons]
        split <;> simp only [List.length_cons, pieces] <;> omega
    · rename_i plain
      have later : '\\' ∈ rest := (List.mem_cons.mp escape).resolve_left fun same => plain same.symm
      simpa using ih later

theorem length_unquote_lt (escape : '\\' ∈ raw) : (unquote raw).length < raw.length :=
  (length_join none _).trans_lt (length_pieces_lt escape)

theorem unquote_plain (plain : '\\' ∉ raw) : unquote raw = raw := by
  rw [unquote]
  induction raw with
  | nil => rfl
  | cons c rest ih =>
    obtain ⟨first, others⟩ := not_or.mp (mt List.mem_cons.mpr plain)
    rw [pieces, if_neg (Ne.symm first), join, ih others]

/-- A literal that stands for as many runes as it has is not escaped anywhere. -/
theorem plain_of_length_unquote (same : raw.length ≤ (unquote raw).length) : '\\' ∉ raw :=
  fun escape => absurd (length_unquote_lt escape) (by omega)

end Unquote

inductive Kind where
  | null
  | boolean
  | number
  | string (value : String)
  | array
  | object
  deriving DecidableEq, Repr

/-- The scanner with the literal that it is in, the outermost value and its entries if it is an
object. -/
structure Outline where
  scanner : Scanner := ⟨.beginValue, []⟩
  raw : List Char := []
  key : String := ""
  top : Option Kind := none
  entries : List (String × Kind) := []
  deriving DecidableEq, Repr

namespace Outline

/-- A value stands alone, in an entry of the outermost object or deeper. -/
def put (o : Outline) (kind : Kind) : Outline :=
  match o.scanner.frames with
  | [] => { o with top := some kind }
  | [.objectValue] => { o with entries := o.entries ++ [(o.key, kind)] }
  | _ => o

/-- The closing quote. -/
def close (o : Outline) : Outline :=
  let text := String.ofList (unquote o.raw)
  if o.scanner.frames = [.objectKey] then { o with key := text }
  else if o.scanner.frames.head? = some .objectKey then o
  else o.put (.string text)

/-- The kind of a value other than a string that begins here. -/
def begins (s : Scanner) (c : Char) : Option Kind :=
  if (s.step = .beginValue ∨ s.step = .beginValueOrEmpty) ∧ !isSpace c then
    if c = '\x7b' then some .object
    else if c = '[' then some .array
    else if c = 'n' then some .null
    else if c = 't' ∨ c = 'f' then some .boolean
    else if c = ']' then none
    else some .number
  else none

/-- What is noted of a rune after which the scanner is in this step. -/
def note (o : Outline) (c : Char) (after : Step) : Outline :=
  if o.scanner.step.quoted then
    if after.quoted then { o with raw := o.raw ++ [c] } else o.close
  else if after.quoted then { o with raw := [] }
  else (begins o.scanner c).elim o o.put

def next (o : Outline) (c : Char) : Option Outline :=
  (o.scanner.next c).map fun after => { o.note c after.step with scanner := after }

def run (o : Outline) (text : List Char) : Option Outline := text.foldlM next o

end Outline

/-- The outline of a text that is valid. -/
def outline (text : List Char) : Except Error Outline :=
  match Outline.run {} text with
  | none => .error "invalid character"
  | some o => if o.scanner.eof then .ok o else .error "unexpected end of JSON input"

section Unmarshal
variable {σ : Type}

structure StringField (σ : Type) where
  name : String
  set : String → σ → σ

/-- Letters that differ in case only. Two more letters fold to those of the English alphabet. -/
def fold (c : Char) : Char := if c = '\u017F' then 's' else if c = '\u212A' then 'k' else c.toLower

def sameFold (name key : String) : Bool := name.toList.map fold = key.toList.map fold

def findField (fields : List (StringField σ)) (key : String) : Option (StringField σ) :=
  (fields.find? fun f => f.name = key).or (fields.find? fun f => sameFold f.name key)

def Kind.text : Kind → String
  | .null => "null"
  | .boolean => "bool"
  | .number => "number"
  | .string _ => "string"
  | .array => "array"
  | .object => "object"

/-- Of the entries that do not fit, the first is told. -/
def store (fields : List (StringField σ)) : σ × Option Error → String × Kind → σ × Option Error
  | (s, error), (key, kind) =>
    match findField fields key with
    | none => (s, error)
    | some f =>
      match kind with
      | .string value => (f.set value s, error)
      | .null => (s, error)
      | kind =>
        (s, error.or (some s!"json: cannot unmarshal {kind.text} into Go struct field .{f.name} of type string"))

/-- Into a struct of strings, which has no name. -/
def unmarshal (fields : List (StringField σ)) (type : String) (data : List UInt8) (prior : σ) :
    Except Error σ := do
  let o ← outline (runes data)
  match o.top with
  | some .object =>
    match o.entries.foldl (store fields) (prior, none) with
    | (s, none) => return s
    | (_, some error) => throw error
  | some .null => return prior
  | some kind => throw s!"json: cannot unmarshal {kind.text} into Go value of type {type}"
  | none => throw "unexpected end of JSON input"

theorem outline_eq_ok {o : Outline} :
    outline text = .ok o ↔ Outline.run {} text = some o ∧ o.scanner.eof = true := by
  rw [outline]
  cases Outline.run {} text with
  | none => simp
  | some o' =>
    by_cases ended : o'.scanner.eof = true
    · simp only [ended, if_true, Except.ok.injEq, Option.some.injEq]
      exact ⟨fun same => ⟨same, same ▸ ended⟩, fun same => same.1⟩
    · simp only [ended, if_false, reduceCtorEq, Option.some.injEq, false_iff, Bool.false_eq_true]
      rintro ⟨rfl, other⟩
      exact ended other

theorem unmarshal_eq_ok {type : String} {data : List UInt8} {prior s : σ} :
    unmarshal fields type data prior = .ok s ↔ ∃ o, outline (runes data) = .ok o ∧
      ((o.top = some .object ∧ o.entries.foldl (store fields) (prior, none) = (s, none)) ∨
        (o.top = some .null ∧ s = prior)) := by
  rw [unmarshal, bind_eq_ok]
  refine exists_congr fun o => and_congr_right fun _ => ?_
  split
  · rename_i object
    simp only [object, true_and, reduceCtorEq, Option.some.injEq, false_and, or_false]
    split <;> simp_all [pure, Except.pure, throw, throwThe, MonadExceptOf.throw]
  · rename_i null
    simp [null, pure, Except.pure, eq_comm]
  · simp_all [throw, throwThe, MonadExceptOf.throw]
  · simp_all [throw, throwThe, MonadExceptOf.throw]

end Unmarshal

end Go.JsonText
