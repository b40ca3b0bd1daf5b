import Nodelet.Go.JsonText

/-! The value of a JSON text. It is read by the scanner, rune by rune, with the objects and arrays
that are open kept beside its frames. -/
namespace Go.JsonText

inductive Value where
  | null
  | bool (value : Bool)
  /-- The literal as it is written. -/
  | number (literal : String)
  | string (value : String)
  | array (items : List Value)
  | object (entries : List (String × Value))

def Word.value : Word → Value
  | .truth => .bool true
  | .falsity => .bool false
  | .null => .null

/-- Inside a number. -/
def Step.numeric : Step → Bool
  | .neg | .one | .zero | .dot | .dot0 | .exponent | .exponentSign | .exponent0 => true
  | _ => false

/-- An array or an object that is not closed yet, the latter with the key that was read last. -/
inductive Opened where
  | array (items : List Value)
  | object (entries : List (String × Value)) (key : String)

structure Reader where
  scanner : Scanner
  raw : List Char
  opened : List Opened
  top : Option Value

namespace Reader

def start : Reader := ⟨⟨.beginValue, []⟩, [], [], none⟩

/-- A value is complete. -/
def put (r : Reader) (value : Value) : Reader :=
  match r.opened with
  | [] => { r with top := some value }
  | .array items :: rest => { r with opened := .array (items ++ [value]) :: rest }
  | .object entries key :: rest =>
    { r with opened := .object (entries ++ [(key, value)]) key :: rest }

def setKey (r : Reader) (key : String) : Reader :=
  match r.opened with
  | .object entries _ :: rest => { r with opened := .object entries key :: rest }
  | _ => r

/-- The quote that closes a string literal. -/
def close (r : Reader) : Reader :=
  let text := String.ofList (unquote r.raw)
  if r.scanner.frames.head? = some .objectKey then r.setKey text else r.put (.string text)

/-- A number has no rune of its own that ends it. -/
def endNumber (r : Reader) : Reader :=
  if r.scanner.step.numeric then r.put (.number (String.ofList r.raw)) else r

/-- The bracket that closes an array or an object. -/
def shut (r : Reader) : Reader :=
  match r.opened with
  | [] => r
  | .array items :: rest => { r with opened := rest }.put (.array items)
  | .object entries _ :: rest => { r with opened := rest }.put (.object entries)

def bracket (r : Reader) (c : Char) : Reader :=
  if c = '\x7b' then { r with opened := .object [] "" :: r.opened }
  else if c = '[' then { r with opened := .array [] :: r.opened }
  else if c = '\x7d' ∨ c = ']' then r.shut
  else r

/-- What a rune does after which the scanner is in this step. -/
def note (r : Reader) (c : Char) (after : Step) : Reader :=
  if r.scanner.step.quoted then
    if after.quoted then { r with raw := r.raw ++ [c] } else r.close
  else if after.quoted then { r with raw := [] }
  else match r.scanner.step, after with
    | .word _ _, .word _ _ => r
    | .word word _, _ => r.put word.value
    | step, _ =>
      if after.numeric then { r with raw := (if step.numeric then r.raw else []) ++ [c] } else r.endNumber.bracket c

def next (r : Reader) (c : Char) : Option Reader :=
  (r.scanner.next c).map fun after => { r.note c after.step with scanner := after }

def run (r : Reader) (text : List Char) : Option Reader := text.foldlM next r

end Reader

/-- The value of a text, if that is valid. -/
def parse (text : List Char) : Option Value :=
  match Reader.start.run text with
  | none => none
  | some r => if r.scanner.eof then r.endNumber.top else none

example : parse "null".toList = some .null := rfl

end Go.JsonText
