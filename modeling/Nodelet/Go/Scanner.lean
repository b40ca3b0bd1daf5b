import Nodelet.Go.Program
import Mathlib.Tactic.Common

/-! The scanner of JSON texts, which reads one rune at a time and knows which objects and arrays are
open. -/
namespace Go.JsonText

/-- An object before the colon of an entry and after it, or an array. -/
inductive Frame where
  | objectKey
  | objectValue
  | arrayValue
  deriving DecidableEq, Repr

inductive Word where
  | truth
  | falsity
  | null
  deriving DecidableEq, Repr

def Word.text : Word → List Char
  | .truth => ['t', 'r', 'u', 'e']
  | .falsity => ['f', 'a', 'l', 's', 'e']
  | .null => ['n', 'u', 'l', 'l']

/-- What the scanner is about to read. -/
inductive Step where
  | beginValue
  | beginValueOrEmpty
  | beginString
  | beginStringOrEmpty
  | endValue
  | endTop
  | inString
  | inStringEsc
  | inStringEscU (digits : Nat)
  | neg
  | one
  | zero
  | dot
  | dot0
  | exponent
  | exponentSign
  | exponent0
  | word (word : Word) (read : Nat)
  deriving DecidableEq, Repr

structure Scanner where
  step : Step
  frames : List Frame
  deriving DecidableEq, Repr

def isSpace (c : Char) : Bool := c = ' ' ∨ c = '\t' ∨ c = '\r' ∨ c = '\n'

def isDigit (c : Char) : Bool := '0' ≤ c ∧ c ≤ '9'

def isHex (c : Char) : Bool := isDigit c ∨ ('a' ≤ c ∧ c ≤ 'f') ∨ ('A' ≤ c ∧ c ≤ 'F')

namespace Scanner

/-- After the object or array that stood in these frames. -/
def pop : List Frame → Scanner
  | [] => ⟨.endTop, []⟩
  | frame :: rest => ⟨.endValue, frame :: rest⟩

def endValue (c : Char) : List Frame → Option Scanner
  | [] => if isSpace c then some ⟨.endTop, []⟩ else none
  | frame :: rest =>
    if isSpace c then some ⟨.endValue, frame :: rest⟩
    else match frame with
      | .objectKey => if c = ':' then some ⟨.beginValue, .objectValue :: rest⟩ else none
      | .objectValue =>
        if c = ',' then some ⟨.beginString, .objectKey :: rest⟩ else if c = '\x7d' then some (pop rest) else none
      | .arrayValue =>
        if c = ',' then some ⟨.beginValue, .arrayValue :: rest⟩ else if c = ']' then some (pop rest) else none

def beginValue (c : Char) (frames : List Frame) : Option Scanner :=
  if isSpace c then some ⟨.beginValue, frames⟩
  else if c = '"' then some ⟨.inString, frames⟩
  else if c = '\x7b' then some ⟨.beginStringOrEmpty, .objectKey :: frames⟩
  else if c = '[' then some ⟨.beginValueOrEmpty, .arrayValue :: frames⟩
  else if c = '-' then some ⟨.neg, frames⟩
  else if c = '0' then some ⟨.zero, frames⟩
  else if c = 't' then some ⟨.word .truth 1, frames⟩
  else if c = 'f' then some ⟨.word .falsity 1, frames⟩
  else if c = 'n' then some ⟨.word .null 1, frames⟩
  else if isDigit c then some ⟨.one, frames⟩
  else none

def beginString (c : Char) (frames : List Frame) : Option Scanner :=
  if isSpace c then some ⟨.beginString, frames⟩ else if c = '"' then some ⟨.inString, frames⟩
    else none

/-- After the digits of a number that may end here. -/
def fraction (c : Char) (frames : List Frame) : Option Scanner :=
  if c = '.' then some ⟨.dot, frames⟩ else if c = 'e' ∨ c = 'E' then some ⟨.exponent, frames⟩
    else endValue c frames

def exponentSign (c : Char) (frames : List Frame) : Option Scanner :=
  if isDigit c then some ⟨.exponent0, frames⟩ else none

def next (s : Scanner) (c : Char) : Option Scanner :=
  match s.step with
  | .beginValue => beginValue c s.frames
  | .beginValueOrEmpty =>
    if isSpace c then some s else if c = ']' then endValue c s.frames else beginValue c s.frames
  | .beginString => beginString c s.frames
  | .beginStringOrEmpty =>
    if isSpace c then some s else if c = '\x7d' then some (pop s.frames.tail)
      else beginString c s.frames
  | .endValue => endValue c s.frames
  | .endTop => if isSpace c then some s else none
  | .inString =>
    if c = '"' then some ⟨.endValue, s.frames⟩
    else if c = '\\' then some ⟨.inStringEsc, s.frames⟩
    else if c < ' ' then none
    else some s
  | .inStringEsc =>
    if c ∈ ['b', 'f', 'n', 'r', 't', '\\', '/', '"'] then some ⟨.inString, s.frames⟩
    else if c = 'u' then some ⟨.inStringEscU 0, s.frames⟩
    else none
  | .inStringEscU digits =>
    if isHex c then some ⟨if digits = 3 then .inString else .inStringEscU (digits + 1), s.frames⟩
      else none
  | .neg => if c = '0' then some ⟨.zero, s.frames⟩ else if isDigit c then some ⟨.one, s.frames⟩
    else none
  | .one => if isDigit c then some s else fraction c s.frames
  | .zero => fraction c s.frames
  | .dot => if isDigit c then some ⟨.dot0, s.frames⟩ else none
  | .dot0 =>
    if isDigit c then some s else if c = 'e' ∨ c = 'E' then some ⟨.exponent, s.frames⟩
      else endValue c s.frames
  | .exponent => if c = '+' ∨ c = '-' then some ⟨.exponentSign, s.frames⟩
    else exponentSign c s.frames
  | .exponentSign => exponentSign c s.frames
  | .exponent0 => if isDigit c then some s else endValue c s.frames
  | .word word read =>
    if word.text[read]? = some c then
      some ⟨if read + 1 = word.text.length then .endValue else .word word (read + 1), s.frames⟩
    else none

def run (s : Scanner) (text : List Char) : Option Scanner := text.foldlM next s

/-- The text may end here, which is as if a space came. -/
def eof (s : Scanner) : Bool := s.step = .endTop ∨ (s.next ' ').map step = some .endTop

end Scanner

/-- Inside a string literal. -/
def Step.quoted : Step → Bool
  | .inString | .inStringEsc | .inStringEscU _ => true
  | _ => false

/-- A value or a key may begin. -/
def Step.begins : Step → Bool
  | .beginValue | .beginValueOrEmpty | .beginString | .beginStringOrEmpty => true
  | _ => false

/-- An object is open in which an entry has no value yet. -/
def Step.keyed : Step → Bool
  | .beginString | .beginStringOrEmpty | .endValue | .inString | .inStringEsc | .inStringEscU _ =>
    true
  | _ => false

variable {step : Step}

theorem Step.keyed_of_quoted (quoted : step.quoted = true) : step.keyed = true := by
  cases step <;> simp_all [Step.keyed, Step.quoted]

theorem Step.quoted_of_keyed (unkeyed : step.keyed = false) : step.quoted = false := by
  cases quoted : step.quoted with
  | false => rfl
  | true => rw [← unkeyed, keyed_of_quoted quoted]

namespace Scanner

/-- What one rune can do. -/
inductive Moves (s : Scanner) (c : Char) : Scanner → Prop where
  | opens (begins : s.step.begins = true) (quote : c = '"') : Moves s c ⟨.inString, s.frames⟩
  | within {step : Step} (quoted : s.step.quoted = true) (still : step.quoted = true) :
    Moves s c ⟨step, s.frames⟩
  | closes (quoted : s.step = .inString) (quote : c = '"') : Moves s c ⟨.endValue, s.frames⟩
  | skips (unquoted : s.step.quoted = false) : Moves s c s
  | value {step : Step} (unkeyed : s.step.keyed = false) (unquoted : step.quoted = false)
    (begun : step.begins = false) :
      Moves s c ⟨step, s.frames⟩
  | colon (unquoted : s.step.quoted = false) (string : s.step ≠ .beginString)
    (first : s.step ≠ .beginStringOrEmpty)
      (frames : s.frames = .objectKey :: rest) : Moves s c ⟨.beginValue, .objectValue :: rest⟩
  | comma (unquoted : s.step.quoted = false) (frames : s.frames = .objectValue :: rest) :
      Moves s c ⟨.beginString, .objectKey :: rest⟩
  | element (unquoted : s.step.quoted = false) (frames : s.frames = .arrayValue :: rest) :
      Moves s c ⟨.beginValue, .arrayValue :: rest⟩
  | object (unkeyed : s.step.keyed = false) :
    Moves s c ⟨.beginStringOrEmpty, .objectKey :: s.frames⟩
  | array (unkeyed : s.step.keyed = false) : Moves s c ⟨.beginValueOrEmpty, .arrayValue :: s.frames⟩
  | pops (unquoted : s.step.quoted = false) : Moves s c (pop s.frames.tail)
  | top (unquoted : s.step.quoted = false) : Moves s c ⟨.endTop, []⟩

variable {s s' : Scanner} {c : Char} {frames : List Frame}

theorem Moves.of_endValue (unquoted : s.step.quoted = false) (string : s.step ≠ .beginString)
    (first : s.step ≠ .beginStringOrEmpty) (moved : endValue c s.frames = some s') :
    Moves s c s' := by
  obtain ⟨step, frames⟩ := s
  dsimp only at unquoted string first moved
  have space : Moves ⟨step, frames⟩ c ⟨.endValue, frames⟩ := by
    by_cases ended : step = .endValue
    · rw [ended]
      exact .skips rfl
    · refine .value ?_ rfl rfl
      cases step <;> simp_all [Step.keyed, Step.quoted]
  cases frames with
  | nil =>
    rw [endValue] at moved
    split_ifs at moved
    cases moved
    exact .top unquoted
  | cons frame rest =>
    cases frame <;> dsimp only [endValue] at moved <;> split_ifs at moved <;> cases moved
    · exact space
    · exact .colon unquoted string first rfl
    · exact space
    · exact .comma unquoted rfl
    · exact .pops unquoted
    · exact space
    · exact .element unquoted rfl
    · exact .pops unquoted

theorem Moves.of_beginValue (unkeyed : step.keyed = false) (begins : step.begins = true)
    (spaces : step = .beginValue ∨ isSpace c = false) (moved : beginValue c frames = some s') :
    Moves ⟨step, frames⟩ c s' := by
  rw [beginValue] at moved
  by_cases space : isSpace c = true
  · rw [if_pos space] at moved
    cases moved
    obtain rfl := spaces.resolve_right (by simp [space])
    exact .skips rfl
  rw [if_neg space] at moved
  by_cases quote : c = '"'
  · rw [if_pos quote] at moved
    cases moved
    exact .opens begins quote
  rw [if_neg quote] at moved
  split at moved
  · cases moved
    exact .object unkeyed
  split at moved
  · cases moved
    exact .array unkeyed
  -- a number or a word
  repeat' split at moved
  all_goals cases moved
  all_goals exact .value unkeyed rfl rfl

theorem Moves.of_beginString (begins : step.begins = true)
    (spaces : step = .beginString ∨ isSpace c = false) (moved : beginString c frames = some s') :
    Moves ⟨step, frames⟩ c s' := by
  rw [beginString] at moved
  split_ifs at moved with space quote <;> cases moved
  · obtain rfl := spaces.resolve_right (by simp [space])
    exact .skips rfl
  · exact .opens begins quote

theorem Moves.of_fraction (unkeyed : step.keyed = false) (begun : step.begins = false)
    (moved : fraction c frames = some s') : Moves ⟨step, frames⟩ c s' := by
  rw [fraction] at moved
  split_ifs at moved
  · cases moved
    exact .value unkeyed rfl rfl
  · cases moved
    exact .value unkeyed rfl rfl
  · exact .of_endValue (Step.quoted_of_keyed unkeyed) (by rintro rfl; contradiction)
      (by rintro rfl; contradiction) moved

theorem Moves.of_exponentSign (unkeyed : step.keyed = false)
    (moved : exponentSign c frames = some s') : Moves ⟨step, frames⟩ c s' := by
  rw [exponentSign] at moved
  split_ifs at moved
  cases moved
  exact .value unkeyed rfl rfl

theorem moves_of_next (moved : s.next c = some s') : Moves s c s' := by
  obtain ⟨step, frames⟩ := s
  cases step <;> dsimp only [next] at moved
  case beginValue => exact .of_beginValue rfl rfl (.inl rfl) moved
  case beginValueOrEmpty =>
    split_ifs at moved with space bracket
    · cases moved
      exact .skips rfl
    · exact .of_endValue rfl nofun nofun moved
    · exact .of_beginValue rfl rfl (.inr (by simpa using space)) moved
  case beginString => exact .of_beginString rfl (.inl rfl) moved
  case beginStringOrEmpty =>
    split_ifs at moved with space brace
    · cases moved
      exact .skips rfl
    · cases moved
      exact .pops rfl
    · exact .of_beginString rfl (.inr (by simpa using space)) moved
  case endValue => exact .of_endValue rfl nofun nofun moved
  case endTop =>
    split_ifs at moved
    cases moved
    exact .skips rfl
  case inString =>
    split_ifs at moved with quote <;> cases moved
    · exact .closes rfl quote
    · exact .within rfl rfl
    · exact .within rfl rfl
  case inStringEsc => split_ifs at moved <;> cases moved <;> exact .within rfl rfl
  case inStringEscU digits =>
    split_ifs at moved <;> cases moved <;> exact .within rfl rfl
  case one =>
    split_ifs at moved
    · cases moved
      exact .skips rfl
    · exact .of_fraction rfl rfl moved
  case zero => exact .of_fraction rfl rfl moved
  case dot0 =>
    split_ifs at moved
    · cases moved
      exact .skips rfl
    · cases moved
      exact .value rfl rfl rfl
    · exact .of_endValue rfl nofun nofun moved
  case exponent =>
    split_ifs at moved
    · cases moved
      exact .value rfl rfl rfl
    · exact .of_exponentSign rfl moved
  case exponentSign => exact .of_exponentSign rfl moved
  case exponent0 =>
    split_ifs at moved
    · cases moved
      exact .skips rfl
    · exact .of_endValue rfl nofun nofun moved
  -- the rest of a word, a sign or a point of a number
  all_goals split_ifs at moved <;> cases moved <;> exact .value rfl rfl rfl

theorem Moves.of_quoted (moves : Moves s c s') (quoted : s.step.quoted = true) :
    (s'.step.quoted = true ∧ s'.frames = s.frames) ∨
      (s.step = .inString ∧ c = '"' ∧ s' = ⟨.endValue, s.frames⟩) := by
  have absurdUnkeyed : s.step.keyed ≠ false := fun unkeyed => by
    simp [Step.quoted_of_keyed unkeyed] at quoted
  cases moves with
  | within _ still => exact .inl ⟨still, rfl⟩
  | closes here quote => exact .inr ⟨here, quote, rfl⟩
  | opens begins =>
    revert begins quoted
    cases s.step <;> simp [Step.begins, Step.quoted]
  | value unkeyed | object unkeyed | array unkeyed => contradiction
  | _ => simp_all

theorem Moves.of_unquoted (moves : Moves s c s') (unquoted : s.step.quoted = false)
    (quoted : s'.step.quoted = true) : s.step.begins = true ∧ s' = ⟨.inString, s.frames⟩ := by
  cases moves with
  | opens begins => exact ⟨begins, rfl⟩
  | within here => simp [here] at unquoted
  | pops =>
    cases rest : s.frames.tail <;> simp [rest, pop, Step.quoted] at quoted
  | _ => simp_all [Step.quoted]

/-- Only the innermost object can be before a colon, and no value is read there. -/
structure Reachable (s : Scanner) : Prop where
  inner : .objectKey ∉ s.frames.tail
  key : s.frames.head? = some .objectKey → s.step.keyed = true

theorem Reachable.value (reachable : s.Reachable) (unkeyed : s.step.keyed = false) :
    .objectKey ∉ s.frames := by
  intro member
  cases frames : s.frames with
  | nil => simp [frames] at member
  | cons frame rest =>
    rw [frames] at member
    obtain rfl | later := List.mem_cons.mp member
    · simpa [unkeyed] using reachable.key (by rw [frames]; rfl)
    · exact reachable.inner (by simpa [frames] using later)

theorem Reachable.moves (reachable : s.Reachable) (moves : Moves s c s') : s'.Reachable := by
  have inner := reachable.inner
  have key := reachable.key
  cases moves with
  | opens => exact ⟨inner, fun _ => rfl⟩
  | within quoted still => exact ⟨inner, fun _ => Step.keyed_of_quoted still⟩
  | closes => exact ⟨inner, fun _ => rfl⟩
  | skips => exact reachable
  | value unkeyed =>
    exact ⟨inner, fun head => absurd (key head) (by simp [unkeyed])⟩
  | colon unquoted string first frames =>
    rw [frames] at inner
    exact ⟨inner, nofun⟩
  | comma unquoted frames =>
    rw [frames] at inner
    exact ⟨inner, fun _ => rfl⟩
  | element unquoted frames =>
    rw [frames] at inner
    exact ⟨inner, nofun⟩
  | object unkeyed => exact ⟨reachable.value unkeyed, fun _ => rfl⟩
  | array unkeyed => exact ⟨reachable.value unkeyed, nofun⟩
  | pops unquoted =>
    cases rest : s.frames.tail with
    | nil => exact ⟨nofun, nofun⟩
    | cons frame rest' =>
      rw [rest] at inner
      exact ⟨fun member => inner (List.mem_cons_of_mem _ member), fun _ => rfl⟩
  | top => exact ⟨nofun, nofun⟩

/-- After a value there is a space or one of four signs. -/
theorem endValue_eq_none (space : isSpace c = false) (sign : c ∉ [':', ',', '\x7d', ']']) :
    endValue c frames = none := by
  simp only [List.mem_cons, List.not_mem_nil, or_false, not_or] at sign
  obtain ⟨colon, comma, brace, bracket⟩ := sign
  cases frames with
  | nil => simp [endValue, space]
  | cons frame rest => cases frame <;> simp [endValue, space, colon, comma, brace, bracket]

/-- Outside a string literal a quote can only open one. -/
theorem next_quote (unquoted : s.step.quoted = false) (moved : s.next '"' = some s') :
    s' = ⟨.inString, s.frames⟩ := by
  obtain ⟨step, frames⟩ := s
  have ended : endValue '"' frames = none := endValue_eq_none rfl (by decide)
  cases step with
  | beginValue | beginValueOrEmpty | beginString | beginStringOrEmpty =>
    exact (Option.some.inj moved).symm
  | inString | inStringEsc | inStringEscU => contradiction
  | word word read =>
    have other : word.text[read]? ≠ some '"' := fun same => by
      have member := List.mem_of_getElem? same
      revert member
      cases word <;> decide
    simp [next, other] at moved
  | endTop | neg | dot | exponent | exponentSign => contradiction
  | endValue | one | zero | dot0 | exponent0 => exact absurd (ended.symm.trans moved) nofun

end Scanner
end Go.JsonText
