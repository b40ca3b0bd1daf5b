import Mathlib.Logic.Function.Basic
import Mathlib.Tactic.Common

/-! The part of the POSIX shell that reads a file of exports: how characters become commands, and
what the commands store. A text that leaves this part is refused where it does. -/
namespace Shell

inductive Refusal
  | nul
  | expansion
  | operator
  | unterminated
  | command
  | identifier
  deriving DecidableEq

/-- A part of a word. The quotes around it tell what is removed from it. -/
inductive Segment
  | bare (text : List Char)
  | escaped (c : Char)
  | single (text : List Char)
  | double (text : List Char)
  deriving DecidableEq

abbrev Word := List Segment

abbrev Command := List Word

section Lexer

inductive Mode
  | bare
  | escape
  | comment
  | single
  | double
  | doubleEscape
  deriving DecidableEq

/-- The open segment, the open word and the open command before it, and the commands that have
ended. -/
structure Lexer where
  mode : Mode
  text : List Char
  word : Word
  words : Command
  commands : List Command

namespace Lexer

def start : Lexer := ⟨.bare, [], [], [], []⟩

def push (l : Lexer) (c : Char) : Lexer := { l with text := l.text ++ [c] }

def closeBare (l : Lexer) : Lexer :=
  if l.text = [] then l else { l with text := [], word := l.word ++ [.bare l.text] }

def enter (l : Lexer) (mode : Mode) : Lexer := { l.closeBare with mode }

def leave (l : Lexer) (segment : List Char → Segment) : Lexer :=
  { l with mode := .bare, text := [], word := l.word ++ [segment l.text] }

def endWord (l : Lexer) : Lexer :=
  let l := l.closeBare
  if l.word = [] then l else { l with word := [], words := l.words ++ [l.word] }

def endCommand (l : Lexer) : Lexer :=
  let l := l.endWord
  if l.words = [] then l else { l with words := [], commands := l.commands ++ [l.words] }

def operators : List Char := ['|', '&', ';', '<', '>', '(', ')']

/-- Outside of quotes, a pattern, a tilde and a brace are expanded as well. -/
def expansions : List Char := ['$', '\x60', '*', '?', '[', '~', '\x7b']

def bare (l : Lexer) (c : Char) : Except Refusal Lexer :=
  if c = ' ' ∨ c = '\t' then .ok l.endWord
  else if c = '\n' then .ok l.endCommand
  else if c = '"' then .ok (l.enter .double)
  else if c = '\'' then .ok (l.enter .single)
  else if c = '\\' then .ok (l.enter .escape)
  else if c = '#' ∧ l.text = [] ∧ l.word = [] then .ok (l.enter .comment)
  else if c ∈ operators then .error .operator
  else if c ∈ expansions then .error .expansion
  else .ok (l.push c)

/-- Inside double quotes, only a quote and the start of an expansion end the text. What a backslash
protects is decided when it is removed. -/
def double (l : Lexer) (c : Char) : Except Refusal Lexer :=
  if c = '"' then .ok (l.leave .double)
  else if c = '\\' then .ok { l.push c with mode := .doubleEscape }
  else if c = '$' ∨ c = '\x60' then .error .expansion
  else .ok (l.push c)

def step (l : Lexer) (c : Char) : Except Refusal Lexer :=
  if c = '\x00' then .error .nul
  else match l.mode with
    | .bare => l.bare c
    | .escape => .ok { l with mode := .bare, word := if c = '\n' then l.word
      else l.word ++ [.escaped c] }
    | .comment => .ok (if c = '\n' then { l.endCommand with mode := .bare } else l)
    | .single => .ok (if c = '\'' then l.leave .single else l.push c)
    | .double => l.double c
    | .doubleEscape => .ok { l.push c with mode := .double }

def finish (l : Lexer) : Except Refusal (List Command) :=
  if l.mode = .bare ∨ l.mode = .comment then .ok l.endCommand.commands else .error .unterminated

end Lexer

def lex (text : List Char) : Except Refusal (List Command) :=
    text.foldlM Lexer.step .start >>= Lexer.finish

end Lexer

section Source

/-- What a backslash is removed from, between double quotes. -/
def escapable : List Char := ['$', '\x60', '"', '\\']

def unescape : List Char → List Char
  | '\\' :: c :: rest =>
    if c ∈ escapable then c :: unescape rest
    else if c = '\n' then unescape rest
    else '\\' :: c :: unescape rest
  | c :: rest => c :: unescape rest
  | [] => []

def Segment.value : Segment → List Char
  | .bare text | .single text => text
  | .escaped c => [c]
  | .double text => unescape text

/-- Quote removal. -/
def Word.value (word : Word) : List Char := word.flatMap Segment.value

def nameStart (c : Char) : Bool := c.isAlpha || c = '_'

def nameChar (c : Char) : Bool := c.isAlphanum || c = '_'

def isName : List Char → Bool
  | [] => false
  | c :: rest => nameStart c && rest.all nameChar

abbrev Bindings := String → Option String

/-- An argument of `export`; without a value the variable keeps the one it has. -/
def assign (env : Bindings) (argument : List Char) : Except Refusal Bindings :=
  let name := argument.takeWhile (· ≠ '=')
  if isName name then
    match argument.dropWhile (· ≠ '=') with
    | [] => .ok env
    | _ :: value => .ok (Function.update env (String.ofList name) (some (String.ofList value)))
  else .error .identifier

def execute (env : Bindings) (command : Command) : Except Refusal Bindings :=
  match command.map Word.value with
  | [] => .ok env
  | name :: arguments => if name = "export".toList then arguments.foldlM assign env
    else .error .command

def source (text : List Char) (env : Bindings) : Except Refusal Bindings := do
  (← lex text).foldlM execute env

end Source

/-- A text that does not end the double quotes it stands in. -/
inductive Body : List Char → Prop
  | nil : Body []
  | char {c : Char} {text : List Char} (present : c ≠ '\x00') (plain : c ∉ escapable)
    (rest : Body text) : Body (c :: text)
  | escape {c : Char} {text : List Char} (present : c ≠ '\x00') (rest : Body text) :
    Body ('\\' :: c :: text)

section Reading
variable {c : Char} {opened text first rest : List Char} {word : Word} {words : Command}
    {commands : List Command}

/-- What has a meaning outside of quotes. -/
def reserved : List Char :=
  ['\x00', ' ', '\t', '\n', '"', '\'', '\\', '#'] ++ Lexer.operators ++ Lexer.expansions

theorem step_bare (plain : c ∉ reserved) :
    Lexer.step ⟨.bare, opened, word, words, commands⟩ c =
      .ok ⟨.bare, opened ++ [c], word, words, commands⟩ := by
  simp only [reserved, List.mem_append, List.mem_cons, List.not_mem_nil, or_false, not_or] at plain
  simp [Lexer.step, Lexer.bare, Lexer.push, plain]

theorem step_blank (present : opened ≠ []) : Lexer.step ⟨.bare, opened, word, words, commands⟩ ' ' =
    .ok ⟨.bare, [], [], words ++ [word ++ [.bare opened]], commands⟩ := by
  simp [Lexer.step, Lexer.bare, Lexer.endWord, Lexer.closeBare, present]

theorem step_open (present : opened ≠ []) : Lexer.step ⟨.bare, opened, word, words, commands⟩ '"' =
    .ok ⟨.double, [], word ++ [.bare opened], words, commands⟩ := by
  simp [Lexer.step, Lexer.bare, Lexer.enter, Lexer.closeBare, present]

theorem step_close : Lexer.step ⟨.double, opened, word, words, commands⟩ '"' =
    .ok ⟨.bare, [], word ++ [.double opened], words, commands⟩ := rfl

theorem step_newline (present : word ≠ []) : Lexer.step ⟨.bare, [], word, words, commands⟩ '\n' =
    .ok ⟨.bare, [], [], [], commands ++ [words ++ [word]]⟩ := by
  simp [Lexer.step, Lexer.bare, Lexer.endCommand, Lexer.endWord, Lexer.closeBare, present]

theorem foldlM_step {l next : Lexer} (stepped : l.step c = .ok next) :
    (c :: text).foldlM Lexer.step l = text.foldlM Lexer.step next := by
  rw [List.foldlM_cons, stepped]
  rfl

theorem foldlM_text {l next : Lexer} (ran : first.foldlM Lexer.step l = .ok next) :
    (first ++ rest).foldlM Lexer.step l = rest.foldlM Lexer.step next := by
  rw [List.foldlM_append, ran]
  rfl

theorem foldlM_bare (plain : ∀ c ∈ text, c ∉ reserved) :
    text.foldlM Lexer.step ⟨.bare, opened, word, words, commands⟩ =
      .ok ⟨.bare, opened ++ text, word, words, commands⟩ := by
  induction text generalizing opened with
  | nil => rw [List.append_nil]; rfl
  | cons c text ih =>
    obtain ⟨here, plain⟩ := List.forall_mem_cons.mp plain
    rw [foldlM_step (step_bare here), ih plain, List.append_assoc, List.singleton_append]

theorem Body.append (body : Body first) (next : Body rest) : Body (first ++ rest) := by
  induction body with
  | nil => exact next
  | char present plain _ ih => exact .char present plain ih
  | escape present _ ih => exact .escape present ih

theorem step_double (present : c ≠ '\x00') (plain : c ∉ escapable) :
    Lexer.step ⟨.double, opened, word, words, commands⟩ c =
      .ok ⟨.double, opened ++ [c], word, words, commands⟩ := by
  simp only [escapable, List.mem_cons, List.not_mem_nil, or_false, not_or] at plain
  simp [Lexer.step, Lexer.double, Lexer.push, present, plain]

theorem foldlM_double (body : Body text) :
    text.foldlM Lexer.step ⟨.double, opened, word, words, commands⟩ =
      .ok ⟨.double, opened ++ text, word, words, commands⟩ := by
  induction body generalizing opened with
  | nil => rw [List.append_nil]; rfl
  | char present plain _ ih =>
    rw [foldlM_step (step_double present plain), ih, List.append_assoc, List.singleton_append]
  | @escape c _ present _ ih =>
    have backslash : Lexer.step ⟨.double, opened, word, words, commands⟩ '\\' =
      .ok ⟨.doubleEscape, opened ++ ['\\'], word, words, commands⟩ := rfl
    have protect : Lexer.step ⟨.doubleEscape, opened ++ ['\\'], word, words, commands⟩ c =
      .ok ⟨.double, opened ++ ['\\'] ++ [c], word, words, commands⟩ := if_neg present
    rw [foldlM_step backslash, foldlM_step protect, ih, List.append_assoc, List.append_assoc]
    rfl

theorem unescape_append (body : Body first) :
    unescape (first ++ rest) = unescape first ++ unescape rest := by
  induction body with
  | nil => rfl
  | @char c _ _ plain _ ih =>
    have other : c ≠ '\\' := fun same => plain (same ▸ by decide)
    rw [List.cons_append, unescape.eq_2 _ _ (fun _ _ same _ => other same), ih,
      unescape.eq_2 _ _ (fun _ _ same _ => other same)]
    rfl
  | escape present _ ih =>
    rw [List.cons_append, List.cons_append, unescape, unescape, ih]
    split_ifs <;> rfl

end Reading
end Shell
