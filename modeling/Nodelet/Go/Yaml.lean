import Nodelet.Go.Map
import Nodelet.Go.Program
import Mathlib.Data.Finset.Sort
import Mathlib.Data.String.Basic

/-! Mappings of strings as block-style YAML, one line a key. Simple words stay
plain, everything else is double-quoted. Reading skips comments and gives back the
mapping that was written. -/
namespace Go.Yaml

/-- Words that YAML would read as something other than a string. -/
def reserved : List String :=
  ["true", "false", "yes", "no", "on", "off", "y", "n", "null"]

def wordChar (c : Char) : Bool := c.isAlphanum || c = '_'

/-- A word that needs no quotes. -/
def plain (s : List Char) : Bool :=
  (match s with | c :: _ => c.isAlpha | [] => false) && s.all wordChar &&
    !reserved.contains (String.ofList (s.map Char.toLower))

def escape : List Char → List Char
  | [] => []
  | c :: rest =>
    if c = '"' then '\\' :: '"' :: escape rest
    else if c = '\\' then '\\' :: '\\' :: escape rest
    else if c = '\n' then '\\' :: 'n' :: escape rest
    else c :: escape rest

def scalar (s : List Char) : List Char :=
  if plain s then s else '"' :: escape s ++ ['"']

def line (entry : String × String) : List Char :=
  scalar entry.1.toList ++ ':' :: ' ' :: scalar entry.2.toList ++ ['\n']

/-- The rest of a double-quoted scalar, with what follows it. -/
def unquote : List Char → Option (List Char × List Char)
  | [] => none
  | c :: rest =>
    if c = '"' then some ([], rest)
    else if c = '\\' then
      match rest with
      | [] => none
      | e :: rest =>
        (unquote rest).map fun read => ((if e = 'n' then '\n' else e) :: read.1, read.2)
    else (unquote rest).map fun read => (c :: read.1, read.2)

def readScalar : List Char → Option (List Char × List Char)
  | '"' :: rest => unquote rest
  | text => some (text.takeWhile wordChar, text.dropWhile wordChar)

/-- One line of a mapping, with what follows it. -/
def readLine (text : List Char) : Option ((String × String) × List Char) :=
  match readScalar text with
  | some (key, ':' :: ' ' :: rest) =>
    match readScalar rest with
    | some (value, '\n' :: rest) => some ((String.ofList key, String.ofList value), rest)
    | _ => none
  | _ => none

/-- The lines of a text, at most as many as there is fuel. -/
def readLines : Nat → List Char → Option (List (String × String))
  | _, [] => some []
  | 0, _ :: _ => none
  | fuel + 1, c :: rest =>
    if c = '#' then readLines fuel ((rest.dropWhile (· ≠ '\n')).drop 1)
    else
      match readLine (c :: rest) with
      | some (entry, rest) => (readLines fuel rest).map (entry :: ·)
      | none => none

theorem unquote_escape (s rest : List Char) :
    unquote (escape s ++ '"' :: rest) = some (s, rest) := by
  induction s with
  | nil =>
    rw [escape, List.nil_append, unquote.eq_def]
    simp
  | cons c s ih =>
    unfold escape
    split_ifs with isQuote isBackslash isNewline
    · simp [unquote, ih, isQuote]
    · simp [unquote, ih, isBackslash]
    · simp [unquote, ih, isNewline]
    · rw [List.cons_append, unquote.eq_def]
      simp [ih, isQuote, isBackslash]

theorem plain_wordChar (simple : plain s = true) : s.all wordChar = true := by
  simp only [plain, Bool.and_eq_true] at simple
  exact simple.1.2

theorem plain_head (simple : plain s = true) : ∃ c rest, s = c :: rest ∧ c.isAlpha = true := by
  cases s with
  | nil => simp [plain] at simple
  | cons c rest =>
    simp only [plain, Bool.and_eq_true] at simple
    exact ⟨c, rest, rfl, simple.1.1⟩

/-- A scalar is read back up to a character that cannot belong to a word. -/
theorem readScalar_scalar (s : List Char) (ends : wordChar c = false) (rest : List Char) :
    readScalar (scalar s ++ c :: rest) = some (s, c :: rest) := by
  unfold scalar
  by_cases simple : plain s = true
  · have words := plain_wordChar simple
    obtain ⟨first, others, rfl, letter⟩ := plain_head simple
    rw [if_pos simple]
    have notQuote : first ≠ '"' := by
      rintro rfl
      contradiction
    have taken : ((first :: others) ++ c :: rest).takeWhile wordChar = first :: others := by
      rw [List.takeWhile_append_of_pos (by simpa using words)]
      simp [ends]
    have dropped : ((first :: others) ++ c :: rest).dropWhile wordChar = c :: rest := by
      rw [List.dropWhile_append_of_pos (by simpa using words)]
      simp [ends]
    unfold readScalar
    split
    · rename_i same
      exact absurd (List.cons.inj same).1 notQuote
    · rw [taken, dropped]
  · rw [if_neg simple]
    simp only [List.cons_append, List.append_assoc, List.nil_append, readScalar]
    exact unquote_escape s (c :: rest)

theorem readLine_line (entry : String × String) (rest : List Char) :
    readLine (line entry ++ rest) = some (entry, rest) := by
  have key := readScalar_scalar entry.1.toList (c := ':') (by decide)
    (' ' :: scalar entry.2.toList ++ '\n' :: rest)
  have value := readScalar_scalar entry.2.toList (c := '\n') (by decide) rest
  have text : line entry ++ rest =
      scalar entry.1.toList ++ ':' :: (' ' :: scalar entry.2.toList ++ '\n' :: rest) := by
    simp [line]
  rw [readLine, text, key]
  simp [value]

theorem line_head (entry : String × String) : ∃ c text, line entry = c :: text ∧ c ≠ '#' := by
  unfold line scalar
  by_cases simple : plain entry.1.toList = true
  · obtain ⟨c, rest, key, letter⟩ := plain_head simple
    rw [if_pos simple, key]
    refine ⟨c, _, rfl, ?_⟩
    rintro rfl
    contradiction
  · rw [if_neg simple]
    exact ⟨'"', _, rfl, by decide⟩

theorem readLines_lines (entries : List (String × String)) {fuel : Nat}
    (enough : entries.length ≤ fuel) : readLines fuel (entries.flatMap line) = some entries := by
  induction entries generalizing fuel with
  | nil => cases fuel <;> rfl
  | cons entry entries ih =>
    obtain ⟨c, text, first, notComment⟩ := line_head entry
    obtain ⟨fuel, rfl⟩ : ∃ n, fuel = n + 1 := ⟨fuel - 1, by simp at enough; omega⟩
    have read := readLine_line entry (entries.flatMap line)
    rw [first, List.cons_append] at read
    rw [List.flatMap_cons, first, List.cons_append, readLines, if_neg notComment, read]
    simp [ih (by simpa using enough)]

theorem length_le_lines (entries : List (String × String)) :
    entries.length ≤ (entries.flatMap line).length := by
  induction entries with
  | nil => simp
  | cons entry entries ih =>
    obtain ⟨c, text, first, _⟩ := line_head entry
    simp only [List.flatMap_cons, first, List.length_append, List.length_cons]
    omega

theorem readLines_comment (comment text : List Char) (oneLine : '\n' ∉ comment) (fuel : Nat) :
    readLines (fuel + 1) ('#' :: comment ++ '\n' :: text) = readLines fuel text := by
  have skipped : (comment ++ '\n' :: text).dropWhile (· ≠ '\n') = '\n' :: text := by
    have inside : ∀ c ∈ comment, decide (c ≠ '\n') = true := by
      intro c member
      have : c ≠ '\n' := fun same => oneLine (same ▸ member)
      simpa using this
    rw [List.dropWhile_append_of_pos inside]
    simp
  rw [List.cons_append, readLines, if_pos rfl, skipped]
  rfl

/-- The entries of a mapping by their keys. -/
def entries (m : Map String String) : List (String × String) :=
  ((Finmap.keys m).sort (· ≤ ·)).map fun key => (key, (m.lookup key).getD "")

def ofEntries (entries : List (String × String)) : Map String String :=
  Map.fillAbsent Prod.fst Prod.snd ∅ entries

theorem ofEntries_entries (m : Map String String) : ofEntries (entries m) = m := by
  apply Finmap.ext_lookup
  intro k
  rw [ofEntries, Map.lookup_fillAbsent, entries, List.find?_map, Finmap.lookup_empty,
    Option.none_or]
  cases found : m.lookup k with
  | none =>
    have absent : ∀ key ∈ (Finmap.keys m).sort (· ≤ ·), key ≠ k := by
      rintro key member rfl
      rw [Finset.mem_sort, Finmap.mem_keys] at member
      exact Finmap.lookup_eq_none.mp found member
    rw [List.find?_eq_none.mpr (by simpa using absent)]
    rfl
  | some v =>
    have present : k ∈ (Finmap.keys m).sort (· ≤ ·) := by
      rw [Finset.mem_sort, Finmap.mem_keys, Finmap.mem_iff]
      exact ⟨v, found⟩
    obtain ⟨key, first⟩ : ∃ key, ((Finmap.keys m).sort (· ≤ ·)).find? (fun key => decide (key = k)) = some key :=
      Option.isSome_iff_exists.mp (List.find?_isSome.mpr ⟨k, present, by simp⟩)
    have same : key = k := by simpa using List.find?_some first
    have composed :
      ((fun e : String × String => decide (e.1 = k)) ∘ fun key => (key, (m.lookup key).getD "")) =
        fun key => decide (key = k) := rfl
    rw [composed, first, same]
    simp [found]

def marshal (m : Map String String) : String := String.ofList ((entries m).flatMap line)

/-- A document without entries decodes to a nil map. -/
def unmarshal (text : String) : Except Error (Option (Map String String)) :=
  match readLines text.length text.toList with
  | some [] => .ok none
  | some entries => .ok (some (ofEntries entries))
  | none => .error "yaml: could not find expected ':'"

theorem unmarshal_marshal (m : Map String String) (nonempty : m ≠ ∅) (comment : String)
    (oneLine : '\n' ∉ comment.toList) :
    unmarshal ("#" ++ comment ++ "\n" ++ marshal m) = .ok (some m) := by
  have listed : entries m ≠ [] := by
    intro none
    apply nonempty
    rw [← ofEntries_entries m, none]
    rfl
  have text : ("#" ++ comment ++ "\n" ++ marshal m).toList =
      '#' :: comment.toList ++ '\n' :: (entries m).flatMap line := by
    simp [marshal]
  have size : ("#" ++ comment ++ "\n" ++ marshal m).length =
      comment.toList.length + ((entries m).flatMap line).length + 1 + 1 := by
    rw [← String.length_toList, text]
    simp only [List.length_append, List.length_cons]
    omega
  have enough :
      (entries m).length ≤ comment.toList.length + ((entries m).flatMap line).length + 1 := by
    have := length_le_lines (entries m)
    omega
  have read := readLines_lines (entries m) enough
  rw [unmarshal, text, size, readLines_comment _ _ oneLine, read]
  cases whole : entries m with
  | nil => contradiction
  | cons entry rest =>
    change Except.ok (some (ofEntries (entry :: rest))) = Except.ok (some m)
    rw [← whole, ofEntries_entries]

end Go.Yaml
