import Nodelet.Go.JsonWrite

/-! The text that `json.MarshalIndent` writes has the value that was meant. -/
namespace Go.JsonText

namespace Reader
variable {r : Reader} {step : Step} {frames : List Frame} {raw : List Char} {opened : List Opened}
  {top : Option Value}
  {entries : List (String × Value)} {key : String} {c : Char}

theorem run_append (r : Reader) (first second : List Char) :
    r.run (first ++ second) = (r.run first).bind (·.run second) :=
  List.foldlM_append

theorem run_cons (r : Reader) (c : Char) (text : List Char) :
    r.run (c :: text) = (r.next c).bind (·.run text) :=
  List.foldlM_cons

theorem next_space (between : step.begins = true ∨ step = .endValue ∧ frames ≠ [])
    (space : c = ' ' ∨ c = '\n') :
    (⟨⟨step, frames⟩, raw, opened, top⟩ : Reader).next c =
      some ⟨⟨step, frames⟩, raw, opened, top⟩ := by
  have blank : isSpace c = true := by
    obtain rfl | rfl := space
    · rfl
    · rfl
  have unread (r : Reader) : r.bracket c = r := by
    obtain rfl | rfl := space
    · rfl
    · rfl
  obtain begins | ⟨rfl, inside⟩ := between
  · cases step <;> simp [Step.begins] at begins
    all_goals
      simp [next, Scanner.next, Scanner.beginValue, Scanner.beginString, blank, note, Step.quoted, Step.numeric,
        endNumber, unread]
  · obtain ⟨frame, rest, rfl⟩ := List.exists_cons_of_ne_nil inside
    simp [next, Scanner.next, Scanner.endValue, blank, note, Step.quoted, Step.numeric, endNumber,
      unread]

theorem run_escape (c : Char) (frames : List Frame) (raw : List Char) (opened : List Opened)
    (top : Option Value) : (⟨⟨.inString, frames⟩, raw, opened, top⟩ : Reader).run (escape c) =
      some ⟨⟨.inString, frames⟩, raw ++ escape c, opened, top⟩ := by
  unfold escape
  split_ifs with mark newline carriage tab escaped
  · obtain rfl | rfl := mark
    · simp [run, next, Scanner.next, note, Step.quoted]
    · simp [run, next, Scanner.next, note, Step.quoted]
  · simp [run, next, Scanner.next, note, Step.quoted]
  · simp [run, next, Scanner.next, note, Step.quoted]
  · simp [run, next, Scanner.next, note, Step.quoted]
  · have first := isHex_hex (d := c.toNat / 4096) (by have := toNat_of_escaped escaped; omega)
    have second := isHex_hex (d := c.toNat / 256 % 16) (by omega)
    have third := isHex_hex (d := c.toNat / 16 % 16) (by omega)
    have fourth := isHex_hex (d := c.toNat % 16) (by omega)
    simp [run, next, Scanner.next, note, Step.quoted, first, second, third, fourth]
  · obtain ⟨notQuote, notEscape⟩ := not_or.mp mark
    have printable : ¬ c < ' ' := fun control => escaped (.inl control)
    simp [run, next, Scanner.next, note, Step.quoted, notQuote, notEscape, printable]

theorem run_body (text : String) (frames : List Frame) (opened : List Opened) (top : Option Value) :
    (⟨⟨.inString, frames⟩, [], opened, top⟩ : Reader).run (body text) =
      some ⟨⟨.inString, frames⟩, body text, opened, top⟩ := by
  have all (chars : List Char) :
    ∀ raw, (⟨⟨.inString, frames⟩, raw, opened, top⟩ : Reader).run (chars.flatMap escape) =
      some ⟨⟨.inString, frames⟩, raw ++ chars.flatMap escape, opened, top⟩ := by
    induction chars with
    | nil => intro raw; simp [run]
    | cons c rest ih =>
      intro raw
      rw [List.flatMap_cons, run_append, run_escape, Option.bind_some, ih, List.append_assoc]
  exact all text.toList []

theorem run_quote (begins : step.begins = true) (text : String) (frames : List Frame)
    (raw : List Char) (opened : List Opened) (top : Option Value) :
    (⟨⟨step, frames⟩, raw, opened, top⟩ : Reader).run (quote text) =
      some { close ⟨⟨.inString, frames⟩, body text, opened, top⟩ with scanner := ⟨.endValue,
      frames⟩ } := by
  have opening :
      (⟨⟨step, frames⟩, raw, opened, top⟩ : Reader).next '"' = some ⟨⟨.inString, frames⟩, [], opened, top⟩ := by
    cases step <;> simp [Step.begins] at begins
    all_goals
      simp [next, Scanner.next, Scanner.beginValue, Scanner.beginString, isSpace, note, Step.quoted]
  rw [quote, run_cons, opening, Option.bind_some, run_append, run_body]
  simp [run, next, Scanner.next, note, Step.quoted]

theorem run_quote_key (begins : step.begins = true) (text : String) :
    (⟨⟨step, .objectKey :: frames⟩, raw, .object entries key :: opened, top⟩ : Reader).run
    (quote text) =
      some ⟨⟨.endValue, .objectKey :: frames⟩, body text, .object entries text :: opened, top⟩ := by
  rw [run_quote begins]
  simp [close, setKey, unquote_body]

variable {frame : Frame} {items : List Value}

theorem run_quote_value (begins : step.begins = true) (text : String) (value : frame ≠ .objectKey) :
    (⟨⟨step, frame :: frames⟩, raw, opened, top⟩ : Reader).run (quote text) =
      some (put ⟨⟨.endValue, frame :: frames⟩, body text, opened, top⟩ (.string text)) := by
  rw [run_quote begins]
  simp only [close, List.head?_cons, Option.some.injEq, value, if_false, unquote_body,
    String.ofList_toList]
  cases opened with
  | nil => rfl
  | cons first rest =>
    cases first with
    | array items => rfl
    | object entries key => rfl

theorem put_scanner (scanner scanner' : Scanner) (value : Value) :
    { put ⟨scanner, raw, opened, top⟩ value with scanner := scanner' } =
      put ⟨scanner', raw, opened, top⟩ value := by
  cases opened with
  | nil => rfl
  | cons first rest =>
    cases first with
    | array items => rfl
    | object entries key => rfl

theorem run_element (begins : step.begins = true) (text : String) (tail : List Char) :
    (⟨⟨step, .arrayValue :: frames⟩, raw, .array items :: opened, top⟩ : Reader).run
        ('\n' :: ' ' :: ' ' :: (quote text ++ tail)) =
      (⟨⟨.endValue, .arrayValue :: frames⟩, body text, .array (items ++ [.string text]) :: opened,
        top⟩ : Reader).run tail := by
  rw [run_cons, next_space (.inl begins) (.inr rfl), Option.bind_some, run_cons,
    next_space (.inl begins) (.inl rfl),
    Option.bind_some, run_cons, next_space (.inl begins) (.inl rfl), Option.bind_some, run_append,
    run_quote_value begins text (by simp), Option.bind_some, put]

theorem next_closes (ended : step = .endValue ∨ step = .beginValueOrEmpty) :
    (⟨⟨step, .arrayValue :: frame :: frames⟩, raw, .array items :: opened, top⟩ : Reader).next ']' =
      some (put ⟨⟨.endValue, frame :: frames⟩, raw, opened, top⟩ (.array items)) := by
  rw [← put_scanner ⟨step, .arrayValue :: frame :: frames⟩]
  obtain rfl | rfl := ended
  all_goals
    simp [next, Scanner.next, Scanner.endValue, Scanner.pop, isSpace, note, Step.quoted,
      Step.numeric, endNumber, bracket, shut]

theorem run_elements (begins : step.begins = true) (text : String) (rest : List String) :
    ∃ raw', (⟨⟨step, .arrayValue :: frame :: frames⟩, raw, .array items :: opened,
      top⟩ : Reader).run (elements (text :: rest)) =
      some (put ⟨⟨.endValue, frame :: frames⟩, raw', opened, top⟩
      (.array (items ++ (text :: rest).map .string))) := by
  induction rest generalizing step raw items text with
  | nil =>
    have between : Step.begins .endValue = true ∨ Step.endValue = .endValue ∧
        Frame.arrayValue :: frame :: frames ≠ [] :=
      .inr ⟨rfl, by simp⟩
    refine ⟨body text, ?_⟩
    rw [elements, run_element begins, run_cons, next_space between (.inr rfl), Option.bind_some,
      run_cons, next_space between (.inl rfl), Option.bind_some, run_cons, next_closes (.inl rfl)]
    rfl
  | cons next' rest ih =>
    have comma (raw : List Char) (items : List Value) :
        (⟨⟨.endValue, .arrayValue :: frame :: frames⟩, raw, .array items :: opened, top⟩ : Reader).next ',' =
          some ⟨⟨.beginValue, .arrayValue :: frame :: frames⟩, raw, .array items :: opened, top⟩ := by
      simp [next, Scanner.next, Scanner.endValue, isSpace, note, Step.quoted, Step.numeric, endNumber, bracket]
    obtain ⟨raw', read⟩ := @ih .beginValue (body text) (items ++ [.string text]) rfl next'
    refine ⟨raw', ?_⟩
    rw [elements, run_element begins, run_cons, comma, Option.bind_some, read]
    · simp
    · simp

theorem run_digits {digits : List Char} (decimal : ∀ c ∈ digits, isDigit c = true)
    (raw : List Char) :
    (⟨⟨.one, frames⟩, raw, opened, top⟩ : Reader).run digits =
      some ⟨⟨.one, frames⟩, raw ++ digits, opened, top⟩ := by
  induction digits generalizing raw with
  | nil => simp [run]
  | cons c rest ih =>
    obtain ⟨digit, others⟩ := List.forall_mem_cons.mp decimal
    have read :
        (⟨⟨.one, frames⟩, raw, opened, top⟩ : Reader).next c = some ⟨⟨.one, frames⟩, raw ++ [c], opened, top⟩ := by
      simp [next, Scanner.next, digit, note, Step.quoted, Step.numeric]
    rw [run_cons, read, Option.bind_some, ih others, List.append_assoc, List.singleton_append]

theorem isDigit_of_isDigit (digit : c.isDigit = true) : isDigit c = true := by
  have bounds : 48 ≤ c.val ∧ c.val ≤ 57 := by simpa [Char.isDigit] using digit
  exact decide_eq_true bounds

theorem ne_of_isDigit {d : Char} (digit : isDigit c = true) (other : isDigit d = false) :
    c ≠ d := by
  rintro rfl
  rw [digit] at other
  contradiction

theorem not_isSpace_of_isDigit (digit : isDigit c = true) : isSpace c = false := by
  have other {d : Char} (other : isDigit d = false) := ne_of_isDigit digit other
  simp [isSpace, other (d := ' ') rfl, other (d := '\t') rfl, other (d := '\r') rfl,
    other (d := '\n') rfl]

/-- From its first digit, or after the sign. -/
theorem run_toDigits (begins : step = .beginValue ∨ step = .neg) (n : Nat) :
    ∃ last, (last = .zero ∨ last = .one) ∧
    (⟨⟨step, frames⟩, raw, opened, top⟩ : Reader).run (Nat.toDigits 10 n) =
      some ⟨⟨last, frames⟩, (if step.numeric then raw
      else []) ++ Nat.toDigits 10 n, opened, top⟩ := by
  have decimal : ∀ c ∈ Nat.toDigits 10 n, isDigit c = true := fun c member =>
    isDigit_of_isDigit (Nat.isDigit_of_mem_toDigits (by decide) (by decide) member)
  obtain rfl | positive := Nat.eq_zero_or_pos n
  · refine ⟨.zero, .inl rfl, ?_⟩
    obtain rfl | rfl := begins
    all_goals
      simp [run, next, Scanner.next, Scanner.beginValue, isSpace, note, Step.quoted, Step.numeric]
  · refine ⟨.one, .inr rfl, ?_⟩
    cases digits : Nat.toDigits 10 n with
    | nil => exact absurd digits Nat.toDigits_ne_nil
    | cons c rest =>
      have nonzero : c ≠ '0' := fun same => toDigits_ne_zero_cons positive rest (same ▸ digits)
      obtain ⟨digit, others⟩ := List.forall_mem_cons.mp (digits ▸ decimal)
      have first : (⟨⟨step, frames⟩, raw, opened, top⟩ : Reader).next c =
          some ⟨⟨.one, frames⟩, (if step.numeric then raw else []) ++ [c], opened, top⟩ := by
        have other {d : Char} (other : isDigit d = false) := ne_of_isDigit digit other
        obtain rfl | rfl := begins
        · have begun : Scanner.beginValue c frames = some ⟨.one, frames⟩ := by
            simp [Scanner.beginValue, not_isSpace_of_isDigit digit, other (d := '"') rfl, other (d := '\x7b') rfl,
              other (d := '[') rfl, other (d := '-') rfl, other (d := 't') rfl, other (d := 'f') rfl,
              other (d := 'n') rfl, nonzero, digit]
          simp [next, Scanner.next, begun, note, Step.quoted, Step.numeric]
        · simp [next, Scanner.next, nonzero, digit, note, Step.quoted, Step.numeric]
      rw [run_cons, first, Option.bind_some, run_digits others, List.append_assoc, List.singleton_append]

theorem run_toString (v : Int) : ∃ last, (last = .zero ∨ last = .one) ∧
    (⟨⟨.beginValue, frames⟩, raw, opened, top⟩ : Reader).run (toString v).toList =
      some ⟨⟨last, frames⟩, (toString v).toList, opened, top⟩ := by
  cases v with
  | ofNat n =>
    rw [show (toString (Int.ofNat n)).toList = Nat.toDigits 10 n from toList_toString_nat n]
    exact run_toDigits (.inl rfl) n
  | negSucc n =>
    have sign :
        (⟨⟨.beginValue, frames⟩, raw, opened, top⟩ : Reader).next '-' =
          some ⟨⟨.neg, frames⟩, ['-'], opened, top⟩ := by
      simp [next, Scanner.next, Scanner.beginValue, isSpace, note, Step.quoted, Step.numeric]
    obtain ⟨last, ends, read⟩ := @run_toDigits .neg frames ['-'] opened top (.inr rfl) (n + 1)
    refine ⟨last, ends, ?_⟩
    rw [toList_toString_negSucc, run_cons, sign, Option.bind_some, read]
    rfl

/-- After the value of an entry: another entry, or the end of the line. -/
def delimited (frames : List Frame) (c : Char) : Scanner :=
  if c = ',' then ⟨.beginString, .objectKey :: frames⟩ else ⟨.endValue, .objectValue :: frames⟩

theorem next_delimiter (delimiter : c = ',' ∨ c = '\n') :
    (⟨⟨.endValue, .objectValue :: frames⟩, raw, opened, top⟩ : Reader).next c =
      some ⟨delimited frames c, raw, opened, top⟩ := by
  obtain rfl | rfl := delimiter
  all_goals
    simp [next, Scanner.next, Scanner.endValue, isSpace, note, Step.quoted, Step.numeric,
      endNumber, bracket, delimited]

theorem next_delimiter_number (number : step = .zero ∨ step = .one)
    (delimiter : c = ',' ∨ c = '\n') :
    (⟨⟨step, .objectValue :: frames⟩, raw, .object entries key :: opened, top⟩ : Reader).next c =
      some ⟨delimited frames c, raw,
      .object (entries ++ [(key, .number (String.ofList raw))]) key :: opened, top⟩ := by
  obtain rfl | rfl := number
  all_goals
    obtain rfl | rfl := delimiter
    all_goals
      simp [next, Scanner.next, Scanner.fraction, Scanner.endValue, isSpace, isDigit, note,
        Step.quoted, Step.numeric, endNumber, put, bracket, delimited]

theorem run_item (delimiter : c = ',' ∨ c = '\n') (item : Item) : ∃ raw',
    (⟨⟨.beginValue, .objectValue :: frames⟩, raw, .object entries key :: opened, top⟩ : Reader).run
    (item.text ++ [c]) =
      some ⟨delimited frames c, raw', .object (entries ++ [(key, item.value)]) key :: opened,
      top⟩ := by
  cases item with
  | string value =>
    refine ⟨body value, ?_⟩
    rw [run_append, Item.text, run_quote_value rfl value (by simp), Option.bind_some, run_cons, put,
      next_delimiter delimiter]
    rfl
  | int value =>
    obtain ⟨last, ends, read⟩ :=
      @run_toString (.objectValue :: frames) raw (.object entries key :: opened) top value
    refine ⟨(toString value).toList, ?_⟩
    rw [run_append, Item.text, read, Option.bind_some, run_cons,
      next_delimiter_number ends delimiter, String.ofList_toList]
    rfl
  | strings value =>
    cases value with
    | none =>
      have word : (⟨⟨.beginValue, .objectValue :: frames⟩, raw, .object entries key :: opened, top⟩ : Reader).run
          Word.null.text =
            some ⟨⟨.endValue, .objectValue :: frames⟩, raw,
              .object (entries ++ [(key, .null)]) key :: opened, top⟩ := by
        simp [run, next, Word.text, Scanner.next, Scanner.beginValue, isSpace, note, Step.quoted, Step.numeric,
          endNumber, bracket, put, Word.value]
      refine ⟨raw, ?_⟩
      rw [run_append, Item.text, word, Option.bind_some, run_cons, next_delimiter delimiter]
      rfl
    | some texts =>
      have opening :
        (⟨⟨.beginValue, .objectValue :: frames⟩, raw, .object entries key :: opened, top⟩ : Reader).next '[' =
          some ⟨⟨.beginValueOrEmpty, .arrayValue :: .objectValue :: frames⟩, raw,
            .array [] :: .object entries key :: opened, top⟩ := by
        simp [next, Scanner.next, Scanner.beginValue, isSpace, note, Step.quoted, Step.numeric, endNumber, bracket]
      have read : ∃ raw', (⟨⟨.beginValueOrEmpty, .arrayValue :: .objectValue :: frames⟩, raw,
          .array [] :: .object entries key :: opened, top⟩ : Reader).run (elements texts) =
            some (put ⟨⟨.endValue, .objectValue :: frames⟩, raw', .object entries key :: opened,
              top⟩ (.array (texts.map .string))) := by
        cases texts with
        | nil => exact ⟨raw, next_closes (.inr rfl) ▸ rfl⟩
        | cons text rest => exact run_elements rfl text rest
      obtain ⟨raw', read⟩ := read
      refine ⟨raw', ?_⟩
      rw [Item.text, List.cons_append, run_cons, opening, Option.bind_some, run_append, read,
        Option.bind_some, put, run_cons, next_delimiter delimiter]
      rfl

theorem run_key (begins : step.begins = true) (name : String) (tail : List Char) :
    (⟨⟨step, .objectKey :: frames⟩, raw, .object entries key :: opened, top⟩ : Reader).run
        ('\n' :: ' ' :: (quote name ++ ':' :: ' ' :: tail)) =
      (⟨⟨.beginValue, .objectValue :: frames⟩, body name, .object entries name :: opened,
      top⟩ : Reader).run tail := by
  have colon :
    (⟨⟨.endValue, .objectKey :: frames⟩, body name, .object entries name :: opened,
      top⟩ : Reader).next ':' =
      some ⟨⟨.beginValue, .objectValue :: frames⟩, body name, .object entries name :: opened, top⟩ := by
    simp [next, Scanner.next, Scanner.endValue, isSpace, note, Step.quoted, Step.numeric,
      endNumber, bracket]
  rw [run_cons, next_space (.inl begins) (.inr rfl), Option.bind_some, run_cons,
    next_space (.inl begins) (.inl rfl), Option.bind_some, run_append, run_quote_key begins,
    Option.bind_some, run_cons, colon, Option.bind_some, run_cons, next_space (.inl rfl) (.inl rfl),
    Option.bind_some]

theorem run_members (begins : step.begins = true) (first : String × Item)
    (rest : List (String × Item)) : ∃ raw',
    (⟨⟨step, [.objectKey]⟩, raw, [.object entries key], none⟩ : Reader).run
      (members (first :: rest)) = some ⟨⟨.endTop, []⟩, raw', [],
        some (.object (entries ++ (first :: rest).map fun entry => (entry.1, entry.2.value)))⟩ := by
  induction rest generalizing step raw entries key first with
  | nil =>
    obtain ⟨raw', read⟩ :=
      @run_item [] (body first.1) [] none entries first.1 '\n' (.inr rfl) first.2
    refine ⟨raw', ?_⟩
    rw [members, run_key begins, List.append_cons, run_append, read]
    simp [delimited, run, next, Scanner.next, Scanner.endValue, Scanner.pop, isSpace, note,
      Step.quoted, Step.numeric, endNumber, bracket, shut, put]
  | cons second rest ih =>
    obtain ⟨raw₁, read⟩ :=
      @run_item [] (body first.1) [] none entries first.1 ',' (.inl rfl) first.2
    obtain ⟨raw₂, later⟩ :=
      @ih .beginString raw₁ (entries ++ [(first.1, first.2.value)]) first.1 rfl second
    refine ⟨raw₂, ?_⟩
    rw [members, run_key begins, List.append_cons, run_append, read, Option.bind_some]
    · rw [delimited, if_pos rfl, later]
      simp
    · simp

end Reader

/-- What is written is read back. -/
theorem parse_marshalIndent (entries : List (String × Item)) :
    parse (marshalIndent entries) =
      some (.object (entries.map fun entry => (entry.1, entry.2.value))) := by
  have opening : Reader.start.next '\x7b' =
      some ⟨⟨.beginStringOrEmpty, [.objectKey]⟩, [], [.object [] ""], none⟩ := rfl
  have read : ∃ raw, Reader.start.run (marshalIndent entries) =
      some ⟨⟨.endTop, []⟩, raw, [], some (.object (entries.map fun entry => (entry.1, entry.2.value)))⟩ := by
    rw [marshalIndent, Reader.run_cons, opening, Option.bind_some]
    cases entries with
    | nil => exact ⟨[], rfl⟩
    | cons first rest => exact Reader.run_members rfl first rest
  obtain ⟨raw, read⟩ := read
  rw [parse, read]
  rfl

end Go.JsonText
