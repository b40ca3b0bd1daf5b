import Nodelet.Go.JsonRoundTrip
import Nodelet.Go.Lines

/-! A JSON object that was cut off while it was written is no JSON text. -/
namespace Go.JsonText
namespace Scanner
variable {s s' : Scanner} {c : Char} {frames : List Frame}

/-- An object or an array is not closed yet. -/
def Open (s : Scanner) : Prop := s.step ≠ .endTop ∧ s.frames ≠ []

/-- After a rune it is still open, or that rune has closed the outermost one. -/
def Closing (c : Char) (s : Scanner) : Prop := s.Open ∨ s = ⟨.endTop, []⟩ ∧ (c = '\x7d' ∨ c = ']')

theorem closing_pop (frames : List Frame) (bracket : c = '\x7d' ∨ c = ']') :
    Closing c (pop frames) := by
  cases frames with
  | nil => exact .inr ⟨rfl, bracket⟩
  | cons => exact .inl ⟨by simp [pop], by simp [pop]⟩

theorem closing_endValue (inside : frames ≠ []) (moved : endValue c frames = some s') :
    Closing c s' := by
  cases frames with
  | nil => contradiction
  | cons frame rest =>
    cases frame <;> dsimp only [endValue] at moved <;> split_ifs at moved <;> cases moved
    all_goals first
      | exact closing_pop _ (.inl ‹_›)
      | exact closing_pop _ (.inr ‹_›)
      | exact .inl ⟨by simp, by simp⟩

theorem of_ite {P : Scanner → Prop} {condition : Prop} [Decidable condition] {s₁ : Scanner}
    {other : Option Scanner}
    (moved : (if condition then some s₁
      else other) = some s') (here : P s₁) (later : other = some s' → P s') : P s' := by
  by_cases holds : condition
  · rw [if_pos holds] at moved
    exact Option.some.inj moved ▸ here
  · rw [if_neg holds] at moved
    exact later moved

theorem open_beginValue (inside : frames ≠ []) (moved : beginValue c frames = some s') :
    s'.Open := by
  unfold beginValue at moved
  -- a space, a quote and two brackets come before the numbers and the words
  refine of_ite moved ⟨Step.noConfusion, inside⟩ fun moved => ?_
  refine of_ite moved ⟨Step.noConfusion, inside⟩ fun moved => ?_
  refine of_ite moved ⟨Step.noConfusion, List.cons_ne_nil _ _⟩ fun moved => ?_
  refine of_ite moved ⟨Step.noConfusion, List.cons_ne_nil _ _⟩ fun moved => ?_
  iterate 6 refine of_ite moved ⟨Step.noConfusion, inside⟩ fun moved => ?_
  contradiction

theorem open_beginString (inside : frames ≠ []) (moved : beginString c frames = some s') :
    s'.Open := by
  unfold beginString at moved
  split_ifs at moved <;> cases moved <;> exact ⟨by simp, inside⟩

theorem closing_fraction (inside : frames ≠ []) (moved : fraction c frames = some s') :
    Closing c s' := by
  unfold fraction at moved
  split_ifs at moved
  · cases moved
    exact .inl ⟨by simp, inside⟩
  · cases moved
    exact .inl ⟨by simp, inside⟩
  · exact closing_endValue inside moved

theorem open_exponentSign (inside : frames ≠ []) (moved : exponentSign c frames = some s') :
    s'.Open := by
  unfold exponentSign at moved
  split_ifs at moved
  cases moved
  exact ⟨by simp, inside⟩

theorem Open.next (open_ : s.Open) (moved : s.next c = some s') : Closing c s' := by
  obtain ⟨step, frames⟩ := s
  obtain ⟨notTop, inside⟩ := open_
  cases step <;> dsimp only [Scanner.next] at moved inside
  case beginValue => exact .inl (open_beginValue inside moved)
  case beginValueOrEmpty =>
    split_ifs at moved
    · cases moved
      exact .inl ⟨by simp, inside⟩
    · exact closing_endValue inside moved
    · exact .inl (open_beginValue inside moved)
  case beginString => exact .inl (open_beginString inside moved)
  case beginStringOrEmpty =>
    split_ifs at moved with _ brace
    · cases moved
      exact .inl ⟨by simp, inside⟩
    · cases moved
      exact closing_pop _ (.inl brace)
    · exact .inl (open_beginString inside moved)
  case endValue => exact closing_endValue inside moved
  case endTop => contradiction
  case one =>
    split_ifs at moved
    · cases moved
      exact .inl ⟨by simp, inside⟩
    · exact closing_fraction inside moved
  case zero => exact closing_fraction inside moved
  case dot0 =>
    split_ifs at moved
    · cases moved
      exact .inl ⟨by simp, inside⟩
    · cases moved
      exact .inl ⟨by simp, inside⟩
    · exact closing_endValue inside moved
  case exponent =>
    split_ifs at moved
    · cases moved
      exact .inl ⟨by simp, inside⟩
    · exact .inl (open_exponentSign inside moved)
  case exponentSign => exact .inl (open_exponentSign inside moved)
  case exponent0 =>
    split_ifs at moved
    · cases moved
      exact .inl ⟨by simp, inside⟩
    · exact closing_endValue inside moved
  case inStringEscU =>
    split_ifs at moved <;> cases moved <;> exact .inl ⟨by simp, inside⟩
  case word =>
    split_ifs at moved <;> cases moved <;> exact .inl ⟨by simp, inside⟩
  -- inside a string literal, a sign or a point of a number
  all_goals split_ifs at moved <;> cases moved <;> exact .inl ⟨by simp, inside⟩

theorem Open.not_eof (open_ : s.Open) : s.eof = false := by
  have space : (s.next ' ').map step ≠ some .endTop := by
    intro ended
    obtain ⟨s', moved, top⟩ := Option.map_eq_some_iff.mp ended
    rcases open_.next moved with still | ⟨-, bracket⟩
    · exact still.1 top
    · exact absurd bracket (by decide)
  simp [eof, open_.1, space]

variable {text : List Char} {entries : List (String × Item)}

/-- The scanner stays where the text ended, and there it takes spaces only. -/
theorem run_top (ran : (⟨.endTop, []⟩ : Scanner).run text = some s') :
    s' = ⟨.endTop, []⟩ ∧ ∀ c ∈ text, isSpace c = true := by
  induction text with
  | nil => exact ⟨(Option.some.inj ran).symm, by simp⟩
  | cons c rest ih =>
    rw [run, List.foldlM_cons] at ran
    by_cases space : isSpace c = true
    · rw [show Scanner.next ⟨.endTop, []⟩ c = some ⟨.endTop, []⟩ from if_pos space] at ran
      exact ⟨(ih ran).1, List.forall_mem_cons.mpr ⟨space, (ih ran).2⟩⟩
    · rw [show Scanner.next ⟨.endTop, []⟩ c = none from if_neg space] at ran
      contradiction

theorem Open.run (open_ : s.Open) (ran : s.run text = some s') :
    s'.Open ∨ s' = ⟨.endTop, []⟩ ∧ ∃ c ∈ text, c = '\x7d' ∨ c = ']' := by
  induction text generalizing s with
  | nil =>
    cases ran
    exact .inl open_
  | cons c rest ih =>
    rw [Scanner.run, List.foldlM_cons] at ran
    obtain ⟨s₁, moved, later⟩ := Option.bind_eq_some_iff.mp ran
    rcases open_.next moved with still | ⟨rfl, bracket⟩
    · rcases ih still later with still | ⟨top, d, member, bracket⟩
      · exact .inl still
      · exact .inr ⟨top, d, List.mem_cons_of_mem _ member, bracket⟩
    · exact .inr ⟨(run_top later).1, c, List.mem_cons_self, bracket⟩

end Scanner

theorem Reader.map_scanner_run (r : Reader) (text : List Char) :
    (r.run text).map scanner = r.scanner.run text := by
  induction text generalizing r with
  | nil => rfl
  | cons c rest ih =>
    rw [Reader.run_cons, Scanner.run, List.foldlM_cons, Reader.next]
    cases r.scanner.next c with
    | none => rfl
    | some after => exact ih _

theorem run_start (text : List Char) :
    Scanner.run ⟨.beginValue, []⟩ text = (Reader.start.run text).map Reader.scanner :=
  (Reader.map_scanner_run .start text).symm

theorem getLast?_members (entries : List (String × Item)) :
    (members entries).getLast? = some '\x7d' := by
  have behind {rest : List Char} (front : List Char) (last : rest.getLast? = some '\x7d') :
      (front ++ rest).getLast? = some '\x7d' := by
    rw [List.getLast?_append, last, Option.some_or]
  have entry {rest : List Char} (key : String) (item : Item) (last : rest.getLast? = some '\x7d') :
      ('\n' :: ' ' :: (quote key ++ ':' :: ' ' :: (item.text ++ rest))).getLast? = some '\x7d' :=
    behind ['\n', ' '] (behind (quote key) (behind [':', ' '] (behind item.text last)))
  induction entries using members.induct with
  | case1 => rfl
  | case2 key item => exact entry key item rfl
  | case3 key item rest more ih =>
    rw [members.eq_3 _ _ _ more]
    exact entry key item (behind [','] ih)

theorem beginValue_beyond (beyond : 128 ≤ c.toNat) (frames : List Frame) :
    Scanner.beginValue c frames = none := by
  have other (d : Char) (ascii : d.toNat < 128) : c ≠ d := by
    rintro rfl
    omega
  have space : isSpace c = false := by
    simp [isSpace, other ' ' (by decide), other '\t' (by decide), other '\r' (by decide),
      other '\n' (by decide)]
  have digit : isDigit c = false := by
    have above : ¬ c ≤ '9' := fun below => absurd (show c.toNat ≤ 57 from below) (by omega)
    simp [isDigit, above]
  simp [Scanner.beginValue, space, digit, other '"' (by decide), other '\x7b' (by decide),
    other '[' (by decide), other '-' (by decide), other '0' (by decide), other 't' (by decide),
    other 'f' (by decide), other 'n' (by decide)]

theorem parse_eq_none
    (ends : ∀ s, Scanner.run ⟨.beginValue, []⟩ text = some s → s.eof = false) :
    parse text = none := by
  unfold parse
  cases ran : Reader.start.run text with
  | none => rfl
  | some r =>
    have unfinished := ends r.scanner (by rw [run_start, ran, Option.map_some])
    simp [unfinished]

/-- The scanner after the bracket that opens the object. -/
def Scanner.opened : Scanner := ⟨.beginStringOrEmpty, [.objectKey]⟩

theorem Scanner.run_object (text : List Char) :
    Scanner.run ⟨.beginValue, []⟩ ('\x7b' :: text) = opened.run text := rfl

theorem open_of_cut {kept rest : List Char} (whole : kept ++ rest = members entries)
    (less : rest ≠ []) : ∃ s, Scanner.opened.run kept = some s ∧ s.Open := by
  have ran : (Scanner.opened.run (members entries)).isSome := by
    rw [← Scanner.run_object, ← marshalIndent, run_start, Option.isSome_map]
    have read := parse_marshalIndent entries
    unfold parse at read
    cases ran : Reader.start.run (marshalIndent entries) with
    | none => simp [ran] at read
    | some => rfl
  obtain ⟨last, ran⟩ := Option.isSome_iff_exists.mp ran
  rw [← whole, Scanner.run, List.foldlM_append] at ran
  obtain ⟨s, first, second⟩ := Option.bind_eq_some_iff.mp ran
  have started : Scanner.opened.Open := ⟨by simp [Scanner.opened], by simp [Scanner.opened]⟩
  refine ⟨s, first, (started.run first).resolve_right ?_⟩
  rintro ⟨rfl, -⟩
  have spaces := (Scanner.run_top second).2
  have bracket : rest.getLast? = some '\x7d' := by
    rw [← getLast?_members entries, ← whole, List.getLast?_append_of_ne_nil _ less]
  exact absurd (spaces _ (List.mem_of_getLast? bracket)) (by decide)

/-- Neither with nor without runes beyond ASCII behind it. -/
theorem parse_cut {kept tail : List Char} (initial : kept <+: marshalIndent entries)
    (less : kept ≠ marshalIndent entries) (beyond : ∀ c ∈ tail, 128 ≤ c.toNat) :
    parse (kept ++ tail) = none := by
  apply parse_eq_none
  intro s ran
  cases kept with
  | nil =>
    cases tail with
    | nil =>
      cases ran
      rfl
    | cons c rest =>
      have refused : Scanner.next ⟨.beginValue, []⟩ c = none := beginValue_beyond (beyond c List.mem_cons_self) []
      rw [List.nil_append, Scanner.run, List.foldlM_cons, refused] at ran
      contradiction
  | cons c kept =>
    obtain ⟨rfl, rest, whole⟩ := List.cons_prefix_cons.mp initial
    have some : rest ≠ [] := by
      rintro rfl
      rw [List.append_nil] at whole
      exact less (congrArg _ whole)
    obtain ⟨s₁, first, open_⟩ := open_of_cut whole some
    rw [List.cons_append, Scanner.run_object, Scanner.run, List.foldlM_append] at ran
    rw [Scanner.run] at first
    rw [first] at ran
    rcases open_.run ran with still | ⟨-, d, member, bracket⟩
    · exact still.not_eof
    · have large := beyond d member
      rcases bracket with rfl | rfl <;> exact absurd large (by decide)

section Lines
variable {space ok : Char → Bool} {rest : List Char}

theorem break_notMem_escape (c : Char) : '\n' ∉ escape c := by
  have digit : ∀ d < 16, hex d ≠ '\n' := by decide
  unfold escape
  split_ifs with h₁ h₂ h₃ h₄ h₅
  · rcases h₁ with rfl | rfl <;> decide
  · decide
  · decide
  · decide
  · have code := toNat_of_escaped h₅
    simp only [List.mem_cons, List.not_mem_nil, or_false, not_or]
    exact ⟨by decide, by decide, (digit _ (by omega)).symm, (digit _ (by omega)).symm,
      (digit _ (by omega)).symm,
      (digit _ (by omega)).symm⟩
  · simpa using Ne.symm h₂

theorem break_notMem_body (text : String) : '\n' ∉ body text := by
  intro member
  obtain ⟨c, _, inside⟩ := List.mem_flatMap.mp member
  exact break_notMem_escape c inside

theorem break_notMem_toString (v : Int) : '\n' ∉ (toString v).toList := by
  have digits (n : Nat) : '\n' ∉ Nat.toDigits 10 n := fun member =>
    absurd (Nat.isDigit_of_mem_toDigits (by decide) (by decide) member) (by decide)
  cases v with
  | ofNat n => exact toList_toString_nat n ▸ digits n
  | negSucc n =>
    rw [toList_toString_negSucc]
    simpa using digits (n + 1)

theorem headed_break {fresh : Bool} (later : Headed space ok true rest) :
    Headed space ok fresh ('\n' :: rest) := by
  rw [Headed, if_pos rfl]
  exact later

/-- What the lines of an object begin with, spaces aside, is as it should be. -/
structure Signs (space ok : Char → Bool) : Prop where
  blank : space ' ' = true
  sign : ∀ c ∈ ['\x7b', '"', ']', '\x7d'], space c = false ∧ ok c = true

namespace Signs

theorem headed (signs : Signs space ok) (sign : c ∈ ['\x7b', '"', ']', '\x7d'])
    (later : Headed space ok false rest) (fresh : Bool) : Headed space ok fresh (c :: rest) := by
  obtain ⟨solid, fits⟩ := signs.sign c sign
  have line : c ≠ '\n' := by
    rintro rfl
    exact absurd sign (by decide)
  rw [Headed, if_neg line, if_neg (by simp [solid])]
  exact ⟨fun _ => fits, later⟩

theorem headed_blank (signs : Signs space ok) (later : Headed space ok true rest) :
    Headed space ok true (' ' :: rest) := by
  rw [Headed, if_neg (by decide), if_pos ⟨rfl, signs.blank⟩]
  exact later

theorem headed_quote (signs : Signs space ok) (text : String) (later : Headed space ok false rest)
    (fresh : Bool) : Headed space ok fresh (quote text ++ rest) := by
  rw [quote, List.cons_append, List.append_assoc]
  refine signs.headed (by decide) ?_ fresh
  rw [headed_append _ (break_notMem_body text)]
  exact signs.headed (by decide) later false

theorem headed_elements (signs : Signs space ok) (items : List String)
    (later : Headed space ok false rest) : Headed space ok false (elements items ++ rest) := by
  induction items using elements.induct with
  | case1 => exact signs.headed (by decide) later false
  | case2 last =>
    rw [elements, List.cons_append, List.cons_append, List.cons_append, List.append_assoc]
    refine headed_break (signs.headed_blank (signs.headed_blank (signs.headed_quote last ?_ true)))
    exact headed_break (signs.headed_blank (signs.headed (by decide) later true))
  | case3 item items more ih =>
    rw [elements.eq_3 _ _ more, List.cons_append, List.cons_append, List.cons_append,
      List.append_assoc]
    refine headed_break (signs.headed_blank (signs.headed_blank (signs.headed_quote item ?_ true)))
    exact (headed_append [','] (by decide)).mpr ih

theorem headed_item (signs : Signs space ok) (item : Item) (later : Headed space ok false rest) :
    Headed space ok false (item.text ++ rest) := by
  cases item with
  | string value => exact signs.headed_quote value later false
  | int value => exact (headed_append _ (break_notMem_toString value)).mpr later
  | strings value =>
    cases value with
    | none => exact (headed_append _ (by decide)).mpr later
    | some items => exact (headed_append ['['] (by decide)).mpr (signs.headed_elements items later)

theorem headed_entry (signs : Signs space ok) (key : String) (item : Item)
    (later : Headed space ok false rest) :
    Headed space ok false ('\n' :: ' ' :: (quote key ++ ':' :: ' ' :: (item.text ++ rest))) := by
  refine headed_break (signs.headed_blank (signs.headed_quote key ?_ true))
  exact (headed_append [':', ' '] (by decide)).mpr (signs.headed_item item later)

theorem headed_members (signs : Signs space ok) (entries : List (String × Item)) :
    Headed space ok false (members entries) := by
  have ended : Headed space ok false [] := trivial
  induction entries using members.induct with
  | case1 => exact signs.headed (by decide) ended false
  | case2 key item =>
    exact signs.headed_entry key item (headed_break (signs.headed (by decide) ended true))
  | case3 key item entries more ih =>
    rw [members.eq_3 _ _ _ more]
    exact signs.headed_entry key item ((headed_append [','] (by decide)).mpr ih)

theorem headed_marshalIndent (signs : Signs space ok) (entries : List (String × Item)) :
    Headed space ok true (marshalIndent entries) :=
  signs.headed (by decide) (signs.headed_members entries) true

end Signs
end Lines
end Go.JsonText
