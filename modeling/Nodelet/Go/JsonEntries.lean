import Nodelet.Go.JsonText
import Mathlib.Algebra.GroupWithZero.Nat

/-! How much of a JSON text its entries take. An entry takes as many runes of the text as it has in
key and value, and six more, since no escape sequence is shorter than what it stands for. -/
namespace Go.JsonText

namespace Outline
variable {o o' : Outline} {c : Char} {first second : List Char}

theorem run_append :
    o.run (first ++ second) = (o.run first).bind (·.run second) := List.foldlM_append

theorem run_cons : o.run (c :: second) = (o.next c).bind (·.run second) := List.foldlM_cons

theorem map_scanner_run : (o.run second).map scanner = o.scanner.run second := by
  induction second generalizing o with
  | nil => rfl
  | cons c rest ih =>
    rw [run_cons, Scanner.run, List.foldlM_cons, next]
    cases o.scanner.next c with
    | none => rfl
    | some after => exact ih

/-- The runes of the text that an entry takes at the least. -/
def size : String × Kind → Nat
  | (key, .string value) => key.length + value.length + 6
  | _ => 0

/-- The runes of an entry that is not complete, which has a key and the text of a literal of these
lengths. -/
def pendingAt (key raw : Nat) (s : Scanner) : Nat :=
  match s.frames with
  | [.objectKey] => if s.step.quoted then raw + 2 else if s.step = .endValue then key + 3 else 1
  | [.objectValue] => if s.step.quoted then key + raw + 5 else if s.step.begins then key + 4 else 0
  | _ => 0

def pending (o : Outline) : Nat := pendingAt o.key.length o.raw.length o.scanner

section Pending
variable {key raw : Nat} {s s' : Scanner} {step : Step} {frames : List Frame}

theorem pendingAt_quoted (key raw : Nat) (frames : List Frame) (quoted : step.quoted = true) :
    pendingAt key raw ⟨step, frames⟩ =
    if frames = [.objectKey] then raw + 2 else if frames = [.objectValue] then key + raw + 5
      else 0 := by
  match frames with
  | [.objectKey] | [.objectValue] =>
    simp only [pendingAt, quoted, if_true, reduceIte, reduceCtorEq, List.cons.injEq, false_and]
  | [] | [.arrayValue] => rfl
  | _ :: _ :: _ => simp [pendingAt]

theorem pendingAt_objectKey (unquoted : step.quoted = false) (open_ : step ≠ .endValue) :
    pendingAt key raw ⟨step, [.objectKey]⟩ = 1 := by
  simp only [pendingAt, unquoted, open_, Bool.false_eq_true, if_false]

theorem pendingAt_objectValue (unquoted : step.quoted = false) :
    pendingAt key raw ⟨step, [.objectValue]⟩ = if step.begins then key + 4 else 0 := by
  simp only [pendingAt, unquoted, Bool.false_eq_true, if_false]

theorem pendingAt_deep (outer inner : Frame) :
    pendingAt key raw ⟨step, inner :: outer :: frames⟩ = 0 := by
  simp [pendingAt]

theorem pendingAt_opens (begins : s.step.begins = true) :
    pendingAt key 0 ⟨.inString, s.frames⟩ ≤ pendingAt key raw s + 1 := by
  obtain ⟨step, frames⟩ := s
  have unquoted : step.quoted = false := by cases step <;> first | rfl | contradiction
  match frames with
  | [.objectKey] => rw [pendingAt_objectKey unquoted (by rintro rfl; contradiction)]; rfl
  | [.objectValue] => rw [pendingAt_objectValue unquoted, if_pos begins]; rfl
  | [] | [.arrayValue] => exact Nat.zero_le _
  | _ :: _ :: _ => rw [pendingAt_deep]; exact Nat.zero_le _

theorem pendingAt_value (outside : .objectKey ∉ frames) (unquoted : step.quoted = false)
    (begun : step.begins = false) : pendingAt key raw ⟨step, frames⟩ = 0 := by
  match frames with
  | [.objectKey] => simp at outside
  | [.objectValue] => rw [pendingAt_objectValue unquoted, begun]; rfl
  | [] | [.arrayValue] => rfl
  | _ :: _ :: _ => exact pendingAt_deep ..

theorem pendingAt_moves (key raw : Nat) (reachable : s.Reachable) (moves : s.Moves c s')
    (unquoted : s.step.quoted = false)
    (still : s'.step.quoted = false) : pendingAt key raw s' ≤ pendingAt key raw s + 1 := by
  have inner := reachable.inner
  cases moves with
  | opens => contradiction
  | within quoted => simp [quoted] at unquoted
  | closes quoted => simp [quoted, Step.quoted] at unquoted
  | skips => omega
  | value unkeyed _ begun => simp [pendingAt_value (reachable.value unkeyed) still begun]
  | @colon rest _ string first here =>
    obtain ⟨step, frames⟩ := s
    obtain rfl := here
    have ended : step = .endValue := by
      have keyed := reachable.key rfl
      cases step <;> simp_all [Step.keyed, Step.quoted]
    cases rest with
    | nil =>
      obtain rfl := ended
      rfl
    | cons => exact Nat.zero_le _
  | @comma rest _ here =>
    cases rest with
    | nil => exact Nat.le_add_left 1 _
    | cons => exact Nat.zero_le _
  | @element rest _ here => cases rest <;> exact Nat.zero_le _
  | object unkeyed =>
    cases s.frames with
    | nil => exact Nat.le_add_left 1 _
    | cons => exact Nat.zero_le _
  | array unkeyed => cases s.frames <;> exact Nat.zero_le _
  | pops _ =>
    have done : pendingAt key raw (.pop s.frames.tail) = 0 := by
      cases rest : s.frames.tail with
      | nil => rfl
      | cons frame rest' => exact pendingAt_value (rest ▸ inner) rfl rfl
    simp [done]
  | top => exact Nat.zero_le _

end Pending

/-- After the quote that closes the literal. -/
def closed (o : Outline) : Outline := { o.close with scanner := ⟨.endValue, o.scanner.frames⟩ }

/-- What is added to the entries, and what is pending, does not take more runes than were read. -/
def Adds (o o' : Outline) (read : Nat) : Prop :=
  ∃ more, o'.entries = o.entries ++ more ∧ (more.map size).sum + o'.pending ≤ o.pending + read

theorem put_adds {scanner : Scanner} (unsized : ∀ key, size (key, kind) = 0)
    (bound : { o with scanner := scanner }.pending ≤ o.pending + 1) :
    Adds o { o.put kind with scanner := scanner } 1 := by
  rw [put]
  split
  · exact ⟨[], by simp, by simpa [pending] using bound⟩
  · exact ⟨[(o.key, kind)], rfl, by simpa [unsized, pending] using bound⟩
  · exact ⟨[], by simp, by simpa [pending] using bound⟩

theorem closed_adds (quoted : o.scanner.step.quoted = true) : Adds o o.closed 1 := by
  obtain ⟨⟨step, frames⟩, raw, key, top, entries⟩ := o
  have shorter :
    (String.ofList (unquote raw)).length ≤ raw.length := by simpa using length_unquote raw
  have before := pendingAt_quoted key.length raw.length frames quoted
  match frames with
  | [.objectKey] =>
    refine ⟨[], (List.append_nil _).symm, ?_⟩
    change 0 + ((String.ofList (unquote raw)).length + 3) ≤ pendingAt _ _ _ + 1
    rw [before, if_pos rfl]
    omega
  | [.objectValue] =>
    refine ⟨[(key, .string (String.ofList (unquote raw)))], rfl, ?_⟩
    change key.length + (String.ofList (unquote raw)).length + 6 + 0 + 0 ≤ pendingAt _ _ _ + 1
    rw [before, if_neg (by simp), if_pos rfl]
    omega
  | [] | [.arrayValue] => exact ⟨[], (List.append_nil _).symm, Nat.zero_le _⟩
  | inner :: outer :: rest =>
    have same : (Outline.mk ⟨step, inner :: outer :: rest⟩ raw key top entries).close.entries = entries := by
      rw [close, if_neg (by simp)]
      split
      · rfl
      · simp [put]
    exact ⟨[], by simp [closed, same], by simp [closed, pending, pendingAt_deep]⟩

theorem begins_unsized {s : Scanner} (begun : begins s c = some kind) (key : String) :
    size (key, kind) = 0 := by
  rw [begins] at begun
  split_ifs at begun <;> cases begun <;> rfl

theorem next_adds (reachable : o.scanner.Reachable) (moved : o.next c = some o') : Adds o o' 1 := by
  obtain ⟨after, scanned, rfl⟩ := Option.map_eq_some_iff.mp moved
  have moves := Scanner.moves_of_next scanned
  cases quoted : o.scanner.step.quoted with
  | true =>
    obtain ⟨still, frames⟩ | ⟨-, -, rfl⟩ := moves.of_quoted quoted
    · rw [note, quoted, still]
      refine ⟨[], (List.append_nil _).symm, ?_⟩
      have earlier := pendingAt_quoted o.key.length o.raw.length o.scanner.frames quoted
      have later := pendingAt_quoted o.key.length (o.raw.length + 1) o.scanner.frames still
      rw [← frames] at later
      simp only [List.map_nil, List.sum_nil, Nat.zero_add, pending, if_true, List.length_append,
        List.length_singleton]
      rw [later, frames, earlier]
      split_ifs <;> omega
    · rw [note, quoted]
      exact closed_adds quoted
  | false =>
    cases still : after.step.quoted with
    | true =>
      obtain ⟨begins, rfl⟩ := moves.of_unquoted quoted still
      rw [note, quoted]
      exact ⟨[], (List.append_nil _).symm, (Nat.zero_add _).trans_le (pendingAt_opens begins)⟩
    | false =>
      have bound := pendingAt_moves o.key.length o.raw.length reachable moves quoted still
      rw [note, quoted, still]
      cases begun : begins o.scanner c with
      | none => exact ⟨[], (List.append_nil _).symm, (Nat.zero_add _).trans_le bound⟩
      | some kind => exact put_adds (begins_unsized begun) bound

theorem next_reachable (reachable : o.scanner.Reachable) (moved : o.next c = some o') :
    o'.scanner.Reachable := by
  obtain ⟨after, scanned, rfl⟩ := Option.map_eq_some_iff.mp moved
  exact reachable.moves (Scanner.moves_of_next scanned)

/-- Every entry has taken its runes of the text. -/
theorem run_adds (reachable : o.scanner.Reachable) (ran : o.run second = some o') :
    Adds o o' second.length := by
  induction second generalizing o with
  | nil =>
    cases ran
    exact ⟨[], (List.append_nil _).symm, by simp⟩
  | cons c rest ih =>
    rw [run_cons] at ran
    obtain ⟨mid, moved, ran⟩ := Option.bind_eq_some_iff.mp ran
    obtain ⟨early, earlier, first⟩ := next_adds reachable moved
    obtain ⟨late, later, others⟩ := ih (next_reachable reachable moved) ran
    refine ⟨early ++ late, by rw [later, earlier, List.append_assoc], ?_⟩
    simp only [List.map_append, List.sum_append, List.length_cons]
    omega

section Literal
variable {text : List Char}

/-- A rune that stands for itself in a string literal. -/
def Plain (c : Char) : Prop := c ≠ '"' ∧ c ≠ '\\' ∧ ' ' ≤ c

instance (c : Char) : Decidable (Plain c) := inferInstanceAs (Decidable (_ ∧ _))

theorem run_plain (here : o.scanner.step = .inString) (plain : ∀ c ∈ text, Plain c) :
    o.run text = some { o with raw := o.raw ++ text } := by
  induction text generalizing o with
  | nil => simp [run]
  | cons c rest ih =>
    obtain ⟨⟨quote, escape, control⟩, others⟩ := List.forall_mem_cons.mp plain
    have moved : o.next c = some { o with raw := o.raw ++ [c] } := by
      have stays : o.scanner.next c = some o.scanner := by simp [Scanner.next, here, quote, escape, control]
      simp [next, stays, note, here, Step.quoted]
    rw [run_cons, moved, Option.bind_some, ih (o := { o with raw := o.raw ++ [c] }) here others,
      List.append_assoc]
    rfl

theorem next_quoted (quoted : o.scanner.step.quoted = true) (moved : o.next c = some o') :
    (∃ step, step.quoted = true ∧
      o' = { o with scanner := ⟨step, o.scanner.frames⟩, raw := o.raw ++ [c] } ∧
      (o.scanner.step = .inString → c ≠ '\\' → step = .inString ∧ Plain c)) ∨
    (o.scanner.step = .inString ∧ c = '"' ∧ o' = o.closed) := by
  obtain ⟨⟨step, frames⟩, scanned, rfl⟩ := Option.map_eq_some_iff.mp moved
  obtain ⟨still, same⟩ | ⟨here, quote, same⟩ := (Scanner.moves_of_next scanned).of_quoted quoted
  · dsimp only at still same
    obtain rfl := same
    refine .inl ⟨step, still, by simp [note, quoted, still], fun here escape => ?_⟩
    simp only [Scanner.next, here, escape, if_false] at scanned
    split_ifs at scanned with quote control
    · cases scanned
      contradiction
    · exact ⟨(congrArg Scanner.step (Option.some.inj scanned)).symm.trans here, quote, escape, Char.not_lt.mp control⟩
  · obtain ⟨rfl, rfl⟩ := Scanner.mk.inj same
    exact .inr ⟨here, quote, by rw [note, quoted]; rfl⟩

theorem closed_step (step : Step) :
    { o with scanner := ⟨step, o.scanner.frames⟩ }.closed = o.closed := by
  simp only [closed, close, put]
  split_ifs
  · rfl
  · rfl
  · split <;> rfl

/-- A text that begins in a string literal stays in it or has the quote that closes it. -/
theorem run_quoted (quoted : o.scanner.step.quoted = true) (ran : o.run text = some o') :
    (∃ step, step.quoted = true ∧
      o' = { o with scanner := ⟨step, o.scanner.frames⟩, raw := o.raw ++ text } ∧
      (o.scanner.step = .inString → '\\' ∉ text → ∀ c ∈ text, Plain c)) ∨
    ∃ inside after, text = inside ++ '"' :: after ∧
      { o with raw := o.raw ++ inside }.closed.run after = some o' := by
  induction text generalizing o with
  | nil =>
    obtain rfl := Option.some.inj ran
    exact .inl ⟨_, quoted, by simp, fun _ _ => nofun⟩
  | cons c rest ih =>
    rw [run_cons] at ran
    obtain ⟨mid, moved, ran⟩ := Option.bind_eq_some_iff.mp ran
    obtain ⟨step, still, rfl, first⟩ | ⟨-, rfl, rfl⟩ := next_quoted quoted moved
    · obtain ⟨step', still', rfl, others⟩ | ⟨inside, after, rfl, later⟩ := ih still ran
      · refine .inl ⟨step', still', by simp, fun here escape => ?_⟩
        obtain ⟨here', plain⟩ := first here (fun same => escape (same ▸ List.mem_cons_self))
        exact List.forall_mem_cons.mpr ⟨plain, others here' fun member => escape (List.mem_cons_of_mem _ member)⟩
      · have same := closed_step (o := { o with raw := o.raw ++ c :: inside }) step
        rw [List.append_assoc] at later
        exact .inr ⟨c :: inside, after, rfl, same ▸ later⟩
    · exact .inr ⟨[], rest, rfl, by simpa using ran⟩

end Literal
end Outline
end Go.JsonText
