import Nodelet.KubeEnv
import Nodelet.Shell

/-! What the shell makes of `kube.env`. -/
namespace Nodelet.KubeEnvMap
open Shell

section Escaping
variable {c : Char} {value : String}

/-- What is written for one character. -/
def escaped (c : Char) : List Char :=
  if c ∈ charsToEscapeInVarExport then ['\\', c] else if c = '\n' then ['\\', 'n'] else [c]

theorem toList_escaped :
    (escapeNewlines (escapeChars value)).toList = value.toList.flatMap escaped := by
  rw [escapeNewlines, escapeChars, String.toList_ofList, String.toList_ofList, List.flatMap_assoc]
  refine List.flatMap_congr fun c _ => ?_
  have special : c ∈ charsToEscapeInVarExport → c ≠ '\n' := by
    rintro member rfl
    exact absurd member (by decide)
  unfold escaped
  split_ifs <;> simp_all

theorem body_escaped (present : c ≠ '\x00') : Body (escaped c) := by
  unfold escaped
  split_ifs with special newline
  · exact .escape present .nil
  · exact .escape (by decide) .nil
  · refine .char present (fun member => special ?_) .nil
    simp only [escapable, List.mem_cons, List.not_mem_nil, or_false] at member
    rcases member with rfl | rfl | rfl | rfl <;> decide

variable {text : List Char} {commands : List Command}

theorem body_flatMap_escaped (noNul : '\x00' ∉ text) : Body (text.flatMap escaped) := by
  induction text with
  | nil => exact .nil
  | cons c text ih =>
    obtain ⟨present, noNul⟩ := not_or.mp (List.mem_cons.not.mp noNul)
    exact (body_escaped (Ne.symm present)).append (ih noNul)

/-- What the shell reads for one character: the single quote and the newline keep their
backslash. -/
def sourced (c : Char) : List Char :=
  if c = '\'' then ['\\', '\''] else if c = '\n' then ['\\', 'n'] else [c]

theorem unescape_escaped (c : Char) : unescape (escaped c) = sourced c := by
  by_cases special : c ∈ charsToEscapeInVarExport
  · have listed : c ∈ ['"', '\'', '\x60', '\\', '$'] := special
    simp only [List.mem_cons, List.not_mem_nil, or_false] at listed
    rcases listed with rfl | rfl | rfl | rfl | rfl <;> rfl
  · have noQuote : c ≠ '\'' := fun same => special (same ▸ by decide)
    have noBackslash : c ≠ '\\' := fun same => special (same ▸ by decide)
    rw [escaped, if_neg special, sourced, if_neg noQuote]
    split_ifs
    · rfl
    · rw [unescape.eq_2 _ _ (fun _ _ same _ => noBackslash same), unescape]

theorem unescape_flatMap_escaped (noNul : '\x00' ∉ text) :
    unescape (text.flatMap escaped) = text.flatMap sourced := by
  induction text with
  | nil => rfl
  | cons c text ih =>
    obtain ⟨present, noNul⟩ := not_or.mp (List.mem_cons.not.mp noNul)
    rw [List.flatMap_cons, unescape_append (body_escaped (Ne.symm present)), ih noNul,
      unescape_escaped, List.flatMap_cons]

theorem sourced_eq_iff : sourced c = [c] ↔ c ≠ '\'' ∧ c ≠ '\n' := by
  unfold sourced
  split_ifs <;> simp_all

theorem length_le_flatMap_sourced (text : List Char) :
    text.length ≤ (text.flatMap sourced).length := by
  induction text with
  | nil => exact Nat.le_refl _
  | cons c text ih =>
    have grows : 1 ≤ (sourced c).length := by
      unfold sourced
      split_ifs <;> exact Nat.le_add_left ..
    rw [List.flatMap_cons, List.length_append, List.length_cons]
    omega

theorem flatMap_sourced_iff : text.flatMap sourced = text ↔ '\'' ∉ text ∧ '\n' ∉ text := by
  induction text with
  | nil => simp
  | cons c text ih =>
    by_cases same : sourced c = [c]
    · obtain ⟨noQuote, noNewline⟩ := sourced_eq_iff.mp same
      rw [List.flatMap_cons, same, List.singleton_append, List.cons.injEq, and_iff_right rfl, ih]
      simp [Ne.symm noQuote, Ne.symm noNewline]
    · have longer : (sourced c).length = 2 := by
        unfold sourced at same ⊢
        split_ifs at same ⊢ <;> simp_all
      have kept := length_le_flatMap_sourced text
      have changed : (c :: text).flatMap sourced ≠ c :: text := by
        intro equal
        have lengths := congrArg List.length equal
        rw [List.flatMap_cons, List.length_append, List.length_cons] at lengths
        omega
      rw [sourced_eq_iff, not_and_or, not_not, not_not] at same
      simp only [changed, false_iff, List.mem_cons, not_or, not_and_or, not_not]
      rcases same with rfl | rfl <;> simp

end Escaping

section Lines
variable {key value : String}

theorem not_reserved_of_nameChar (char : nameChar c) : c ∉ reserved := by
  have none : ∀ c ∈ reserved, nameChar c = false := by
    simp [reserved, Lexer.operators, Lexer.expansions, nameChar]
  intro member
  exact absurd (char.symm.trans (none c member)) Bool.noConfusion

theorem nameChar_of_isName (name : isName text) : ∀ c ∈ text, nameChar c := by
  cases text with
  | nil => exact fun _ member => nomatch member
  | cons first rest =>
    obtain ⟨start, rest⟩ := Bool.and_eq_true_iff.mp name
    refine List.forall_mem_cons.mpr ⟨?_, List.all_eq_true.mp rest⟩
    simp_all [nameStart, nameChar, Char.isAlphanum]
    tauto

theorem not_isSpace_of_nameChar (char : nameChar c) : isSpace c = false := by
  have range : 48 ≤ c.toNat ∧ c.toNat ≤ 122 := by
    change (decide ('A'.val ≤ c.val ∧ c.val ≤ 'Z'.val) || ('a'.val ≤ c.val && c.val ≤ 'z'.val) ||
      ('0'.val ≤ c.val && c.val ≤ '9'.val) || c = '_') = true at char
    simp only [Bool.or_eq_true, Bool.and_eq_true, decide_eq_true_eq, UInt32.le_iff_toNat_le] at char
    rcases char with ((upper | lower) | digit) | rfl
    · exact ⟨Nat.le_trans (by decide) upper.1, Nat.le_trans upper.2 (by decide)⟩
    · exact ⟨Nat.le_trans (by decide) lower.1, Nat.le_trans lower.2 (by decide)⟩
    · exact ⟨Nat.le_trans (by decide) digit.1, Nat.le_trans digit.2 (by decide)⟩
    · decide
  simp [isSpace]
  omega

theorem trimSpace_eq (name : isName key.toList) : trimSpace key = key := by
  have noSpace : ∀ c ∈ key.toList, isSpace c = false := fun c member =>
    not_isSpace_of_nameChar (nameChar_of_isName name c member)
  have stays (text : List Char) (noSpace : ∀ c ∈ text, isSpace c = false) :
      text.dropWhile isSpace = text := by
    cases text with
    | nil => rfl
    | cons c text => rw [List.dropWhile_cons_of_neg (by simp [noSpace])]
  rw [trimSpace, stays _ noSpace, stays _ (by simpa using noSpace), List.reverse_reverse,
    String.ofList_toList]

def exportCommand (key value : String) : Command :=
  [[.bare "export".toList],
    [.bare (key.toList ++ ['=']), .double (escapeNewlines (escapeChars value)).toList]]

theorem foldlM_exportLine (name : isName key.toList) (noNul : '\x00' ∉ value.toList) :
    (exportLine key value).toList.foldlM Lexer.step ⟨.bare, [], [], [], commands⟩ =
      .ok ⟨.bare, [], [], [], commands ++ [exportCommand key value]⟩ := by
  have text : (exportLine key value).toList = "export".toList ++ ' ' :: ((key.toList ++ ['=']) ++
      '"' :: ((escapeNewlines (escapeChars value)).toList ++ ['"', '\n'])) := by
    simp [exportLine, trimSpace_eq name]
  have plainName : ∀ c ∈ key.toList ++ ['='], c ∉ reserved := by
    refine List.forall_mem_append.mpr ⟨fun c member =>
      ?_, by simp [reserved, Lexer.operators, Lexer.expansions]⟩
    exact not_reserved_of_nameChar (nameChar_of_isName name c member)
  have plainExport :
    ∀ c ∈ "export".toList, c ∉ reserved := by simp [reserved, Lexer.operators, Lexer.expansions]
  have body : Body (escapeNewlines (escapeChars value)).toList :=
    toList_escaped ▸ body_flatMap_escaped noNul
  rw [text, foldlM_text (foldlM_bare plainExport), foldlM_step (step_blank (by simp)),
    foldlM_text (foldlM_bare plainName), foldlM_step (step_open (by simp)),
    foldlM_text (foldlM_double body), foldlM_step step_close, foldlM_step (step_newline (by simp)),
    List.foldlM_nil]
  simp [exportCommand, pure, Except.pure]

end Lines

section File
variable {k : KubeEnvMap} {key : String} {keyList : List String} {value : String → String}

/-- The keys can name variables, and the values can be held by them. -/
structure Sourceable (k : KubeEnvMap) : Prop where
  names : ∀ key ∈ k, isName key.toList
  noNul : ∀ key value, k.lookup key = some value → '\x00' ∉ value.toList

def valueOf (k : KubeEnvMap) (key : String) : String := (k.lookup key).getD ""

theorem Sourceable.listed (sourceable : Sourceable k) :
    ∀ key ∈ keys k, isName key.toList ∧ '\x00' ∉ (valueOf k key).toList := by
  intro key member
  obtain ⟨value, found⟩ := Finmap.mem_iff.mp (mem_keys.mp member)
  rw [valueOf, found, Option.getD_some]
  exact ⟨sourceable.names key (mem_keys.mp member), sourceable.noNul key value found⟩

theorem of_lookup_singleton {held value other : String}
    (found : (Finmap.singleton key value : KubeEnvMap).lookup other = some held) : other = key ∧
      held = value := by
  have member : other ∈ (Finmap.singleton key value : KubeEnvMap) :=
    Finmap.mem_of_lookup_eq_some found
  obtain rfl := (Finmap.mem_singleton other key value).mp member
  rw [Finmap.lookup_singleton_eq, Option.some_inj] at found
  exact ⟨rfl, found.symm⟩

theorem sourceable_singleton {value : String} (name : isName key.toList)
    (noNul : '\x00' ∉ value.toList) : Sourceable (Finmap.singleton key value) where
  names other member := (Finmap.mem_singleton other key value).mp member ▸ name
  noNul _ _ found := (of_lookup_singleton found).2 ▸ noNul

theorem toKubeEnv_singleton (key value : String) :
    toKubeEnv (Finmap.singleton key value) = [exportLine key value] := by
  rw [toKubeEnv, keys, Finmap.keys_singleton, Finset.sort_singleton, List.map_singleton,
    Finmap.lookup_singleton_eq]
  rfl

theorem foldlM_exportLines
    (fits : ∀ key ∈ keyList, isName key.toList ∧ '\x00' ∉ (value key).toList) :
    (keyList.flatMap fun key => (exportLine key (value key)).toList).foldlM Lexer.step
      ⟨.bare, [], [], [], commands⟩ =
      .ok ⟨.bare, [], [], [], commands ++ keyList.map fun key =>
      exportCommand key (value key)⟩ := by
  induction keyList generalizing commands with
  | nil => simp [pure, Except.pure]
  | cons key keyList ih =>
    obtain ⟨⟨name, noNul⟩, fits⟩ := List.forall_mem_cons.mp fits
    rw [List.flatMap_cons, foldlM_text (foldlM_exportLine name noNul), ih fits, List.map_cons,
      List.append_assoc, List.singleton_append]

theorem toList_join_toKubeEnv (k : KubeEnvMap) :
    (String.join (toKubeEnv k)).toList = (keys k).flatMap fun key =>
    (exportLine key (valueOf k key)).toList := by
  rw [String.toList_join, toKubeEnv, List.flatMap_map]
  rfl

theorem lex_join_toKubeEnv (sourceable : Sourceable k) :
    lex (String.join (toKubeEnv k)).toList =
      .ok ((keys k).map fun key => exportCommand key (valueOf k key)) := by
  rw [lex, toList_join_toKubeEnv, Lexer.start, foldlM_exportLines sourceable.listed]
  rfl

theorem newline_not_escaped (text : List Char) : '\n' ∉ text.flatMap escaped := by
  intro member
  obtain ⟨c, -, inside⟩ := List.mem_flatMap.mp member
  unfold escaped at inside
  split_ifs at inside with special newline
  · simp only [List.mem_cons, List.not_mem_nil, or_false] at inside
    rcases inside with backslash | rfl
    · exact absurd backslash (by decide)
    · exact absurd special (by decide)
  · exact absurd inside (by decide)
  · exact newline (List.mem_singleton.mp inside).symm

theorem count_exportLine (name : isName key.toList) (value : String) :
    (exportLine key value).toList.count '\n' = 1 := by
  have noKey : '\n' ∉ key.toList := fun member =>
    not_reserved_of_nameChar (nameChar_of_isName name _ member) (by decide)
  have noValue : '\n' ∉ (escapeNewlines (escapeChars value)).toList :=
    toList_escaped ▸ newline_not_escaped _
  simp [exportLine, trimSpace_eq name, List.count_eq_zero_of_not_mem noKey,
    List.count_eq_zero_of_not_mem noValue]

theorem count_exportLines (names : ∀ key ∈ keyList, isName key.toList) :
    (keyList.flatMap fun key => (exportLine key (value key)).toList).count '\n' =
      keyList.length := by
  induction keyList with
  | nil => rfl
  | cons key keyList ih =>
    obtain ⟨name, names⟩ := List.forall_mem_cons.mp names
    rw [List.flatMap_cons, List.count_append, count_exportLine name, ih names, List.length_cons,
      Nat.add_comm]

/-- `kube.env` is read as one export for each key, in their order, on a line of its own, and as
nothing else. The value is all that stands between the double quotes. -/
theorem lex_toKubeEnv (sourceable : Sourceable k) :
    lex (String.join (toKubeEnv k)).toList =
      .ok ((keys k).map fun key => exportCommand key (valueOf k key)) ∧
      (String.join (toKubeEnv k)).toList.count '\n' = (keys k).length ∧
      (keys k).Pairwise (· < ·) ∧ ∀ key, key ∈ keys k ↔ key ∈ k := by
  refine ⟨lex_join_toKubeEnv sourceable, ?_, ?_, fun key => mem_keys⟩
  · rw [toList_join_toKubeEnv]
    exact count_exportLines fun key member => (sourceable.listed key member).1
  · exact (Finset.sortedLT_sort (Finmap.keys k)).pairwise

/-- A value that would run a command, were it not for the backslashes. -/
theorem lex_toKubeEnv_reboot :
    lex (String.join (toKubeEnv (Finmap.singleton "MOTD" "\\\"; $(reboot)\n"))).toList =
      .ok [[[.bare "export".toList],
      [.bare "MOTD=".toList, .double "\\\\\\\"; \\$(reboot)\\n".toList]]] := by
  refine (lex_toKubeEnv (sourceable_singleton (by decide) (by decide))).1.trans ?_
  rw [keys, Finmap.keys_singleton, Finset.sort_singleton, List.map_singleton, valueOf,
    Finmap.lookup_singleton_eq]
  decide

theorem execute_exportCommand (name : isName key.toList) {value : String}
    (noNul : '\x00' ∉ value.toList) (env : Bindings) : execute env (exportCommand key value) =
      .ok (Function.update env key (some (String.ofList (value.toList.flatMap sourced)))) := by
  have words : (exportCommand key value).map Word.value =
      ["export".toList, key.toList ++ '=' :: value.toList.flatMap sourced] := by
    simp [exportCommand, Word.value, Segment.value, toList_escaped, unescape_flatMap_escaped noNul]
  have noEqual : ∀ c ∈ key.toList, c ≠ '=' := fun c member same =>
    absurd (same ▸ nameChar_of_isName name c member) (by decide)
  have taken :
      (key.toList ++ '=' :: value.toList.flatMap sourced).takeWhile (· ≠ '=') = key.toList := by
    rw [List.takeWhile_append_of_pos (by simpa using noEqual)]
    simp
  have dropped : (key.toList ++ '=' :: value.toList.flatMap sourced).dropWhile (· ≠ '=') =
      '=' :: value.toList.flatMap sourced := by
    rw [List.dropWhile_append_of_pos (by simpa using noEqual)]
    simp
  rw [execute, words]
  simp only [if_true, List.foldlM_cons, assign, taken, dropped, if_pos name, String.ofList_toList]
  rfl

theorem foldlM_execute (fits : ∀ key ∈ keyList, isName key.toList ∧ '\x00' ∉ (value key).toList)
    (env : Bindings) :
    (keyList.map fun key => exportCommand key (value key)).foldlM execute env = .ok fun key =>
      if key ∈ keyList then some (String.ofList ((value key).toList.flatMap sourced))
      else env key := by
  induction keyList generalizing env with
  | nil => rfl
  | cons first keyList ih =>
    obtain ⟨⟨name, noNul⟩, fits⟩ := List.forall_mem_cons.mp fits
    rw [List.map_cons, List.foldlM_cons, execute_exportCommand name noNul]
    refine (ih fits _).trans (congrArg Except.ok (funext fun key => ?_))
    by_cases same : key = first
    · subst same
      simp
    · simp [same]

/-- The shell's variables get the values of the map exactly where no value has a single quote or a
newline. -/
theorem source_toKubeEnv_iff (sourceable : Sourceable k) (env : Bindings) :
    (∃ after, source (String.join (toKubeEnv k)).toList env = .ok after ∧
      ∀ key value, k.lookup key = some value → after key = some value) ↔
    ∀ key value, k.lookup key = some value → '\'' ∉ value.toList ∧ '\n' ∉ value.toList := by
  have ran : source (String.join (toKubeEnv k)).toList env = .ok fun key =>
      if key ∈ keys k then some (String.ofList ((valueOf k key).toList.flatMap sourced)) else env key := by
    rw [source, lex_join_toKubeEnv sourceable]
    exact foldlM_execute sourceable.listed env
  have held {key value : String} (found : k.lookup key = some value) :
      (if key ∈ keys k then some (String.ofList ((valueOf k key).toList.flatMap sourced))
        else env key) = some value ↔ '\'' ∉ value.toList ∧ '\n' ∉ value.toList := by
    rw [if_pos (mem_keys.mpr (Finmap.mem_iff.mpr ⟨value, found⟩)), valueOf, found,
      Option.getD_some, Option.some_inj,
      ← flatMap_sourced_iff, ← String.toList_inj, String.toList_ofList]
  constructor
  · rintro ⟨after, sources, holds⟩ key value found
    obtain rfl := Except.ok.inj (ran.symm.trans sources)
    exact (held found).mp (holds key value found)
  · intro clean
    exact ⟨_, ran, fun key value found => (held found).mpr (clean key value found)⟩

theorem source_toKubeEnv_dollar :
    ∃ after, source (String.join (toKubeEnv (Finmap.singleton "PRICE" "5$"))).toList (fun _ =>
      none) = .ok after ∧
      ∀ key value, (Finmap.singleton "PRICE" "5$" : KubeEnvMap).lookup key = some value →
      after key = some value := by
  refine (source_toKubeEnv_iff (sourceable_singleton (by decide) (by decide)) _).mpr fun key value
    found => ?_
  obtain ⟨-, rfl⟩ := of_lookup_singleton found
  decide

/-- The backslash that is put before a single quote stays in the value. -/
theorem source_toKubeEnv_quote :
    Sourceable (Finmap.singleton "MOTD" "it's") ∧
      (source (String.join (toKubeEnv (Finmap.singleton "MOTD" "it's"))).toList fun _ =>
        none).map (· "MOTD") = .ok (some "it\\'s") := by
  refine ⟨sourceable_singleton (by decide) (by decide), ?_⟩
  rw [toKubeEnv_singleton]
  decide

end File
end Nodelet.KubeEnvMap
