import Nodelet.ConfigUpdate
import Nodelet.SourcedKubeEnv
import Nodelet.Go.Delete

/-! `kubelet.env`, which is `kube.env` with its export keywords deleted. -/
namespace Nodelet.KubeEnvMap
open Go Shell

def exportKeyword : List Char := ['e', 'x', 'p', 'o', 'r', 't', ' ']

/-- What `GenerateKubeletSystemdUnit` writes to `kubelet.env`. -/
def kubeletEnv (kubeEnv : String) : String := String.ofList (deleteAll exportKeyword kubeEnv.toList)

/-- The line of one key without its keyword. -/
def assignmentLine (key value : String) : String :=
    key ++ "=\"" ++ escapeNewlines (escapeChars value) ++ "\"\n"

section Escaped
variable {pattern text : List Char} {c : Char}

/-- Escaping does not write the character, nor does it change it. -/
def Plain (c : Char) : Prop := c ∉ charsToEscapeInVarExport ∧ c ≠ '\n' ∧ c ≠ 'n'

/-- A character that is not kept becomes two, and neither of them is plain. -/
theorem escaped_cases (c : Char) :
    escaped c = [c] ∨ ¬ Plain c ∧ ∃ d, escaped c = ['\\', d] ∧ ¬ Plain d := by
  by_cases special : c ∈ charsToEscapeInVarExport
  · have marked : ¬ Plain c := fun plain => plain.1 special
    exact .inr ⟨marked, c, if_pos special, marked⟩
  · by_cases newline : c = '\n'
    · refine .inr ⟨fun plain => plain.2.1 newline, 'n', ?_, fun plain => plain.2.2 rfl⟩
      rw [escaped, if_neg special, if_pos newline]
    · left
      rw [escaped, if_neg special, if_neg newline]

theorem not_plain_backslash : ¬ Plain '\\' := fun plain => plain.1 (by decide)

theorem not_prefix_cons (some : pattern ≠ []) (plain : ∀ c ∈ pattern, Plain c)
    (marked : ¬ Plain c) : ¬ pattern <+: c :: text := by
  rintro ⟨rest, same⟩
  obtain ⟨d, pattern, rfl⟩ := List.exists_cons_of_ne_nil some
  obtain ⟨rfl, -⟩ := List.cons.inj same
  exact marked (plain d List.mem_cons_self)

theorem prefix_flatMap_escaped (plain : ∀ c ∈ pattern, Plain c) :
    pattern <+: text.flatMap escaped ↔ pattern <+: text := by
  induction pattern generalizing text with
  | nil => simp
  | cons p pattern ih =>
    cases text with
    | nil => simp
    | cons c text =>
      obtain kept | ⟨marked, d, double, -⟩ := escaped_cases c
      · rw [List.flatMap_cons, kept, List.singleton_append, List.cons_prefix_cons,
          List.cons_prefix_cons, ih (List.forall_mem_cons.mp plain).2]
      · rw [List.flatMap_cons, double]
        exact iff_of_false (not_prefix_cons (by simp) plain not_plain_backslash)
          (not_prefix_cons (by simp) plain marked)

/-- Escaping neither makes an occurrence of plain characters nor breaks one. -/
theorem infix_flatMap_escaped (some : pattern ≠ []) (plain : ∀ c ∈ pattern, Plain c) :
    pattern <:+: text.flatMap escaped ↔ pattern <:+: text := by
  induction text with
  | nil => rfl
  | cons c text ih =>
    obtain kept | ⟨marked, d, double, marked'⟩ := escaped_cases c
    · have first : pattern <+: (c :: text).flatMap escaped ↔ pattern <+: c :: text := prefix_flatMap_escaped plain
      rw [List.flatMap_cons, kept, List.singleton_append] at first
      rw [List.flatMap_cons, kept, List.singleton_append, List.infix_cons_iff, List.infix_cons_iff, first, ih]
    · rw [List.flatMap_cons, double, List.infix_cons_iff, ← ih]
      simp only [List.cons_append, List.nil_append, List.infix_cons_iff,
        not_prefix_cons some plain not_plain_backslash,
        not_prefix_cons some plain marked, not_prefix_cons some plain marked', false_or]

end Escaped

section Lines
variable {key value : String}

theorem exportKeyword_ne_nil : exportKeyword ≠ [] := by decide

theorem plain_exportKeyword : ∀ c ∈ exportKeyword, Plain c := by
  simp [exportKeyword, Plain, charsToEscapeInVarExport]

theorem deleteAll_name (name : isName key.toList) :
    deleteAll exportKeyword key.toList = key.toList := by
  refine deleteAll_of_not_infix fun inside => ?_
  have char := nameChar_of_isName name ' ' (inside.subset (by decide))
  exact absurd char (by decide)

theorem deleteAll_exportLine (name : isName key.toList) (value : String) (rest : List Char) :
    deleteAll exportKeyword ((exportLine key value).toList ++ rest) =
      key.toList ++ '=' :: '"' ::
      (deleteAll exportKeyword (escapeNewlines (escapeChars value)).toList ++
        '"' :: '\n' :: deleteAll exportKeyword rest) := by
  have split : (exportLine key value).toList ++ rest =
      exportKeyword ++ (key.toList ++ '=' :: ([] ++ '"' :: ((escapeNewlines (escapeChars value)).toList ++
        '"' :: ([] ++ '\n' :: rest)))) := by
    simp [exportLine, trimSpace_eq name, exportKeyword]
  have some := exportKeyword_ne_nil
  rw [split, deleteAll_append_self some, deleteAll_append_cons some (by decide),
    deleteAll_append_cons some (by decide), deleteAll_append_cons some (by decide),
    deleteAll_append_cons some (by decide), deleteAll_name name]
  rfl

/-- What is left of the line of a key. -/
def leftLine (key value : String) : List Char :=
  key.toList ++ '=' :: '"' ::
    (deleteAll exportKeyword (escapeNewlines (escapeChars value)).toList ++ ['"', '\n'])

theorem toList_assignmentLine : (assignmentLine key value).toList =
    key.toList ++ '=' :: '"' :: ((escapeNewlines (escapeChars value)).toList ++ ['"', '\n']) := by
  simp [assignmentLine]

/-- A value keeps its line exactly if the keyword does not occur in it. -/
theorem leftLine_eq_iff :
    leftLine key value = (assignmentLine key value).toList ↔ ¬ exportKeyword <:+: value.toList := by
  rw [← infix_flatMap_escaped exportKeyword_ne_nil plain_exportKeyword, ← toList_escaped,
    ← deleteAll_eq_self exportKeyword_ne_nil, toList_assignmentLine]
  simp [leftLine]

theorem length_leftLine_le :
    (leftLine key value).length ≤ (assignmentLine key value).toList.length := by
  have shorter :
    (deleteAll exportKeyword (escapeNewlines (escapeChars value)).toList).length ≤ _ :=
      length_deleteFrom_le
  rw [toList_assignmentLine, leftLine]
  simpa using shorter

end Lines

variable {k : KubeEnvMap} {keyList : List String} {value : String → String}

theorem deleteAll_exportLines (names : ∀ key ∈ keyList, isName key.toList) :
    deleteAll exportKeyword (keyList.flatMap fun key => (exportLine key (value key)).toList) =
      keyList.flatMap fun key => leftLine key (value key) := by
  induction keyList with
  | nil => rfl
  | cons key keyList ih =>
    obtain ⟨name, names⟩ := List.forall_mem_cons.mp names
    rw [List.flatMap_cons, deleteAll_exportLine name, ih names, List.flatMap_cons, leftLine]
    simp

variable {f g : String → List Char}

theorem length_flatMap_le (shorter : ∀ key ∈ keyList, (f key).length ≤ (g key).length) :
    (keyList.flatMap f).length ≤ (keyList.flatMap g).length := by
  induction keyList with
  | nil => exact Nat.le_refl _
  | cons key keyList ih =>
    obtain ⟨first, rest⟩ := List.forall_mem_cons.mp shorter
    rw [List.flatMap_cons, List.flatMap_cons, List.length_append, List.length_append]
    exact Nat.add_le_add first (ih rest)

/-- Lines that are no longer than others, and together the same, are the same one by one. -/
theorem flatMap_inj_of_length_le (shorter : ∀ key ∈ keyList, (f key).length ≤ (g key).length)
    (same : keyList.flatMap f = keyList.flatMap g) : ∀ key ∈ keyList, f key = g key := by
  induction keyList with
  | nil => simp
  | cons key keyList ih =>
    obtain ⟨first, rest⟩ := List.forall_mem_cons.mp shorter
    rw [List.flatMap_cons, List.flatMap_cons] at same
    have length : (f key).length = (g key).length := by
      have total := congrArg List.length same
      have later := length_flatMap_le rest
      rw [List.length_append, List.length_append] at total
      omega
    obtain ⟨here, there⟩ := List.append_inj same length
    exact List.forall_mem_cons.mpr ⟨here, ih rest there⟩

theorem kubeletEnv_kubeEnvText (names : ∀ key ∈ k, isName key.toList) :
    (kubeletEnv (kubeEnvText k)).toList =
      fileHeader.toList ++ (keys k).flatMap fun key => leftLine key (valueOf k key) := by
  have header : ∃ line, fileHeader.toList = line ++ ['\n'] ∧ ¬ exportKeyword <:+: line := by
    refine ⟨("# " ++ Constants.generatedFileHeader).toList, by simp [fileHeader], ?_⟩
    decide +kernel
  obtain ⟨line, ends, absent⟩ := header
  have listed : ∀ key ∈ keys k, isName key.toList := fun key member =>
    names key (mem_keys.mp member)
  rw [kubeletEnv, String.toList_ofList, kubeEnvText, String.toList_append, toList_join_toKubeEnv,
    ends, List.append_assoc, List.singleton_append,
    deleteAll_append_cons exportKeyword_ne_nil (by decide), deleteAll_of_not_infix absent,
    deleteAll_exportLines listed, List.append_assoc, List.singleton_append]

theorem writeEnvMapToKubeEnvFile_kubeletEnv_iff {outcome : FileOutcome} {file : Option String}
    {text : String} (names : ∀ key ∈ k, isName key.toList) (complete : outcome.Complete)
    (written : writeEnvMapToKubeEnvFile outcome k file = some text) :
    kubeletEnv text =
      fileHeader ++ String.join ((keys k).map fun key => assignmentLine key (valueOf k key)) ↔
      ∀ key value, k.lookup key = some value → ¬ exportKeyword <:+: value.toList := by
  obtain rfl : kubeEnvText k = text := by
    rw [writeEnvMapToKubeEnvFile_complete complete] at written
    exact Option.some.inj written
  have lines : kubeletEnv (kubeEnvText k) =
      fileHeader ++ String.join ((keys k).map fun key => assignmentLine key (valueOf k key)) ↔
        ((keys k).flatMap fun key => leftLine key (valueOf k key)) =
          (keys k).flatMap fun key => (assignmentLine key (valueOf k key)).toList := by
    rw [← String.toList_inj, kubeletEnv_kubeEnvText names, String.toList_append,
      String.toList_join, List.flatMap_map, List.append_cancel_left_eq]
  rw [lines]
  constructor
  · intro same key value found
    have line := flatMap_inj_of_length_le (fun _ _ => length_leftLine_le) same key
      (mem_keys.mpr (Finmap.mem_of_lookup_eq_some found))
    rw [leftLine_eq_iff, valueOf, found] at line
    exact line
  · intro absent
    refine List.flatMap_congr fun key member => leftLine_eq_iff.mpr ?_
    obtain ⟨value, found⟩ := Finmap.mem_iff.mp (mem_keys.mp member)
    rw [valueOf, found]
    exact absent key value found

theorem keys_singleton (key value : String) : keys (Finmap.singleton key value) = [key] := by
  rw [keys, Finmap.keys_singleton, Finset.sort_singleton]

theorem valueOf_singleton (key value : String) :
    valueOf (Finmap.singleton key value) key = value := by
  rw [valueOf, Finmap.lookup_singleton_eq, Option.getD_some]

theorem keys_insert {key value : String} (least : ∀ other ∈ k, key < other) :
    keys (k.insert key value) = key :: keys k := by
  have members : Finmap.keys (k.insert key value) = insert key (Finmap.keys k) := by
    ext other
    rw [Finmap.mem_keys, Finmap.mem_insert, Finset.mem_insert, Finmap.mem_keys]
  rw [keys, members, Finset.sort_insert]
  · rfl
  · exact fun other member => (least other (Finmap.mem_keys.mp member)).le
  · exact fun member => lt_irrefl key (least key (Finmap.mem_keys.mp member))

/-- The first value is not far from the keyword. -/
def twoSettings : KubeEnvMap := (Finmap.singleton "REBOOT" "1").insert "MODE" "exporter"

theorem kubeletEnv_twoSettings :
    kubeletEnv (kubeEnvText twoSettings) = fileHeader ++ "MODE=\"exporter\"\nREBOOT=\"1\"\n" := by
  have later : ∀ other ∈ (Finmap.singleton "REBOOT" "1" : KubeEnvMap), "MODE" < other := by
    intro other member
    rw [(Finmap.mem_singleton other _ _).mp member]
    decide
  have listed :
    keys twoSettings = ["MODE", "REBOOT"] := by rw [twoSettings, keys_insert later, keys_singleton]
  have mode : twoSettings.lookup "MODE" = some "exporter" := Finmap.lookup_insert _
  have reboot : twoSettings.lookup "REBOOT" = some "1" :=
    (Finmap.lookup_insert_of_ne _ (by decide)).trans Finmap.lookup_singleton_eq
  have known : ∀ key ∈ twoSettings, key = "MODE" ∨ key = "REBOOT" := by
    intro key member
    simpa [listed] using mem_keys.mpr member
  have names : ∀ key ∈ twoSettings, isName key.toList := by
    intro key member
    obtain rfl | rfl := known key member <;> decide
  have absent : ∀ key value, twoSettings.lookup key = some value →
      ¬ exportKeyword <:+: value.toList := by
    intro key value found
    obtain rfl | rfl := known key (Finmap.mem_of_lookup_eq_some found)
    · obtain rfl := Option.some.inj (mode.symm.trans found)
      decide
    · obtain rfl := Option.some.inj (reboot.symm.trans found)
      decide
  have complete : FileOutcome.Complete ⟨true, fun _ => .complete⟩ := ⟨rfl, fun _ => rfl⟩
  have same := (writeEnvMapToKubeEnvFile_kubeletEnv_iff names complete
    (writeEnvMapToKubeEnvFile_complete complete _ none)).mpr absent
  rw [same, listed, List.map_cons, List.map_singleton, valueOf, valueOf, mode, reboot]
  decide +kernel

/-- The value names another program's keyword, and loses it. -/
theorem keyword_lost_in_value :
    let k : KubeEnvMap := Finmap.singleton "HINT" "run export first"
    kubeEnvText k = fileHeader ++ "export HINT=\"run export first\"\n" ∧
      kubeletEnv (kubeEnvText k) = fileHeader ++ "HINT=\"run first\"\n" ∧
      kubeletEnv (kubeEnvText k) ≠
        fileHeader ++ String.join ((keys k).map fun key => assignmentLine key (valueOf k key)) := by
  intro k
  have names : ∀ key ∈ k, isName key.toList := by
    intro key member
    rw [(Finmap.mem_singleton key _ _).mp member]
    decide
  have written : kubeletEnv (kubeEnvText k) = fileHeader ++ "HINT=\"run first\"\n" := by
    rw [← String.toList_inj, kubeletEnv_kubeEnvText names, keys_singleton, String.toList_append,
      List.flatMap_singleton, valueOf_singleton]
    congr 1
  refine ⟨?_, written, ?_⟩
  · rw [kubeEnvText, toKubeEnv_singleton]
    decide +kernel
  · rw [written, keys_singleton, List.map_singleton, valueOf_singleton]
    decide +kernel

end Nodelet.KubeEnvMap
