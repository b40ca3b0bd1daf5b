import Nodelet.Fileio
import Nodelet.NativePhases

/-! The cloud configuration of the kubelet, as the Go code writes it and as the shell did. -/
namespace Nodelet.Kubeutils
open Go (Error)
open Go.Base64 Constants Fileio

def writeCloudProviderConfig (cfg : Config) (files : Fileio.Files) : Option Error × Fileio.Files :=
  if cfg.kubeletCloudConfig = "" then (none, files)
  else writeToFileWithBase64Decoding cloudConfigFile cfg.kubeletCloudConfig files

/-- The phase's own call is this one, with what it does to the files left out. -/
theorem native_writeCloudProviderConfig {Data : Type} {calls : NativePhase.Calls Data}
    (calling : ∀ dest src, calls.writeToFileWithBase64Decoding dest src =
      (writeToFileWithBase64Decoding dest src files).1) :
    NativePhase.writeCloudProviderConfig calls cfg =
      NativePhase.orFail (writeCloudProviderConfig cfg files).1 := by
  by_cases empty : cfg.kubeletCloudConfig = ""
  · simp [NativePhase.writeCloudProviderConfig, writeCloudProviderConfig, empty, NativePhase.orFail]
  · simp [NativePhase.writeCloudProviderConfig, writeCloudProviderConfig, empty, calling]

/-- `echo $value | base64 --decode`: what it writes, or its failure. What is encoded is decoded. -/
structure Shell where
  decode : String → Except Error (List UInt8)
  encoded : ∀ value bytes, Go.Utf8.bytes value = stdEncoding.encodeToString bytes →
    decode value = .ok bytes

variable {shell : Shell} {cfg : Config} {files : Fileio.Files}

/-- Succeeds exactly when the shell does, and then writes the same. -/
def Agrees (shell : Shell) (cfg : Config) (files : Fileio.Files) : Prop :=
  let (err, after) := writeCloudProviderConfig cfg files
  (err = none ↔ ∃ out, shell.decode cfg.kubeletCloudConfig = .ok out) ∧
    ∀ out, err = none → shell.decode cfg.kubeletCloudConfig = .ok out →
      after.contents cloudConfigFile = .ok out

/-- The path `value` names a file of base64 text for `out`: without padding, and with fewer than
four line ends. -/
def Names (files : Fileio.Files) (value : String) (out : List UInt8) : Prop :=
  ∃ src, files.contents value = .ok src ∧ stdEncoding.decodeString src = .ok out ∧ 61 ∉ src ∧
    src.countP lineEnd < 4

/-- The file that the value names, if any, is base64 text exactly where the value is such text, and
of the same bytes. -/
structure Stands (shell : Shell) (files : Fileio.Files) (value : String) : Prop where
  valid : ∀ out, shell.decode value = .ok out → Names files value out
  invalid : (∀ out, shell.decode value ≠ .ok out) →
    ∀ src, files.contents value = .ok src → ¬ stdEncoding.WellFormed (unwrap src)

theorem Names.wellFormed (names : Names files value out) :
    ∃ src, files.contents value = .ok src ∧ stdEncoding.WellFormed (unwrap src) := by
  obtain ⟨src, contents, decodes, -⟩ := names
  exact ⟨src, contents, Encoding.decodeString_ok_iff.mp ⟨out, decodes⟩⟩

/-- The value is only ever taken for a path. -/
theorem writeCloudProviderConfig_cases (given : cfg.kubeletCloudConfig ≠ "")
    (writable : files.refused cloudConfigFile = none) :
    (∃ src d, files.contents cfg.kubeletCloudConfig = .ok src ∧ stdEncoding.decodeString src = .ok d ∧
        writeCloudProviderConfig cfg files = (none, files.put cloudConfigFile
          (d ++ List.replicate (src.count 61 + src.countP lineEnd / 4 * 3) 0))) ∨
      (∃ err, writeCloudProviderConfig cfg files = (some err, files)) ∧
        ∀ src, files.contents cfg.kubeletCloudConfig = .ok src → ¬ stdEncoding.WellFormed (unwrap src) := by
  rw [writeCloudProviderConfig, if_neg given]
  cases contents : files.contents cfg.kubeletCloudConfig with
  | error err =>
    exact .inr ⟨⟨err, by simp [writeToFileWithBase64Decoding, readFile, contents]⟩, by simp⟩
  | ok src =>
    by_cases shape : stdEncoding.WellFormed (unwrap src)
    · obtain ⟨d, decodes⟩ := Encoding.decodeString_ok_iff.mpr shape
      exact .inl ⟨src, d, rfl, decodes,
        writeToFileWithBase64Decoding_of_decoded contents writable (decoded_eq decodes)⟩
    · refine .inr ⟨writeToFileWithBase64Decoding_of_malformed _ contents shape, fun other same => ?_⟩
      rwa [← Except.ok.inj same]

/-- Bytes that do not end in a zero have none appended. -/
theorem append_zeros_eq {d out : List UInt8} {count : Nat}
    (same : d ++ List.replicate count 0 = out)
    (last : out.getLast? ≠ some 0) : count = 0 ∧ d = out := by
  cases count with
  | zero => exact ⟨rfl, by simpa using same⟩
  | succ count =>
    refine absurd ?_ last
    rw [← same, List.replicate_succ']
    simp

/-- The implementations agree where the value stands for a file of its own bytes, and only there if
these do not end in a zero. -/
theorem writeCloudProviderConfig_agrees (given : cfg.kubeletCloudConfig ≠ "")
    (writable : files.refused cloudConfigFile = none) :
    (Stands shell files cfg.kubeletCloudConfig → Agrees shell cfg files) ∧
      ((∀ out, shell.decode cfg.kubeletCloudConfig = .ok out → out.getLast? ≠ some 0) →
        Agrees shell cfg files → Stands shell files cfg.kubeletCloudConfig) := by
  obtain ⟨src, d, contents, decodes, outcome⟩ | ⟨⟨err, outcome⟩, malformed⟩ :=
    writeCloudProviderConfig_cases given writable
  · have shape := Encoding.decodeString_ok_iff.mp ⟨d, decodes⟩
    simp only [Agrees, outcome, Fileio.Files.put, if_true, true_iff, forall_const]
    constructor
    · rintro ⟨valid, invalid⟩
      constructor
      · by_contra refused
        exact invalid (not_exists.mp refused) src contents shape
      · intro out accepted
        obtain ⟨src', contents', decodes', unpadded, lines⟩ := valid out accepted
        obtain rfl : src = src' := Except.ok.inj (contents.symm.trans contents')
        obtain rfl : d = out := Except.ok.inj (decodes.symm.trans decodes')
        have exactly : src.count 61 + src.countP lineEnd / 4 * 3 = 0 := by
          rw [List.count_eq_zero.mpr unpadded]
          omega
        rw [exactly, List.replicate_zero, List.append_nil]
    · rintro last ⟨⟨out, accepted⟩, same⟩
      constructor
      · intro out accepted
        obtain ⟨none, rfl⟩ := append_zeros_eq (Except.ok.inj (same out accepted)) (last out accepted)
        exact ⟨src, contents, decodes, List.count_eq_zero.mp (by omega), by omega⟩
      · intro refused
        exact absurd accepted (refused out)
  · simp only [Agrees, outcome, reduceCtorEq, false_iff, false_implies, implies_true, and_true]
    constructor
    · rintro ⟨valid, -⟩ ⟨out, accepted⟩
      obtain ⟨src, contents, shape⟩ := (valid out accepted).wellFormed
      exact malformed src contents shape
    · intro _ refused
      exact ⟨fun out accepted => absurd ⟨out, accepted⟩ refused, fun _ => malformed⟩

theorem encoded_value (shell : Shell) : shell.decode "aGVsbG8K" = .ok (ascii "hello\n") :=
  shell.encoded _ _ (by decide +kernel)

/-- A shell that skips the line ends which Go does. -/
theorem nonempty_shell : Nonempty Shell := by
  refine ⟨fun value => stdEncoding.decodeString (Go.Utf8.bytes value), fun value bytes same => ?_⟩
  rw [same]
  exact Encoding.decodeString_encodeToString bytes

/-- The value names a file that holds it. -/
theorem writeCloudProviderConfig_agrees_file :
    Nonempty Shell ∧ ∀ shell : Shell,
      Agrees shell { kubeletCloudConfig := "aGVsbG8K" }
      (holding "aGVsbG8K" (ascii "aGVsbG8K")) := by
  refine ⟨nonempty_shell, fun shell => (writeCloudProviderConfig_agrees (by decide) rfl).1 ⟨?_, ?_⟩⟩
  · intro out accepted
    obtain rfl : _ = out := Except.ok.inj ((encoded_value shell).symm.trans accepted)
    exact ⟨_, holding_contents _ _, by decide +kernel, by decide +kernel, by decide +kernel⟩
  · intro refused
    exact absurd (encoded_value shell) (refused _)

/-- No file has the value for its name, and the Go code fails. -/
theorem value_taken_for_path :
    let files := holding "cloud-config" []
    (writeCloudProviderConfig { kubeletCloudConfig := "aGVsbG8K" } files).1 =
        some "open aGVsbG8K: no such file or directory" ∧
      Nonempty Shell ∧ ∀ shell : Shell, shell.decode "aGVsbG8K" = .ok (ascii "hello\n") ∧
        ¬ Agrees shell { kubeletCloudConfig := "aGVsbG8K" } files := by
  intro files
  have outcome : (writeCloudProviderConfig { kubeletCloudConfig := "aGVsbG8K" } files).1 =
      some "open aGVsbG8K: no such file or directory" := by rfl
  refine ⟨outcome, nonempty_shell, fun shell => ⟨encoded_value shell, fun agrees => ?_⟩⟩
  have failed := (agrees.1.mpr ⟨_, encoded_value shell⟩ : _ = none)
  cases outcome.symm.trans failed

end Nodelet.Kubeutils
