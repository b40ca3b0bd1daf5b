import Nodelet.ConfigOrder

/-! Whether the two configuration files stay in agreement over many updates, when
writes can fail. Only `config_sunpike.yaml` is compared with what arrives, so it
must never vouch for a `kube_sunpike.env` that was not written for it. -/
namespace Nodelet
open Sunpike

/-- The configuration that is read back is the one `kube_sunpike.env` was written for. -/
def Files.Consistent (codec : Codec) (files : Files) : Prop :=
  ∀ m, m ≠ ∅ → currentKubeEnv codec none files.config = some m → ∀ text, files.kubeEnv = some text →
    text = kubeEnvText m

/-- Both files are written completely, or neither could be opened, or what is left of
`config_sunpike.yaml` holds no mapping. -/
def UpdateCall.Undamaged (codec : Codec) (call : UpdateCall) : Prop :=
  (call.outcomes.kubeEnv.Complete ∧ call.outcomes.config.Complete) ∨
  (call.outcomes.kubeEnv.opens = false ∧ call.outcomes.config.opens = false) ∨
  (call.outcomes.config.opens = true ∧ ∀ m, m ≠ ∅ →
    codec.unmarshal (call.outcomes.config.text [codec.marshal (call.kubeEnvMap codec)]) ≠ .ok
      (some m))

/-- Successive calls with any hosts, across restarts, whose writes are undamaged. -/
inductive Updates (codec : Codec) (first : Files) : Files → Prop where
  | refl : Updates codec first first
  | next (earlier : Updates codec first files) (call : UpdateCall)
      (undamaged : (handleConfigUpdate codec call files).1 = .updated → call.Undamaged codec) :
      Updates codec first (handleConfigUpdate codec call files).2

variable {codec : Codec}

theorem unmarshal_of_current (current : currentKubeEnv codec none (some contents) = some m) :
    codec.unmarshal contents = .ok (some m) := by
  simp only [currentKubeEnv, fetchKubeEnvMapFromConfigFile] at current
  cases decoded : codec.unmarshal contents with
  | error err => simp [decoded] at current
  | ok kubeEnv =>
    simp only [decoded] at current
    rw [current]

theorem currentKubeEnv_of_read {read : Option Go.Error}
    (current : currentKubeEnv codec read config = some m) (nonempty : m ≠ ∅) :
    currentKubeEnv codec none config = some m := by
  cases read with
  | none => exact current
  | some err =>
    cases config with
    | none => exact absurd (Option.some.inj current).symm nonempty
    | some contents => simp [currentKubeEnv, fetchKubeEnvMapFromConfigFile] at current

theorem Files.consistent_of_hold {files : Files} (roundTrip : codec.RoundTrip) (nonempty : m ≠ ∅)
    (hold : files.Hold codec m) : files.Consistent codec := by
  intro m' _ current text found
  rw [hold.1, currentKubeEnv_written roundTrip nonempty] at current
  rw [hold.2] at found
  rw [← Option.some.inj current, ← Option.some.inj found]

section Step
variable {codec : Codec} {call : UpdateCall} {files : Files}

theorem Files.Consistent.handled (consistent : files.Consistent codec) (roundTrip : codec.RoundTrip)
    (undamaged : (handleConfigUpdate codec call files).1 = .updated → call.Undamaged codec) :
    (handleConfigUpdate codec call files).2.Consistent codec := by
  have handled := handleConfigUpdate_handled codec call files
  generalize (handleConfigUpdate codec call files).1 = branch at handled undamaged
  generalize (handleConfigUpdate codec call files).2 = written at handled
  cases handled with
  | kept | unchanged => exact consistent
  | updated nonempty accepted =>
    rcases undamaged rfl with ⟨kubeEnv, config⟩ | ⟨kubeEnv, config⟩ | ⟨opened, unparsable⟩
    · apply Files.consistent_of_hold roundTrip (call.kubeEnvMap_ne_empty codec)
      exact ⟨writeEnvMapToNodeletConfigFile_complete config codec _ _,
        writeEnvMapToKubeEnvFile_complete kubeEnv _ _⟩
    · simpa [writeEnvMapToKubeEnvFile, writeEnvMapToNodeletConfigFile, writeFile, kubeEnv, config] using consistent
    · intro m nonemptyMap current
      simp only [writeEnvMapToNodeletConfigFile, writeFile, opened, if_true] at current
      exact absurd (unmarshal_of_current current) (unparsable m nonemptyMap)

end Step

theorem Updates.consistent (run : Updates codec first files) (roundTrip : codec.RoundTrip)
    (start : first.Consistent codec) : files.Consistent codec := by
  induction run with
  | refl => exact start
  | next earlier call undamaged ih => exact ih.handled roundTrip undamaged

/-- After any undamaged updates: a call that finds nothing changed leaves a
`kube_sunpike.env` that holds exactly the configuration of its host. -/
theorem unchanged_kubeEnv_exact (codec : Codec) (roundTrip : codec.RoundTrip)
    (start : first.Consistent codec) (run : Updates codec first files) (call : UpdateCall)
    (agree : ExtraKeysAgree codec.toUpper call.host)
    (unchanged : handleConfigUpdate codec call files = (.unchanged, after)) :
    after = files ∧ ∀ order, Iterates call.host order →
      after.kubeEnv =
      some (kubeEnvText (convertHostToKubeEnvMap codec.toUpper call.host order)) := by
  have handled := handleConfigUpdate_handled codec call files
  rw [unchanged] at handled
  generalize same : Branch.unchanged = branch at handled
  cases handled with
  | kept _ nothing =>
    subst same
    simp at nothing
  | updated => contradiction
  | unchanged _ present current =>
    refine ⟨rfl, fun order iterates => ?_⟩
    have sameMap : convertHostToKubeEnvMap codec.toUpper call.host order = call.kubeEnvMap codec :=
      (Go.Map.fillAbsent_perm_iff (extraEntries call.host)).mpr agree _ _ iterates call.iterates
    obtain ⟨text, found⟩ := Option.isSome_iff_exists.mp present
    have nonempty := call.kubeEnvMap_ne_empty codec
    rw [found, sameMap,
      run.consistent roundTrip start _ nonempty (currentKubeEnv_of_read current nonempty) _ found]

/-- A host with one setting of its own. -/
def plainHost : Host where
  name := "node"
  spec := { servicesCIDR := "10.21.0.0/16" }

def plainCall (outcomes : Outcomes) : UpdateCall where
  host := plainHost
  order := []
  iterates := .nil
  outcomes := outcomes

theorem plainHost_agree : ExtraKeysAgree wordCodec.toUpper plainHost := by
  intro a member
  contradiction

theorem noFiles_consistent (codec : Codec) : noFiles.Consistent codec := by
  intro m _ _ text found
  contradiction

def plainMap : KubeEnvMap := convertHostToKubeEnvMap wordCodec.toUpper plainHost []

theorem plainCall_updated (outcomes : Outcomes) :
    handleConfigUpdate wordCodec (plainCall outcomes) noFiles = (.updated, {
      kubeEnv := writeEnvMapToKubeEnvFile outcomes.kubeEnv plainMap none
      config := writeEnvMapToNodeletConfigFile wordCodec outcomes.config plainMap none }) := by
  have nonempty : plainHost.spec ≠ {} := by decide
  refine updated_of_changed wordCodec (plainCall outcomes) noFiles nonempty rfl fun same => ?_
  exact (plainCall outcomes).kubeEnvMap_ne_empty wordCodec (Option.some.inj same).symm

theorem plainCall_unchanged (kubeEnv : String) :
    handleConfigUpdate wordCodec (plainCall allComplete)
      ⟨some (fileHeader ++ wordCodec.marshal plainMap), some kubeEnv⟩ =
      (.unchanged, ⟨some (fileHeader ++ wordCodec.marshal plainMap), some kubeEnv⟩) := by
  have nonempty : plainHost.spec ≠ {} := by decide
  exact unchanged_of_written wordCodec_roundTrip rfl nonempty rfl rfl rfl

theorem unchanged_kubeEnv_exact_plain : ∃ files,
    handleAll wordCodec [plainCall allComplete, plainCall allComplete] noFiles =
    ([.updated, .unchanged], files) ∧ files.kubeEnv = some (kubeEnvText plainMap) := by
  have updated := plainCall_updated allComplete
  rw [writeEnvMapToNodeletConfigFile_complete allComplete_complete.config,
    writeEnvMapToKubeEnvFile_complete allComplete_complete.kubeEnv] at updated
  have unchanged := plainCall_unchanged (kubeEnvText plainMap)
  have run :
      Updates wordCodec noFiles (handleConfigUpdate wordCodec (plainCall allComplete) noFiles).2 :=
    .next .refl _ fun _ => .inl ⟨allComplete_complete.kubeEnv, allComplete_complete.config⟩
  rw [updated] at run
  obtain ⟨-, kubeEnv⟩ :=
    unchanged_kubeEnv_exact wordCodec wordCodec_roundTrip (noFiles_consistent wordCodec) run
    (plainCall allComplete) plainHost_agree unchanged
  refine ⟨_, ?_, kubeEnv [] .nil⟩
  rw [handleAll_cons, updated, handleAll_cons, unchanged, handleAll_nil]

/-- The disk is full while `kube_sunpike.env` is written, and has room again for
`config_sunpike.yaml`. -/
def kubeEnvFails : Outcomes where
  read := none
  kubeEnv := ⟨true, fun _ => .failed 0⟩
  config := ⟨true, fun _ => .complete⟩

theorem kubeEnvFails_kubeEnv (m : KubeEnvMap) :
    writeEnvMapToKubeEnvFile kubeEnvFails.kubeEnv m none = some "" := by
  have empty (chunks : List String) :
    kubeEnvFails.kubeEnv.text chunks = "" := by cases chunks <;> rfl
  exact congrArg some (empty (KubeEnvMap.toKubeEnv m))

/-- The next call for the same host finds nothing changed, and `kube_sunpike.env` stays empty. -/
theorem unchanged_with_empty_kubeEnv : ∃ files,
    handleAll wordCodec [plainCall kubeEnvFails, plainCall allComplete] noFiles =
      ([.updated, .unchanged], files) ∧
    files.kubeEnv = some "" ∧ files.kubeEnv ≠ some (kubeEnvText plainMap) := by
  have updated := plainCall_updated kubeEnvFails
  rw [writeEnvMapToNodeletConfigFile_complete ⟨rfl, fun _ => rfl⟩, kubeEnvFails_kubeEnv] at updated
  have unchanged := plainCall_unchanged ""
  refine ⟨⟨some (fileHeader ++ wordCodec.marshal plainMap), some ""⟩, ?_, rfl, ?_⟩
  · rw [handleAll_cons, updated, handleAll_cons, unchanged, handleAll_nil]
  · simp [kubeEnvText, fileHeader]

end Nodelet
