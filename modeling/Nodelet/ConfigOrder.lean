import Nodelet.ConfigUpdate

/-! Whether an unchanged host keeps the process running. Sunpike sends the same host
again and again; it has to be recognised although the map of extra settings is
visited in a different order each time. -/
namespace Nodelet
open Sunpike

/-- A file system that never fails. -/
structure Outcomes.Complete (outcomes : Outcomes) : Prop where
  read : outcomes.read = none
  kubeEnv : outcomes.kubeEnv.Complete
  config : outcomes.config.Complete

/-- A call for this host while the file system does not fail. -/
def UpdateCall.For (host : Host) (call : UpdateCall) : Prop :=
  call.host = host ∧ call.outcomes.Complete

/-- The branches of successive calls, and the files they leave behind. -/
def handleAll (codec : Codec) : List UpdateCall → Files → List Branch × Files
  | [], files => ([], files)
  | call :: rest, files =>
    let (branch, files) := handleConfigUpdate codec call files
    let (branches, files) := handleAll codec rest files
    (branch :: branches, files)

theorem handleAll_nil (codec : Codec) (files : Files) :
    handleAll codec [] files = ([], files) := rfl

theorem handleAll_cons (codec : Codec) (call : UpdateCall) (rest : List UpdateCall)
    (files : Files) : handleAll codec (call :: rest) files =
      ((handleConfigUpdate codec call files).1 :: (handleAll codec rest (handleConfigUpdate codec call files).2).1,
        (handleAll codec rest (handleConfigUpdate codec call files).2).2) := rfl

/-- The host is turned into the same map in every order, and once its configuration
was written every further call for it finds nothing to do. -/
def Stable (codec : Codec) (host : Host) : Prop :=
  (∀ first second, Iterates host first → Iterates host second →
    convertHostToKubeEnvMap codec.toUpper host first =
      convertHostToKubeEnvMap codec.toUpper host second) ∧
  ∀ call files later, call.For host → (∀ next ∈ later, next.For host) →
    ∀ written, handleConfigUpdate codec call files = (.updated, written) →
      handleAll codec later written = (later.map fun _ => .unchanged, written)

/-- The files hold the configuration of this map. -/
def Files.Hold (codec : Codec) (m : KubeEnvMap) (files : Files) : Prop :=
  files.config = some (fileHeader ++ codec.marshal m) ∧ files.kubeEnv = some (kubeEnvText m)

variable {codec : Codec}

theorem currentKubeEnv_written (roundTrip : codec.RoundTrip) (nonempty : m ≠ ∅) :
    currentKubeEnv codec none (some (fileHeader ++ codec.marshal m)) = some m := by
  simp only [currentKubeEnv, fetchKubeEnvMapFromConfigFile, roundTrip m nonempty]

theorem updated_hold (complete : call.outcomes.Complete)
    (updated : handleConfigUpdate codec call files = (.updated, written)) :
    written.Hold codec (call.kubeEnvMap codec) ∧ call.host.spec ≠ {} ∧
      codec.toConfig (call.kubeEnvMap codec) = none := by
  have handled := handleConfigUpdate_handled codec call files
  rw [updated] at handled
  generalize same : Branch.updated = branch at handled
  cases handled with
  | kept _ nothing =>
    subst same
    simp at nothing
  | unchanged => contradiction
  | updated nonempty accepted =>
    exact ⟨⟨writeEnvMapToNodeletConfigFile_complete complete.config codec _ _,
      writeEnvMapToKubeEnvFile_complete complete.kubeEnv _ _⟩, nonempty, accepted⟩

theorem unchanged_of_written (roundTrip : codec.RoundTrip)
    (read : call.outcomes.read = none) (nonempty : call.host.spec ≠ {})
    (accepted : codec.toConfig (call.kubeEnvMap codec) = none)
    (written : files.config = some (fileHeader ++ codec.marshal (call.kubeEnvMap codec)))
    (present : files.kubeEnv.isSome) :
    handleConfigUpdate codec call files = (.unchanged, files) := by
  have current :
      currentKubeEnv codec call.outcomes.read files.config = some (call.kubeEnvMap codec) := by
    rw [read, written]
    exact currentKubeEnv_written roundTrip (call.kubeEnvMap_ne_empty codec)
  simp only [handleConfigUpdate, if_neg nonempty, accepted, if_pos (And.intro present current)]

theorem updated_of_changed (codec : Codec) (call : UpdateCall) (files : Files) (nonempty : call.host.spec ≠ {})
    (accepted : codec.toConfig (call.kubeEnvMap codec) = none)
    (changed : currentKubeEnv codec call.outcomes.read files.config ≠ some (call.kubeEnvMap codec)) :
    handleConfigUpdate codec call files = (.updated, {
      kubeEnv := writeEnvMapToKubeEnvFile call.outcomes.kubeEnv (call.kubeEnvMap codec) files.kubeEnv
      config := writeEnvMapToNodeletConfigFile codec call.outcomes.config (call.kubeEnvMap codec) files.config }) := by
  have rewrites : ¬ (files.kubeEnv.isSome ∧
      currentKubeEnv codec call.outcomes.read files.config = some (call.kubeEnvMap codec)) :=
    fun same => changed same.2
  simp only [handleConfigUpdate, if_neg nonempty, accepted, if_neg rewrites]

theorem handleAll_unchanged (later : List UpdateCall)
    (idle : ∀ call ∈ later, handleConfigUpdate codec call files = (.unchanged, files)) :
    handleAll codec later files = (later.map fun _ => .unchanged, files) := by
  induction later with
  | nil => rfl
  | cons call rest ih =>
    have first := idle call List.mem_cons_self
    have others := ih fun next member => idle next (List.mem_cons_of_mem _ member)
    rw [handleAll_cons, first, others]
    rfl

/-- An unchanged host is recognised in every order of its extra settings exactly when
keys that only differ in case have the same value, unless a field claims the key. -/
theorem stable_iff_extraKeysAgree (codec : Codec) (roundTrip : codec.RoundTrip) (host : Host) :
    Stable codec host ↔ ExtraKeysAgree codec.toUpper host := by
  constructor
  · rintro ⟨sameMap, -⟩
    exact (Go.Map.fillAbsent_perm_iff (extraEntries host)).mp sameMap
  · intro agree
    have sameMap := (Go.Map.fillAbsent_perm_iff (extraEntries host)).mpr agree
    refine ⟨sameMap, ?_⟩
    rintro call files later ⟨rfl, complete⟩ following written updated
    obtain ⟨hold, nonempty, accepted⟩ := updated_hold complete updated
    apply handleAll_unchanged
    intro next member
    obtain ⟨same, nextComplete⟩ := following next member
    have map : next.kubeEnvMap codec = call.kubeEnvMap codec := by
      have iterates := next.iterates
      rw [UpdateCall.kubeEnvMap, UpdateCall.kubeEnvMap, same]
      rw [same] at iterates
      exact sameMap _ _ iterates call.iterates
    rw [← map] at hold accepted
    exact unchanged_of_written roundTrip nextComplete.read (same ▸ nonempty) accepted hold.1
      (by simp [hold.2])

/-- The packages as they behave on words: ASCII letters, one line a key, and no setting
that is not a string. -/
def wordCodec : Codec where
  toUpper := String.toUpper
  marshal := Go.Yaml.marshal
  unmarshal := Go.Yaml.unmarshal
  toConfig _ := none
  toHost _ := .ok {}

theorem wordCodec_roundTrip : wordCodec.RoundTrip := by
  intro m nonempty
  have oneLine : '\n' ∉ (" " ++ Constants.generatedFileHeader).toList := by decide +kernel
  have header :
    fileHeader = "#" ++ (" " ++ Constants.generatedFileHeader) ++ "\n" := by decide +kernel
  rw [header]
  exact Go.Yaml.unmarshal_marshal m nonempty _ oneLine

def allComplete : Outcomes where
  read := none
  kubeEnv := ⟨true, fun _ => .complete⟩
  config := ⟨true, fun _ => .complete⟩

theorem allComplete_complete : allComplete.Complete :=
  ⟨rfl, ⟨rfl, fun _ => rfl⟩, ⟨rfl, fun _ => rfl⟩⟩

/-- Nothing was configured yet. -/
def noFiles : Files := ⟨none, none⟩

/-- Two extra settings that only differ in case. -/
def twoCases (first second : String) : Host where
  name := "node"
  spec := { extraCfg := some ⟨[("foo", first), ("FOO", second)], by simp⟩ }

theorem stable_twoCases_same : Stable wordCodec (twoCases "1" "1") := by
  refine (stable_iff_extraKeysAgree wordCodec wordCodec_roundTrip (twoCases "1" "1")).mpr ?_
  intro a memberA b memberB _ _
  have one : ∀ entry ∈ extraEntries (twoCases "1" "1"), entry.2 = "1" := by decide
  rw [one a memberA, one b memberB]

def twoCasesCall (order : List (String × String)) (iterates : Iterates (twoCases "1" "2") order) :
    UpdateCall where
  host := twoCases "1" "2"
  order := order
  iterates := iterates
  outcomes := allComplete

/-- The setting that is visited first is the one that counts. -/
theorem twoCasesCall_lookup (iterates : Iterates (twoCases "1" "2") ((key, value) :: rest))
    (upper : String.toUpper key = "FOO") :
    ((twoCasesCall _ iterates).kubeEnvMap wordCodec).lookup "FOO" = some value := by
  have free : "FOO" ∉ formalKubeEnv (twoCases "1" "2") := by decide +kernel
  have first :=
    Go.Map.lookup_fillAbsent_cons (fun entry : String × String => String.toUpper entry.1) Prod.snd
    (key, value) rest (upper ▸ free)
  rw [upper] at first
  exact first

def fooFirst : UpdateCall := twoCasesCall [("foo", "1"), ("FOO", "2")] (.refl _)

def upperFirst : UpdateCall := twoCasesCall [("FOO", "2"), ("foo", "1")] (.swap _ _ _)

/-- The same host is written again when its two settings are visited the other way round. -/
theorem updated_again_in_other_order :
    (handleAll wordCodec [fooFirst, upperFirst] noFiles).1 = [.updated, .updated] := by
  have nonempty : (twoCases "1" "2").spec ≠ {} := by decide
  have one : (fooFirst.kubeEnvMap wordCodec).lookup "FOO" = some "1" := by
    rw [fooFirst]
    exact twoCasesCall_lookup _ (by decide +kernel)
  have two : (upperFirst.kubeEnvMap wordCodec).lookup "FOO" = some "2" := by
    rw [upperFirst]
    exact twoCasesCall_lookup _ (by decide +kernel)
  obtain ⟨written, updated⟩ :
      ∃ written, handleConfigUpdate wordCodec fooFirst noFiles = (.updated, written) := by
    refine ⟨_, updated_of_changed wordCodec fooFirst noFiles nonempty rfl fun same => ?_⟩
    exact fooFirst.kubeEnvMap_ne_empty wordCodec (Option.some.inj same).symm
  obtain ⟨hold, -, -⟩ := updated_hold allComplete_complete updated
  have current :=
    currentKubeEnv_written wordCodec_roundTrip (fooFirst.kubeEnvMap_ne_empty wordCodec)
  rw [← hold.1] at current
  have updatedAgain := updated_of_changed wordCodec upperFirst written nonempty rfl fun same => by
    have sameMap := Option.some.inj (current.symm.trans same)
    rw [sameMap, two] at one
    exact absurd (Option.some.inj one) (by decide)
  rw [handleAll_cons, updated, handleAll_cons, updatedAgain, handleAll_nil]

end Nodelet
