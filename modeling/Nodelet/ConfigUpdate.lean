import Nodelet.KubeEnv
import Nodelet.Go.Yaml

/-! How a configuration that arrives from Sunpike is compared with the current one
and written to the two files that the next process reads. The YAML package and the
decoder of configurations are parameters; a write can stop after any number of
characters. -/
namespace Nodelet
open Constants Sunpike

/-- What the update uses from other packages. -/
structure Codec where
  toUpper : String → String
  marshal : KubeEnvMap → String
  /-- A document without content decodes to a nil map. -/
  unmarshal : String → Except Go.Error (Option KubeEnvMap)
  /-- The error of `ToConfig`; the configuration it returns is only logged. -/
  toConfig : KubeEnvMap → Option Go.Error
  /-- The specification of the host that `ToHost` infers. -/
  toHost : Option KubeEnvMap → Except Go.Error HostSpec

/-- The first line of both files. -/
def fileHeader : String := "# " ++ generatedFileHeader ++ "\n"

/-- A mapping that was written is read back, whatever comment precedes it. -/
def Codec.RoundTrip (codec : Codec) : Prop :=
  ∀ m, m ≠ ∅ → codec.unmarshal (fileHeader ++ codec.marshal m) = .ok (some m)

/-- The files at `SunpikeConfigPath` and `SunpikeKubeEnvPath`, if they exist. -/
structure Files where
  config : Option String
  kubeEnv : Option String
  deriving DecidableEq, Repr

/-- How one write to an open file ends: completely, or after some characters. -/
inductive WriteResult where
  | complete
  | failed (written : Nat)
  deriving DecidableEq, Repr

/-- How the file can be opened and its writes end, in their order. -/
structure FileOutcome where
  opens : Bool
  writes : Nat → WriteResult

def FileOutcome.Complete (outcome : FileOutcome) : Prop :=
  outcome.opens = true ∧ ∀ n, outcome.writes n = .complete

/-- The text after one write, and whether it succeeded. -/
def appendChunk (content chunk : String) : WriteResult → String × Bool
  | .complete => (content ++ chunk, true)
  | .failed written => (content ++ String.ofList (chunk.toList.take written), false)

/-- Write the chunks in turn until one fails. -/
def writeChunks (writes : Nat → WriteResult) : Nat → List String → String → String
  | _, [], content => content
  | n, chunk :: rest, content =>
    match appendChunk content chunk (writes n) with
    | (content, true) => writeChunks writes (n + 1) rest content
    | (content, false) => content

/-- The text in a truncated file after the header and the chunks were written to it.
The error of writing the header is ignored. -/
def FileOutcome.text (outcome : FileOutcome) (chunks : List String) : String :=
  writeChunks outcome.writes 1 chunks (appendChunk "" fileHeader (outcome.writes 0)).1

def writeFile (outcome : FileOutcome) (chunks : List String) (file : Option String) :
    Option String :=
  if outcome.opens then some (outcome.text chunks) else file

/-- What the file system answers during one call. -/
structure Outcomes where
  read : Option Go.Error
  kubeEnv : FileOutcome
  config : FileOutcome

/-- One call of `handleConfigUpdate`, with the order in which it visits `ExtraCfg`. -/
structure UpdateCall where
  host : Host
  order : List (String × String)
  iterates : Iterates host order
  outcomes : Outcomes

/-- The branch a call takes. -/
inductive Branch where
  | ignored
  | failed (err : Go.Error)
  | unchanged
  | updated
  deriving DecidableEq, Repr

section
variable (codec : Codec)

def fetchKubeEnvMapFromConfigFile (read : Option Go.Error) (config : Option String) :
    Except Go.Error (Option KubeEnvMap) :=
  match config with
  | none => .ok (some ∅)
  | some contents =>
    match read with
    | some err => .error ("error reading config: " ++ err)
    | none =>
      match codec.unmarshal contents with
      | .ok kubeEnv => .ok kubeEnv
      | .error err => .error ("error parsing config to kubeEnvMap: " ++ err)

/-- The current configuration; a failed fetch is logged and leaves a nil map. -/
def currentKubeEnv (read : Option Go.Error) (config : Option String) : Option KubeEnvMap :=
  match fetchKubeEnvMapFromConfigFile codec read config with
  | .ok kubeEnv => kubeEnv
  | .error _ => none

def writeEnvMapToKubeEnvFile (outcome : FileOutcome) (kubeEnvMap : KubeEnvMap)
    (file : Option String) : Option String :=
  writeFile outcome (KubeEnvMap.toKubeEnv kubeEnvMap) file

def writeEnvMapToNodeletConfigFile (outcome : FileOutcome) (kubeEnvMap : KubeEnvMap)
    (file : Option String) : Option String :=
  writeFile outcome [codec.marshal kubeEnvMap] file

def UpdateCall.kubeEnvMap (call : UpdateCall) : KubeEnvMap :=
  convertHostToKubeEnvMap codec.toUpper call.host call.order

theorem UpdateCall.kubeEnvMap_ne_empty (call : UpdateCall) : call.kubeEnvMap codec ≠ ∅ :=
  convertHostToKubeEnvMap_ne_empty codec.toUpper call.host call.order

def handleConfigUpdate (call : UpdateCall) (files : Files) : Branch × Files :=
  if call.host.spec = {} then (.ignored, files)
  else
    let kubeEnvMap := call.kubeEnvMap codec
    match codec.toConfig kubeEnvMap with
    | some err =>
      (.failed ("error converting updated config to Nodelet config format: " ++ err), files)
    | none =>
      let kubeEnvCfg := currentKubeEnv codec call.outcomes.read files.config
      if files.kubeEnv.isSome ∧ kubeEnvCfg = some kubeEnvMap then (.unchanged, files)
      else (.updated, {
        kubeEnv := writeEnvMapToKubeEnvFile call.outcomes.kubeEnv kubeEnvMap files.kubeEnv
        config := writeEnvMapToNodeletConfigFile codec call.outcomes.config kubeEnvMap files.config })

/-- What the call returns, unless the process exits to pick up the new configuration. -/
def Branch.result (cfg : Config) : Branch → Except Go.Halt (Option Go.Error)
  | .ignored | .unchanged => .ok none
  | .failed err => .ok (some err)
  | .updated => if cfg.disableExitOnUpdate then .ok none else .error (.exit 0)

end

/-- The text of `kube_sunpike.env` for a mapping. -/
def kubeEnvText (m : KubeEnvMap) : String := fileHeader ++ String.join (KubeEnvMap.toKubeEnv m)

section Writes

theorem writeChunks_complete (complete : ∀ n, writes n = .complete) (n : Nat) (chunks : List String)
    (content : String) : writeChunks writes n chunks content = content ++ String.join chunks := by
  induction chunks generalizing n content with
  | nil => simp [writeChunks]
  | cons chunk rest ih =>
    rw [writeChunks, complete n, appendChunk]
    simp [ih, String.append_assoc]

variable {outcome : FileOutcome}

theorem writeFile_complete (complete : outcome.Complete) (chunks : List String)
    (file : Option String) :
    writeFile outcome chunks file = some (fileHeader ++ String.join chunks) := by
  rw [writeFile, if_pos complete.1, FileOutcome.text, writeChunks_complete complete.2, complete.2 0]
  simp [appendChunk]

theorem writeEnvMapToNodeletConfigFile_complete (complete : outcome.Complete)
    (codec : Codec) (m : KubeEnvMap) (file : Option String) :
    writeEnvMapToNodeletConfigFile codec outcome m file = some (fileHeader ++ codec.marshal m) := by
  simp [writeEnvMapToNodeletConfigFile, writeFile_complete complete]

theorem writeEnvMapToKubeEnvFile_complete (complete : outcome.Complete) (m : KubeEnvMap)
    (file : Option String) : writeEnvMapToKubeEnvFile outcome m file = some (kubeEnvText m) :=
  writeFile_complete complete _ _

end Writes

/-- What one call can do. -/
inductive Handled (codec : Codec) (call : UpdateCall) (files : Files) : Branch → Files → Prop where
  | kept (branch : Branch) (nothing : branch = .ignored ∨ ∃ err, branch = .failed err) :
      Handled codec call files branch files
  | unchanged (nonempty : call.host.spec ≠ {}) (present : files.kubeEnv.isSome)
      (same : currentKubeEnv codec call.outcomes.read files.config = some (call.kubeEnvMap codec)) :
      Handled codec call files .unchanged files
  | updated (nonempty : call.host.spec ≠ {})
    (accepted : codec.toConfig (call.kubeEnvMap codec) = none) :
      Handled codec call files .updated {
        kubeEnv := writeEnvMapToKubeEnvFile call.outcomes.kubeEnv (call.kubeEnvMap codec) files.kubeEnv
        config := writeEnvMapToNodeletConfigFile codec call.outcomes.config (call.kubeEnvMap codec) files.config }

theorem handleConfigUpdate_handled (codec : Codec) (call : UpdateCall) (files : Files) :
    Handled codec call files (handleConfigUpdate codec call files).1
      (handleConfigUpdate codec call files).2 := by
  unfold handleConfigUpdate
  by_cases empty : call.host.spec = {}
  · rw [if_pos empty]
    exact .kept _ (.inl rfl)
  · rw [if_neg empty]
    cases accepted : codec.toConfig (call.kubeEnvMap codec) with
    | some err =>
      simp only [accepted]
      exact .kept _ (.inr ⟨_, rfl⟩)
    | none =>
      by_cases same : files.kubeEnv.isSome ∧
          currentKubeEnv codec call.outcomes.read files.config = some (call.kubeEnvMap codec)
      · simp only [accepted, if_pos same]
        exact .unchanged empty same.1 same.2
      · simp only [accepted, if_neg same]
        exact .updated empty accepted

end Nodelet
