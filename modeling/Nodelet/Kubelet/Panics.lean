import Nodelet.Kubelet.Utils

/-! The outputs on which a function of the kubelet utilities panics. -/
namespace Nodelet.Kubelet
open Go (Faulty)
open Go.Faulty (Guarded Panics)

/-- A command that failed has printed an error. -/
def Output.Explained (output : Output) : Prop := output.err ≠ none → output.stdErr ≠ []

/-- The state of the unit was printed, and something to its errors where it is inactive. -/
def Output.Stated (output : Output) : Prop :=
  output.stdOut ≠ [] ∧ (output.stdOut.head? = some "inactive" → output.stdErr ≠ [])

def Safe : Event → Prop
  | ⟨.runCommandWithStdErr _, (output : Output)⟩ => output.Explained
  | ⟨.runCommandWithStdOutStdErr command, (output : Output)⟩ =>
    if command = isActiveCommand then output.Stated else output.Explained
  | ⟨_, _⟩ => True

section Guarded
variable {output : Output} {request : Request}

theorem guarded_failing (explained : output.Explained) : Guarded Safe (failing output).run := by
  rcases output with ⟨exitCode, stdOut, stdErr, err⟩
  cases err with
  | none => exact .pure
  | some err =>
    cases stdErr with
    | nil => exact absurd rfl (explained (Option.some_ne_none err))
    | cons line rest => exact .error

theorem failing_panics (unexplained : ¬ output.Explained) :
    ∃ cause, failing output = throw (.panic cause) := by
  rcases output with ⟨exitCode, stdOut, stdErr, err⟩
  obtain ⟨failed, silent⟩ := Classical.not_imp.mp unexplained
  cases err with
  | none => contradiction
  | some err =>
    obtain rfl : stdErr = [] := Classical.not_not.mp silent
    exact ⟨.indexOutOfRange, rfl⟩

theorem guarded_runWithStdErr (command : List String) : Guarded Safe (runWithStdErr command).run :=
  .perform_bind (fun _ => guarded_failing) fun _ => failing_panics

theorem guarded_runWithStdOutStdErr {command : List String} (other : command ≠ isActiveCommand) :
    Guarded Safe (runWithStdOutStdErr command).run := by
  have same (output : Output) : Safe ⟨.runCommandWithStdOutStdErr command, output⟩ ↔
      output.Explained := by
    rw [Safe, if_neg other]
  refine .perform_bind (fun output fine => ?_) fun output fatal => ?_
  · exact guarded_failing ((same output).mp fine)
  · exact failing_panics ((same output).not.mp fatal)

theorem guarded_acknowledged (fine : ∀ answer, Safe ⟨request, answer⟩) :
    Guarded Safe (acknowledged request answers).run :=
  (Guarded.perform fine).bind fun _ => .orFail

theorem guarded_obtained (fine : ∀ answer, Safe ⟨request, answer⟩) :
    Guarded Safe (obtained request answers).run :=
  (Guarded.perform fine).bind fun _ => .ofExcept

theorem guarded_mkdirAll (path : String) :
    Guarded Safe (mkdirAll path).run := guarded_acknowledged fun _ => trivial

theorem guarded_writeFile (path contents : String) : Guarded Safe (writeFile path contents).run :=
  guarded_acknowledged fun _ => trivial

theorem guarded_readFile (path : String) :
    Guarded Safe (readFile path).run := guarded_obtained fun _ => trivial

theorem guarded_httpGet (url : String) :
    Guarded Safe (httpGet url).run := guarded_obtained fun _ => trivial

theorem guarded_addrConv (hostCIDR : String) (pos : Int) :
    Guarded Safe (addrConv hostCIDR pos).run :=
  guarded_obtained fun _ => trivial

theorem guarded_getNodeIdentifier (cfg : Config) : Guarded Safe (getNodeIdentifier cfg).run :=
  guarded_obtained fun _ => trivial

theorem guarded_getNodeIP (v6Enabled : Bool) : Guarded Safe (getNodeIP v6Enabled).run :=
  guarded_obtained fun _ => trivial

theorem guarded_isKubeletRunning : Guarded Safe isKubeletRunning.run := by
  refine .perform_bind (fun output fine => ?_) fun output fatal => ?_
  · obtain ⟨printed, explained⟩ : Output.Stated output := fine
    rcases output with ⟨exitCode, stdOut, stdErr, err⟩
    obtain ⟨state, rest, rfl⟩ := List.exists_cons_of_ne_nil printed
    refine .ite (fun inactive => ?_) fun _ => .pure
    obtain ⟨line, rest, rfl⟩ := List.exists_cons_of_ne_nil (explained (congrArg some inactive))
    exact .pure
  · have unstated : ¬ Output.Stated output := fatal
    rcases output with ⟨exitCode, stdOut, stdErr, err⟩
    cases stdOut with
    | nil => exact ⟨.indexOutOfRange, rfl⟩
    | cons state rest =>
      obtain ⟨inactive, silent⟩ := Classical.not_imp.mp (not_and.mp unstated (List.cons_ne_nil state rest))
      obtain rfl : state = "inactive" := Option.some.inj inactive
      obtain rfl : stdErr = [] := Classical.not_not.mp silent
      exact ⟨.indexOutOfRange, rfl⟩

theorem guarded_kubeletStop : Guarded Safe kubeletStop.run := guarded_runWithStdErr _

theorem guarded_ensureKubeletStopped : Guarded Safe ensureKubeletStopped.run := by
  refine guarded_isKubeletRunning.bind fun running => .ite (fun _ => guarded_kubeletStop) fun _ =>
    .pure

theorem guarded_ensureDirReadableByPf9 (dir : String) :
    Guarded Safe (ensureDirReadableByPf9 dir).run :=
  guarded_runWithStdOutStdErr (by simp [isActiveCommand])

theorem guarded_generateKubeletSystemdUnit (kubeletArgs : String) :
    Guarded Safe (generateKubeletSystemdUnit kubeletArgs).run := by
  refine (guarded_readFile _).bind fun kubeEnv => ?_
  refine (guarded_writeFile _ _).bind fun _ => ?_
  refine (guarded_readFile _).bind fun template => ?_
  refine (guarded_runWithStdErr _).bind fun _ => ?_
  refine (guarded_runWithStdOutStdErr (by simp [isActiveCommand])).bind fun _ => ?_
  refine (guarded_runWithStdOutStdErr (by simp [isActiveCommand])).bind fun _ => ?_
  exact guarded_writeFile _ _

theorem guarded_kubeletSetup (kubeletArgs : String) : Guarded Safe (kubeletSetup kubeletArgs).run :=
  (guarded_generateKubeletSystemdUnit kubeletArgs).bind fun _ => guarded_runWithStdErr _

theorem guarded_prepareKubeletBootstrapConfig (cfg : Config) :
    Guarded Safe (prepareKubeletBootstrapConfig cfg).run := by
  refine (guarded_mkdirAll _).bind fun _ => ?_
  refine (guarded_ensureDirReadableByPf9 _).bind fun _ => ?_
  refine (guarded_addrConv _ _).bind fun dnsIp => ?_
  exact guarded_writeFile _ _

theorem guarded_awsArgs (cfg : Config) : Guarded Safe (awsArgs cfg).run := by
  refine .ite (fun _ => .ite (fun _ => ?_) fun _ => .pure) fun _ => .pure
  refine (guarded_readFile _).bind fun instanceId => ?_
  exact (guarded_httpGet _).bind fun availabilityZone => .pure

theorem guarded_bringUp (sprintf : String → String) (cfg : Config) :
    Guarded Safe (bringUp sprintf cfg).run := by
  refine (guarded_prepareKubeletBootstrapConfig cfg).bind fun _ => ?_
  refine (guarded_runWithStdErr _).bind fun _ => ?_
  refine (guarded_getNodeIdentifier cfg).bind fun nodeName => ?_
  refine (guarded_getNodeIP false).bind fun nodeIP => ?_
  refine (guarded_awsArgs cfg).bind fun aws => ?_
  exact (guarded_kubeletSetup _).bind fun _ => guarded_runWithStdErr _

theorem guarded_ensureKubeletRunning (sprintf : String → String) (cfg : Config) :
    Guarded Safe (ensureKubeletRunning sprintf cfg).run :=
  guarded_isKubeletRunning.bind fun _ => .ite (fun _ => .pure) fun _ => guarded_bringUp sprintf cfg

end Guarded

/-- In every run, with any answers, the function returns exactly if all outputs are safe. -/
def ReturnsIffSafe {α : Type} (operation : Operation α) : Prop :=
  ∀ trace outcome, Go.Resumption.Traces (fun _ => True) operation.run trace (.done outcome) →
    (¬ Panics outcome ↔ ∀ event ∈ trace, Safe event)

theorem returnsIffSafe {α : Type} {operation : Operation α} (guarded : Guarded Safe operation.run) :
    ReturnsIffSafe operation :=
  fun _ _ runs => guarded.returns_iff runs

theorem kubeletUtils_return_iff_safe (sprintf : String → String) (cfg : Config)
    (kubeletArgs dir : String) :
    ReturnsIffSafe isKubeletRunning ∧ ReturnsIffSafe ensureKubeletStopped ∧
      ReturnsIffSafe (ensureKubeletRunning sprintf cfg) ∧ ReturnsIffSafe kubeletStart ∧
      ReturnsIffSafe kubeletStop ∧
      ReturnsIffSafe (kubeletSetup kubeletArgs) ∧
      ReturnsIffSafe (generateKubeletSystemdUnit kubeletArgs) ∧
      ReturnsIffSafe (ensureDirReadableByPf9 dir) :=
  ⟨returnsIffSafe guarded_isKubeletRunning, returnsIffSafe guarded_ensureKubeletStopped,
    returnsIffSafe (guarded_ensureKubeletRunning sprintf cfg),
      returnsIffSafe (guarded_runWithStdErr _),
    returnsIffSafe (guarded_runWithStdErr _), returnsIffSafe (guarded_kubeletSetup kubeletArgs),
    returnsIffSafe (guarded_generateKubeletSystemdUnit kubeletArgs),
      returnsIffSafe (guarded_ensureDirReadableByPf9 dir)⟩

/-- What `systemctl is-active` does for a unit that is stopped. -/
def stoppedUnit : Output where
  exitCode := 3
  stdOut := ["inactive"]
  stdErr := []
  err := some "exit status 3"

/-- A stopped kubelet has nothing to print to the errors. -/
theorem stopped_kubelet_panics :
    Go.Resumption.Traces (fun _ => True) isKubeletRunning.run
      [⟨.runCommandWithStdOutStdErr isActiveCommand, stoppedUnit⟩]
      (.done (.error (.panic .indexOutOfRange))) :=
  .call trivial .refl

end Nodelet.Kubelet
