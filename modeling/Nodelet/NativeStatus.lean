import Nodelet.NativePhases

/-! What Start and Stop of the phases implemented in Go leave in the status of the host phase. -/
namespace Nodelet
open Constants Sunpike Go.Procedure

namespace LoadImages
open Go.Fallible (Ensures)
variable {Data : Type} (sha256 : Data → String) (userImagesDir : String) (faults : Faults)

theorem reporting_reports (program : Operation Data α) (host : Host Data) :
    Ensures (reporting program) host (fun _ _ => True) fun t => t.phase.status = failedState := by
  have ran : Ensures program host (fun _ _ => True) fun _ => True := by
    unfold Ensures
    split <;> trivial
  exact ran.tryCatch fun err t _ => rfl

theorem start_reports (host : Host Data) :
    Ensures (start sha256 userImagesDir faults) host (fun _ t => t.phase.status = runningState)
      fun t => t.phase.status = failedState := by
  have loaded (t : Host Data) : Ensures (do
      let load ← reporting (outdated sha256 userImagesDir faults)
      if load then reporting (loadImagesFromDir sha256 faults userImagesDir)
      setHostStatus runningState "") t (fun _ u => u.phase.status = runningState)
      fun u => u.phase.status = failedState := by
    apply (reporting_reports _ t).bind
    intro load u _
    dsimp only
    split
    · exact (reporting_reports _ u).bind fun _ _ _ => rfl
    · exact rfl
  have present (t : Host Data) : Ensures (do
      if ((← get).directories userImagesDir).isNone then setHostStatus runningState ""
      else do
        let load ← reporting (outdated sha256 userImagesDir faults)
        if load then reporting (loadImagesFromDir sha256 faults userImagesDir)
        setHostStatus runningState "") t (fun _ u => u.phase.status = runningState)
      fun u => u.phase.status = failedState := by
    apply Ensures.get_bind
    dsimp only
    split
    · exact rfl
    · exact loaded t
  unfold start
  apply Ensures.get_bind
  dsimp only
  split
  · apply (reporting_reports _ host).bind
    intro _ t _
    exact present _
  · exact present host

end LoadImages

namespace NativePhase
variable {α β : Type} {program : Operation α} {status : String}

/-- An error of the program has been put into the status. -/
def Reported (program : Operation α) : Prop :=
  ∀ s, Leaves program s (fun _ _ => True) fun t => t.phase.status = failedState

namespace Reported

theorem pure (value : α) : Reported (pure value : Operation α) := fun _ => Settles.pure trivial

theorem lift (outcome : Except Go.Halt α) : Reported (liftM outcome : Operation α) := by
  intro s
  cases outcome with
  | ok value => exact trivial
  | error halt => exact trivial

theorem failWith (message : String) (err : Go.Error) :
    Reported (failWith message err) := fun _ => rfl

theorem reporting (program : Operation α) : Reported (reporting program) := by
  intro s
  apply Settles.tryCatch Settles.trivial
  intro err t _
  exact rfl

theorem bind {next : α → Operation β} (first : Reported program)
    (rest : ∀ value, Reported (next value)) : Reported (program >>= next) :=
  fun s => (first s).bind fun value t _ => rest value t

theorem ite {condition : Prop} [Decidable condition] {no : Operation α} (yes : Reported program)
    (otherwise : Reported no) : Reported (if condition then program else no) := by
  split
  · exact yes
  · exact otherwise

end Reported

/-- The program leaves this status, or an error and the failed one. -/
def Ends (status : String) (program : Operation Unit) : Prop :=
  ∀ s, Leaves program s (fun _ t => t.phase.status = status) fun t => t.phase.status = failedState

theorem Ends.setHostStatus (status message : String) :
    Ends status (setHostStatus status message) := fun _ => rfl

theorem Ends.returned {program : Operation Unit} {returned : Except Go.Error Unit}
    (ends : Ends status program) (ran : program.result s = .ok (returned, t)) :
    returned = .ok () ∧ t.phase.status = status ∨ returned ≠ .ok () ∧
      t.phase.status = failedState := by
  rcases returned with err | ⟨⟩
  · exact .inr ⟨nofun, (ends s).threw ran⟩
  · exact .inl ⟨rfl, (ends s).returned ran⟩

theorem Reported.ends {next : α → Operation Unit} (first : Reported program)
    (rest : ∀ value, Ends status (next value)) : Ends status (program >>= next) :=
  fun s => (first s).bind fun value t _ => rest value t

section Phases
variable {Data : Type} (calls : Calls Data) (cfg : Config)

theorem getNodeIdentifier_reported : Reported (getNodeIdentifier calls) := by
  apply (Reported.reporting _).bind
  intro nodeIdentifier
  dsimp only
  split
  · exact (Reported.failWith _ _).bind fun _ => Reported.pure _
  · exact Reported.pure _

theorem ContainerdConfigPhase.start_ends :
    Ends runningState (ContainerdConfigPhase.start calls) := by
  have installed : Reported (checkInstalled calls) := by
    unfold checkInstalled
    split
    · exact Reported.failWith _ _
    · exact (Reported.lift _).bind fun _ => Reported.pure _
  have configured : Reported (configureCgroup calls) := by
    unfold configureCgroup
    split
    · exact Reported.failWith _ _
    · apply Reported.ite (Reported.pure _)
      split
      · exact Reported.failWith _ _
      · exact Reported.pure _
  exact installed.ends fun _ => configured.ends fun _ => .setHostStatus _ _

theorem ContainerdRunPhase.start_ends : Ends runningState (ContainerdRunPhase.start calls) := by
  have owned : Reported (ownSocket calls) := by
    unfold ownSocket
    split
    · exact Reported.pure _
    · exact Reported.failWith _ _
  exact (Reported.reporting _).ends fun _ => owned.ends fun _ => .setHostStatus _ _

theorem ContainerdRunPhase.stop_ends : Ends stoppedState (ContainerdRunPhase.stop calls) := by
  have removed : Reported (removeNerdctlDir calls) := by
    unfold removeNerdctlDir
    split
    · exact Reported.pure _
    · exact Reported.failWith _ _
  unfold ContainerdRunPhase.stop
  split
  · exact .setHostStatus _ _
  · exact (Reported.reporting _).ends fun _ => (Reported.reporting _).ends fun _ =>
      removed.ends fun _ =>
      (Reported.reporting _).ends fun _ => .setHostStatus _ _

theorem LabelTaintNodePhase.start_ends :
    Ends runningState (LabelTaintNodePhase.start calls cfg) := by
  apply (Reported.reporting _).ends
  intro _
  apply (getNodeIdentifier_reported calls).ends
  intro nodeIdentifier
  apply (Reported.reporting _).ends
  intro _
  dsimp only
  split
  · exact (Reported.reporting _).ends fun _ => .setHostStatus _ _
  · exact .setHostStatus _ _

theorem UncordonNodePhase.start_ends : Ends runningState (UncordonNodePhase.start calls) := by
  have uncordoned (nodeIdentifier : String) : Reported (uncordon calls nodeIdentifier) :=
    (Reported.reporting _).bind fun _ => Reported.reporting _
  apply (Reported.reporting _).ends
  intro _
  apply (getNodeIdentifier_reported calls).ends
  intro nodeIdentifier
  apply (Reported.reporting _).ends
  intro _
  apply (Reported.reporting _).ends
  intro node
  dsimp only
  split
  · exact (uncordoned _).ends fun _ => .setHostStatus _ _
  · exact .setHostStatus _ _

theorem DeployAppCatalogPhase.start_ends :
    Ends runningState (DeployAppCatalogPhase.start calls cfg) := by
  apply (Reported.reporting _).ends
  intro _
  dsimp only
  split
  · exact (Reported.reporting _).ends fun _ => .setHostStatus _ _
  · exact .setHostStatus _ _

theorem DrainNodePhase.start_ends : Ends runningState (DrainNodePhase.start calls) := by
  unfold DrainNodePhase.start
  split
  · intro s
    exact rfl
  · exact .setHostStatus _ _

theorem LoadImagePhase.start_ends : Ends runningState (LoadImagePhase.start calls cfg) := by
  intro s
  have ended := LoadImages.start_reports calls.sha256 cfg.userImagesDir calls.imageFaults
    ⟨calls.imageDirectories, s.phase⟩
  unfold Go.Fallible.Ensures at ended
  simp only [Settles, result, LoadImagePhase.start, withDirectories]
  split at ended <;> simp_all

/-- There is a client, or one can be created. -/
def HasClient (s : State) : Prop := s.client = .ready ∨ calls.newClient = none

theorem refreshClient_leaves (s : State) :
    Leaves (refreshClient calls isInterfaceNil) s (fun _ t => t.phase = s.phase ∧ HasClient calls s)
      fun _ => ¬ HasClient calls s := by
  rcases s with ⟨phase, client⟩
  rcases created : calls.newClient with _ | err
  · have available : HasClient calls ⟨phase, client⟩ := .inr created
    rw [refreshClient, createClient, created]
    cases client with
    | unset => exact ⟨rfl, available⟩
    | null => exact ⟨rfl, available⟩
    | ready => exact ⟨rfl, available⟩
  · rw [refreshClient, createClient, created]
    cases client with
    | unset => exact (by simp [HasClient, created] : ¬ HasClient calls ⟨phase, .unset⟩)
    | null => exact (by simp [HasClient, created] : ¬ HasClient calls ⟨phase, .null⟩)
    | ready => exact ⟨rfl, .inl rfl⟩

theorem orFail_leaves (fault : Option Go.Error) (s : State) :
    Leaves (orFail fault) s (fun _ t => t = s ∧ fault = none) fun t => t = s ∧ fault ≠ none := by
  cases fault with
  | none => exact ⟨rfl, rfl⟩
  | some err => exact ⟨rfl, Option.some_ne_none err⟩

theorem onNode_leaves (fault : Option Go.Error) (s : State) :
    Leaves (onNode fault) s (fun _ _ => fault = none) fun _ => fault ≠ none := by
  rcases s with ⟨phase, client⟩
  cases client with
  | ready =>
    cases fault with
    | none => exact rfl
    | some err => exact Option.some_ne_none err
  | unset => exact trivial
  | null => exact trivial

theorem lift_leaves (outcome : Except Go.Error α) (s : State) :
    Leaves (liftM outcome : Operation α) s (fun value t => t = s ∧ outcome = .ok value)
      fun _ => ∀ value, outcome ≠ .ok value := by
  cases outcome with
  | ok value => exact ⟨rfl, rfl⟩
  | error err => exact fun value same => nomatch same

namespace MiscPhase

/-- There is nothing to write, or it is written. -/
def CloudConfigWritten : Prop :=
  cfg.kubeletCloudConfig = "" ∨
    calls.writeToFileWithBase64Decoding cloudConfigFile cfg.kubeletCloudConfig = none

theorem writeCloudProviderConfig_leaves (s : State) :
    Leaves (writeCloudProviderConfig calls cfg) s (fun _ t => t = s ∧ CloudConfigWritten calls cfg)
      fun t => t = s ∧ ¬ CloudConfigWritten calls cfg := by
  unfold writeCloudProviderConfig
  split
  · exact ⟨rfl, .inl ‹_›⟩
  · apply (orFail_leaves _ s).weaken
    · rintro _ t ⟨same, written⟩
      exact ⟨same, .inr written⟩
    · rintro t ⟨same, unwritten⟩
      exact ⟨same, by simp [CloudConfigWritten, *]⟩
    · exact id

/-- An error of the cloud configuration is the only one that is not reported. -/
theorem start_leaves (s : State) :
    Leaves (MiscPhase.start calls cfg) s (fun _ t => t.phase.status = runningState ∧
      CloudConfigWritten calls cfg) fun t => t.phase.status = failedState ∧ ¬ HasClient calls s ∨
        t.phase = s.phase ∧ HasClient calls s ∧ ¬ CloudConfigWritten calls cfg := by
  have refreshed : Leaves (reporting (refreshClient calls isInterfaceNil)) s
      (fun _ t => t.phase = s.phase ∧ HasClient calls s)
      fun t => t.phase.status = failedState ∧ ¬ HasClient calls s ∨
        t.phase = s.phase ∧ HasClient calls s ∧ ¬ CloudConfigWritten calls cfg :=
    (refreshClient_leaves calls s).tryCatch fun err t missing => .inl ⟨rfl, missing⟩
  apply refreshed.bind
  rintro _ t ⟨same, available⟩
  apply ((writeCloudProviderConfig_leaves calls cfg t).weaken (fun _ _ written =>
    written) _ id).bind
  · rintro _ u ⟨rfl, written⟩
    exact ⟨rfl, written⟩
  · rintro u ⟨rfl, unwritten⟩
    exact .inr ⟨same, available, unwritten⟩

end MiscPhase

namespace DrainNodePhase

/-- No call of Stop fails. -/
def Drains (s : State) : Prop :=
  HasClient calls s ∧ calls.k8sApiAvailable = none ∧ ∃ nodeIdentifier,
    calls.getNodeIdentifier = .ok nodeIdentifier ∧
      calls.drainNodeFromApiServer nodeIdentifier = none ∧
      calls.addAnnotationsToNode nodeIdentifier [("KubeStackShutDown", "true")] = none

theorem Drains.at {nodeIdentifier : String} (drains : Drains calls s)
    (identified : calls.getNodeIdentifier = .ok nodeIdentifier) :
    calls.drainNodeFromApiServer nodeIdentifier = none ∧
      calls.addAnnotationsToNode nodeIdentifier [("KubeStackShutDown", "true")] = none := by
  obtain ⟨_, _, node, found, drained, annotated⟩ := drains
  obtain rfl : nodeIdentifier = node := Except.ok.inj (identified.symm.trans found)
  exact ⟨drained, annotated⟩

theorem reportStopped_leaves {program : Operation α} {post : α → State → Prop}
    {failed : State → Prop} {P : Prop} (message : Go.Error → String)
    (leaves : Leaves program s post failed) (refutes : ∀ t, failed t → ¬ P) :
    Leaves (reportStopped message program) s post fun t => t.phase.status = stoppedState ∧ ¬ P :=
  leaves.tryCatch fun _ t holds => ⟨rfl, refutes t holds⟩

theorem stop_leaves (s : State) :
    Leaves (DrainNodePhase.stop calls) s (fun _ t => t.phase.status = stoppedState ∧ Drains calls s)
      fun t => t.phase.status = stoppedState ∧ ¬ Drains calls s := by
  apply (reportStopped_leaves _ (refreshClient_leaves calls s) fun _ missing drains =>
    missing drains.1).bind
  rintro _ t ⟨_, available⟩
  apply (reportStopped_leaves _ (orFail_leaves _ t) fun _ refused drains =>
    refused.2 drains.2.1).bind
  rintro _ t ⟨_, served⟩
  apply (reportStopped_leaves _ (lift_leaves _ t) fun _ unknown drains =>
    unknown _ drains.2.2.choose_spec.1).bind
  rintro nodeIdentifier t ⟨_, identified⟩
  apply (reportStopped_leaves _ (onNode_leaves _ t) fun _ failed drains =>
    failed (drains.at calls identified).1).bind
  intro _ t drained
  apply (reportStopped_leaves _ (onNode_leaves _ t) fun _ failed drains =>
    failed (drains.at calls identified).2).bind
  intro _ t annotated
  exact ⟨rfl, available, served, nodeIdentifier, identified, drained, annotated⟩

end DrainNodePhase

end Phases
end NativePhase

end Nodelet
