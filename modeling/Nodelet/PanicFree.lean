import Nodelet.Create

/-! Where a process can be created and reconciled without a run-time panic, whatever
its commands do: every partial operation on the way is reached with a value that it
is defined for exactly when the configuration and the files it starts from are as
described here. -/
namespace Nodelet
open Constants Sunpike
open Go (Ends Returns)

/-- What a phase implemented in Go needs: commands that print what is read of them, and a client
where a failed creation would not be noticed. -/
structure Outside.Serves (outside : Outside W) (phase : NativePhase) : Prop where
  calls : ∀ op cfg w, (outside.calls op cfg phase w).1.Safe
  client : phase = .uncordonNode → ¬ outside.ClientFails phase

/-- What the operations of these phases need: a number of lines to keep of the output of a
script. -/
structure Outside.Operates (outside : Outside W) (cfg : Config) (phases : List PhaseInterface) :
    Prop where
  lines : 0 ≤ cfg.numCmdOutputLinesToLog
  native : ∀ phase ∈ phases, ∀ implemented,
    phase.implementation = .native implemented → outside.Serves implemented

/-- The cluster is the configured one, or there never was one. -/
def Control.serves (cfg : Config) (c : Control) : Prop :=
  c.clusterID = cfg.clusterID ∧ c.clusterRole = cfg.clusterRole ∨ c.clusterRole = roleNone ∧
    c.clusterID = ""

section Ending
variable {W : Type} {outside : Outside W} {codec : Codec} {cfg : Config}

theorem operateNative_returns (serves : outside.Serves phase) (op : PhaseOp)
    (i : Nat) (m : Machine outside) :
    ∃ reply, operateNative outside op cfg phase i m = .ok reply := by
  obtain ⟨reply, operated⟩ := NativePhase.operate_returns _ cfg (s := m.phase i phase)
    (serves.calls op cfg m.outside) (fun same null => serves.client same (m.failed phase null)) op
  unfold operateNative
  dsimp only
  split
  · rename_i halt halted
    rw [operated] at halted
    contradiction
  · exact ⟨_, rfl⟩

variable {phases : List PhaseInterface}

theorem operateAt_returns (operates : outside.Operates cfg phases)
    (op : PhaseOp) {i : Nat} (inside : i < phases.length) (m : Machine outside) :
    ∃ reply, operateAt outside phases op cfg i m = .ok reply := by
  have native := operates.native phases[i] (List.getElem_mem inside)
  unfold operateAt
  rw [Go.index_eq inside]
  simp only [Bind.bind, Except.bind]
  cases implementation : phases[i].implementation with
  | native implemented => exact operateNative_returns (native implemented implementation) op i m
  | bash filename retry =>
    obtain ⟨reply, operated⟩ :=
      BashPhase.operate_returns outside.toCommands phases[i].hostPhase.name
      filename retry operates.lines op m.outside
    exact ⟨_, by simp only [operated]; rfl⟩

theorem Outside.Operates.env (operates : outside.Operates cfg phases)
    (codec : Codec) : (outside.env codec phases).Returning cfg phases.length where
  status _ inside := operateAt_returns operates .status inside
  start _ inside := operateAt_returns operates .start inside
  stop _ inside := operateAt_returns operates .stop inside

end Ending

theorem StatusOutcome.of_empty (outcome : StatusOutcome cfg 0 c checks call c')
    (complete : c.startFailStep = -1) : ∃ now, c' = c.beginStatus.settle cfg now none := by
  cases outcome with
  | incomplete incomplete => exact absurd complete incomplete
  | complete _ checked now =>
    cases checked with
    | disabled | passed => exact ⟨now, rfl⟩
    | failed _ inside => exact absurd inside (Nat.not_lt_zero _)

section Reconciling
variable {W : Type} {outside : Outside W} {codec : Codec} {cfg : Config} {n : Nodeletd outside}

/-- What an idle process without phases keeps: its cluster, and no incomplete start. -/
structure Control.Settled (cfg : Config) (c : Control) : Prop where
  complete : c.startFailStep = -1
  serves : c.serves cfg

theorem Control.Settled.checked (settled : Control.Settled cfg c)
    (outcome : StatusOutcome cfg 0 c checks call c') : c'.alreadyRunning cfg ∧ c'.Settled cfg := by
  obtain ⟨now, rfl⟩ := outcome.of_empty settled.complete
  exact ⟨⟨rfl, settled.serves⟩, settled.complete, settled.serves⟩

end Reconciling

/-- Creation reports the failed setup of the cgroup, since the role has no phases to load. -/
structure Config.RejectsRole (cfg : Config) : Prop where
  unknown : ¬ cfg.KnownRole
  cgroups : cfg.useCgroups = true
  enabled : cfg.disableScripts = false
  limit : cfg.InvalidCPULimit

/-- A process without phases has nothing to do: neither state is asked for, or the
service counts as running for the cluster that the extension file names. -/
def Config.Idle (cfg : Config) (file : ExtensionFile) : Prop :=
  cfg.kubeServiceState ≠ serviceStateTrue ∧ cfg.kubeServiceState ≠ serviceStateFalse ∨
    cfg.kubeServiceState = serviceStateTrue ∧ ∃ d, loadState cfg file = .ok d ∧ d.control.serves cfg

theorem Config.RejectsRole.fails (rejects : cfg.RejectsRole) (commands : Commands W) (w : W) :
    ∃ err, initAndLoadRolePhases commands cfg w = (.error err, w) := by
  have setup : trySetupCgroup commands cfg w = (some "invalid value for CPU_LIMIT", w) := by
    rw [trySetupCgroup, if_pos ⟨rejects.cgroups, by simp [rejects.enabled]⟩, setupCgroup,
      if_pos rejects.limit]
  rw [initAndLoadRolePhases_unknown commands rejects.unknown, setup]
  exact ⟨_, rfl⟩

section Sufficient
variable {W : Type} {outside : Outside W} {codec : Codec} {cfg : Config} {files : StartFiles}
  {n : Nodeletd outside}
  {phases : List PhaseInterface}

variable {w w' : W}

end Sufficient
end Nodelet
