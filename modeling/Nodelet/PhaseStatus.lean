import Nodelet.NativeStatus

/-! What the status of a host phase says about the operation that left it. The commands that
start or stop a single phase look at nothing else. -/
namespace Nodelet
open Constants Sunpike Go.Procedure

/-- A phase with its implementation; no script sets its retries. -/
inductive RolePhase where
  | script (hostPhase : Phase) (filename : String)
  | native (phase : NativePhase)
  deriving DecidableEq, Repr

namespace RolePhase

def interface : RolePhase → PhaseInterface
  | script hostPhase filename => ⟨hostPhase, .bash filename 0⟩
  | native phase => phase.interface

/-- What an operation meets: the surroundings of its commands, and the outcomes of its calls. -/
structure Met (W Data : Type) where
  commands : Commands W
  world : W
  calls : NativePhase.Calls Data

variable {W Data : Type} (met : Met W Data) (cfg : Config)

abbrev Returned := Except Go.Halt (Except Go.Error Unit × NativePhase.State)

/-- The reply of a script, with the host phase it is put into. -/
def replied (s : NativePhase.State) (reply : PhaseReply × W) :
    Except Go.Error Unit × NativePhase.State :=
  (reply.1.err.elim (.ok ()) .error,
    { s with phase := { s.phase with status := reply.1.status, message := reply.1.message } })

def start (phase : RolePhase) (s : NativePhase.State) : Returned :=
  match phase with
  | script hostPhase filename =>
    (BashPhase.start met.commands cfg hostPhase.name filename met.world).map (replied s)
  | native phase => (phase.start met.calls cfg).result s

def stop (phase : RolePhase) (s : NativePhase.State) : Returned :=
  match phase with
  | script hostPhase filename =>
    (BashPhase.stop met.commands cfg hostPhase.name filename 0 met.world).map (replied s)
  | native phase => (phase.stop met.calls).result s

def startSinglePhase (phase : RolePhase) (s : NativePhase.State) :
    Except Go.Halt (Option Go.Error) := do
  let (_, t) ← phase.start met cfg s
  return if t.phase.status = failedState then some ("failed to start phase " ++ t.phase.name)
    else none

def stopSinglePhase (phase : RolePhase) (s : NativePhase.State) :
    Except Go.Halt (Option Go.Error) := do
  let (_, t) ← phase.stop met cfg s
  return if t.phase.status ≠
    stoppedState then some ("failed to cleanly stop phase: " ++ t.phase.name) else none

end RolePhase

theorem judge_eq_ok {succeeded failed complaint name : String} {ran : Int × List String}
    {judged : PhaseReply} (ends : judge cfg succeeded failed complaint name ran = .ok judged) :
    ran.1 = 0 ∧ judged.err = none ∧ judged.status = succeeded ∨
      ran.1 ≠ 0 ∧ judged.err ≠ none ∧ judged.status = failed := by
  unfold judge at ends
  split_ifs at ends with zero
  · cases ends
    exact .inl ⟨zero, rfl, rfl⟩
  · obtain ⟨message, _, same⟩ := Go.bind_eq_ok.mp ends
    cases same
    exact .inr ⟨zero, Option.some_ne_none _, rfl⟩

namespace RolePhase
variable {W Data : Type} {met : Met W Data} {cfg : Config} {s t : NativePhase.State}
  {returned : Except Go.Error Unit}

/-- The script exits with zero, at once or when it is run again. -/
def ScriptStops (met : Met W Data) (cfg : Config) (filename : String) : Prop :=
  let first := runCommand met.commands cfg filename .stop met.world
  first.1.1 = 0 ∨ ¬ met.commands.expired first.2 ∧
    (runCommand met.commands cfg filename .stop first.2).1.1 = 0

/-- Where Start tells the truth: everywhere, but for an error of the cloud configuration. -/
def StartAgrees (met : Met W Data) (cfg : Config) (s : NativePhase.State) : RolePhase → Prop
  | native .misc => NativePhase.HasClient met.calls s →
    ¬ NativePhase.MiscPhase.CloudConfigWritten met.calls cfg →
      s.phase.status = failedState
  | _ => True

/-- Where Stop tells the truth: a script and the drain must not fail. -/
def StopAgrees (met : Met W Data) (cfg : Config) (s : NativePhase.State) : RolePhase → Prop
  | script _ filename => ScriptStops met cfg filename
  | native .drainNode => NativePhase.DrainNodePhase.Drains met.calls s
  | _ => True

theorem retryCommand_iff (filename : String) :
    (retryCommand met.commands cfg filename .stop (getBackOff (0 - 1)) met.world).1.1 = 0 ↔
      ScriptStops met cfg filename := by
  have once : getBackOff (0 - 1) = 1 := by decide
  rw [once, ScriptStops]
  simp only [retryCommand]
  split_ifs with ended
  · rcases ended with zero | expired
    · simp [zero]
    · simp [expired]
  · obtain ⟨nonzero, unexpired⟩ := not_or.mp ended
    simp [nonzero, unexpired]

theorem replied_eq {hostPhase : NativePhase.State} {result : Except Go.Halt (PhaseReply × W)}
    (ran : result.map (replied hostPhase) = .ok (returned, t)) :
    ∃ reply w, result = .ok (reply, w) ∧
      (returned = .ok () ↔ reply.err = none) ∧ t.phase.status = reply.status := by
  obtain ⟨⟨reply, w⟩, same, put⟩ := Go.map_eq_ok.mp ran
  cases put
  refine ⟨reply, w, same, ?_, rfl⟩
  cases reply.err <;> simp

theorem start_script {filename : String}
    (ran : (script hostPhase filename).start met cfg s = .ok (returned, t)) :
    t.phase.status = failedState ↔ returned ≠ .ok () := by
  obtain ⟨reply, w, same, errs, status⟩ := replied_eq ran
  obtain ⟨judged, ends, put⟩ := Go.bind_eq_ok.mp same
  cases put
  rw [status, ne_eq, errs]
  rcases judge_eq_ok ends with ⟨_, err, was⟩ | ⟨_, err, was⟩
  · simp [err, was, runningState, failedState, errorState]
  · simp [err, was]

theorem stop_script {filename : String}
    (ran : (script hostPhase filename).stop met cfg s = .ok (returned, t)) :
    t.phase.status = stoppedState ∧ (returned = .ok () ↔ ScriptStops met cfg filename) := by
  obtain ⟨reply, w, same, errs, status⟩ := replied_eq ran
  obtain ⟨judged, ends, put⟩ := Go.bind_eq_ok.mp same
  obtain rfl : judged = reply := congrArg Prod.fst (Except.ok.inj put)
  rw [status, errs, ← retryCommand_iff]
  rcases judge_eq_ok ends with ⟨zero, err, was⟩ | ⟨nonzero, err, was⟩
  · exact ⟨was, iff_of_true err zero⟩
  · exact ⟨was, iff_of_false err nonzero⟩

variable {phase : NativePhase}

theorem start_native (other : phase ≠ .misc) :
    NativePhase.Ends runningState (phase.start met.calls cfg) := by
  cases phase with
  | containerdConfig => exact NativePhase.ContainerdConfigPhase.start_ends _
  | containerdRun => exact NativePhase.ContainerdRunPhase.start_ends _
  | loadImage => exact NativePhase.LoadImagePhase.start_ends _ _
  | misc => exact absurd rfl other
  | kubeletConfigureStart => exact (NativePhase.Reported.reporting _).ends fun _ => .setHostStatus _ _
  | labelTaintNode => exact NativePhase.LabelTaintNodePhase.start_ends _ _
  | uncordonNode => exact NativePhase.UncordonNodePhase.start_ends _
  | deployAppCatalog => exact NativePhase.DeployAppCatalogPhase.start_ends _ _
  | pf9CoreDNS =>
    exact (NativePhase.Reported.reporting _).ends fun _ =>
      (NativePhase.Reported.reporting _).ends fun _ =>
      .setHostStatus _ _
  | drainNode => exact NativePhase.DrainNodePhase.start_ends _

theorem stop_native (other : phase ≠ .drainNode) :
    NativePhase.Ends stoppedState (phase.stop met.calls) := by
  cases phase with
  | containerdRun => exact NativePhase.ContainerdRunPhase.stop_ends _
  | kubeletConfigureStart => exact (NativePhase.Reported.reporting _).ends fun _ => .setHostStatus _ _
  | drainNode => exact absurd rfl other
  | _ => exact .setHostStatus _ _

theorem start_misc (ran : (native .misc).start met cfg s = .ok (returned, t)) :
    (t.phase.status = failedState ↔ returned ≠ .ok ()) ↔ StartAgrees met cfg s (native .misc) := by
  have leaves := NativePhase.MiscPhase.start_leaves met.calls cfg s
  rcases returned with err | ⟨⟩
  · rcases leaves.threw ran with ⟨status, missing⟩ | ⟨unchanged, available, unwritten⟩
    · simp [StartAgrees, status, missing]
    · simp [StartAgrees, unchanged, available, unwritten]
  · obtain ⟨status, written⟩ := leaves.returned ran
    simp [StartAgrees, status, written, runningState, failedState, errorState]

theorem stop_drainNode (ran : (native .drainNode).stop met cfg s = .ok (returned, t)) :
    (t.phase.status = stoppedState ↔ returned = .ok ()) ↔
      StopAgrees met cfg s (native .drainNode) := by
  have leaves := NativePhase.DrainNodePhase.stop_leaves met.calls s
  rcases returned with err | ⟨⟩
  · obtain ⟨status, failed⟩ := leaves.threw ran
    simp [StopAgrees, status, failed]
  · obtain ⟨status, drains⟩ := leaves.returned ran
    simp [StopAgrees, status, drains]

theorem start_iff (role : RolePhase) (ran : role.start met cfg s = .ok (returned, t)) :
    (t.phase.status = failedState ↔ returned ≠ .ok ()) ↔ role.StartAgrees met cfg s := by
  cases role with
  | script hostPhase filename => exact iff_of_true (start_script ran) trivial
  | native phase =>
    by_cases same : phase = .misc
    · subst same
      exact start_misc ran
    · have agrees : StartAgrees met cfg s (native phase) := by cases phase <;> trivial
      refine iff_of_true ?_ agrees
      rcases (start_native same).returned ran with ⟨returns, status⟩ | ⟨throws, status⟩
      · simp [returns, status, runningState, failedState, errorState]
      · simp [throws, status]

theorem stop_iff (role : RolePhase) (ran : role.stop met cfg s = .ok (returned, t)) :
    (t.phase.status = stoppedState ↔ returned = .ok ()) ↔ role.StopAgrees met cfg s := by
  cases role with
  | script hostPhase filename =>
    obtain ⟨status, returns⟩ := stop_script ran
    rw [iff_true_left status, returns]
    rfl
  | native phase =>
    by_cases same : phase = .drainNode
    · subst same
      exact stop_drainNode ran
    · have agrees : StopAgrees met cfg s (native phase) := by cases phase <;> trivial
      refine iff_of_true ?_ agrees
      rcases (stop_native same).returned ran with ⟨returns, status⟩ | ⟨throws, status⟩
      · simp [returns, status]
      · simp [throws, status, stoppedState, failedState, errorState]

theorem startSinglePhase_iff (role : RolePhase) (ran : role.start met cfg s = .ok (returned, t)) :
    role.startSinglePhase met cfg s ≠ .ok none ↔ t.phase.status = failedState := by
  rw [startSinglePhase, ran]
  simp only [Bind.bind, Except.bind, Pure.pure, Except.pure]
  split_ifs with failed <;> simp [failed]

theorem stopSinglePhase_iff (role : RolePhase) (ran : role.stop met cfg s = .ok (returned, t)) :
    role.stopSinglePhase met cfg s ≠ .ok none ↔ t.phase.status ≠ stoppedState := by
  rw [stopSinglePhase, ran]
  simp only [Bind.bind, Except.bind, Pure.pure, Except.pure]
  split_ifs with unstopped <;> simp [unstopped]

/-- The implementation of a phase. -/
def ofInterface (phase : PhaseInterface) : RolePhase :=
  match phase.implementation with
  | .bash filename _ => script phase.hostPhase filename
  | .native implemented => native implemented

theorem exists_interface (built : getMasterPhases = .ok phases ∨
      getWorkerPhases = .ok phases ∨ getNoRolePhases = .ok phases)
    {phase : PhaseInterface} (member :
      phase ∈ phases) : ∃ role : RolePhase, role.interface = phase := by
  have known : ∀ phase ∈ masterPhaseList ++ workerPhaseList ++ [newNoRolePhase phaseBaseDir],
      (ofInterface phase).interface = phase := by decide +kernel
  have listed : phase ∈ masterPhaseList ++ workerPhaseList ++ [newNoRolePhase phaseBaseDir] := by
    rw [getMasterPhases_eq, getWorkerPhases_eq] at built
    rcases built with same | same | same
    all_goals
      cases same
      simp [member]
  exact ⟨ofInterface phase, known phase listed⟩

/-- Start and Stop of the phases of every role. -/
theorem singlePhase_agrees_iff {phases : List PhaseInterface}
    (built : getMasterPhases = .ok phases ∨
      getWorkerPhases = .ok phases ∨ getNoRolePhases = .ok phases)
    {phase : PhaseInterface} (member :
      phase ∈ phases) : ∃ role : RolePhase, role.interface = phase ∧
      ∀ {W Data : Type} (met : Met W Data) (cfg : Config) (s t : NativePhase.State)
        (returned : Except Go.Error Unit),
        (role.start met cfg s = .ok (returned, t) →
          ((t.phase.status = failedState ↔ returned ≠ .ok ()) ∧
            (role.startSinglePhase met cfg s ≠ .ok none ↔ returned ≠ .ok ()) ↔
        role.StartAgrees met cfg s)) ∧ (role.stop met cfg s = .ok (returned, t) →
          ((t.phase.status = stoppedState ↔ returned = .ok ()) ∧
            (role.stopSinglePhase met cfg s ≠ .ok none ↔ returned ≠ .ok ()) ↔
            role.StopAgrees met cfg s)) := by
  obtain ⟨role, same⟩ := exists_interface built member
  refine ⟨role, same, fun met cfg s t returned => ⟨fun ran => ?_, fun ran => ?_⟩⟩
  · rw [startSinglePhase_iff role ran, and_self_iff]
    exact start_iff role ran
  · rw [stopSinglePhase_iff role ran, ne_eq, ne_eq, not_iff_not, and_self_iff]
    exact stop_iff role ran

/-- Every script exits with one, and the cloud configuration is not in base64. -/
def failing : Met Unit Unit where
  commands :=
    { runCommand := fun _ w => (none, w)
      runCommandWithStdOut := fun _ w => ((1, ["no such process"]), w)
      expired := fun _ => false
      formatFloat := fun _ => "" }
  world := ()
  calls :=
    { NativePhase.Calls.succeeding Unit with
      writeToFileWithBase64Decoding := fun _ _ => some "decode error: illegal base64 data at input byte 0" }

theorem singlePhase_agrees_genCerts :
    ∃ role : RolePhase, role.interface = newGenCertsPhase phaseBaseDir ∧ ∀ returned t,
      role.stop failing {} ⟨{}, .unset⟩ = .ok (returned, t) →
        ((t.phase.status = stoppedState ↔ returned = .ok ()) ∧
          (role.stopSinglePhase failing {} ⟨{}, .unset⟩ ≠ .ok none ↔ returned ≠ .ok ()) ↔
            role.StopAgrees failing {} ⟨{}, .unset⟩) := by
  obtain ⟨role, same, agrees⟩ := singlePhase_agrees_iff (.inl getMasterPhases_eq)
    (by decide : newGenCertsPhase phaseBaseDir ∈ masterPhaseList)
  exact ⟨role, same, fun returned t => (agrees failing {} ⟨{}, .unset⟩ t returned).2⟩

/-- The stop script of the certificates fails, and stopping that phase does not. The miscellaneous
phase fails to start, and starting it does not. -/
theorem singlePhase_disagrees :
    (∃ role : RolePhase, role.interface = newGenCertsPhase phaseBaseDir ∧ ∃ err t,
      role.stop failing {} ⟨{}, .unset⟩ = .ok (.error err, t) ∧ t.phase.status = stoppedState ∧
        role.stopSinglePhase failing {} ⟨{}, .unset⟩ = .ok none) ∧
      ∃ role : RolePhase, role.interface = newMiscPhase ∧ ∃ err t,
        role.start failing { kubeletCloudConfig := "/etc/cloud.b64" } ⟨{}, .unset⟩ =
          .ok (.error err, t) ∧ t.phase.status ≠ failedState ∧
            role.startSinglePhase failing { kubeletCloudConfig := "/etc/cloud.b64" } ⟨{}, .unset⟩ =
            .ok none :=
  ⟨⟨script _ _, rfl, _, _, rfl, rfl, rfl⟩, native .misc, rfl, _, _, rfl, by decide, rfl⟩

end RolePhase
end Nodelet
