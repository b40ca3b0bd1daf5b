import Nodelet.Ctl.Phases

/-! The sequences of steps that deploy or upgrade a node. A function that has returned has
brought each sequence to its end: after its last step, or at a step that failed. -/
namespace Nodeletctl
open Go.Resumption (Traces Emits runs_bind_done runs_done traces_parallel runs_bind_ok)
open Go.Remote (runs_bind_error runs_mapError_ok runs_mapError_error runs_mapError_done runs_lift)

/-- A step of a deployment or an upgrade of this node, and whether it succeeded. -/
def Event.sequence? (nodeName : String) : Event → Option (Step × Bool)
  | ⟨.perform deployer step, answer⟩ =>
    if deployer.hostId = nodeName ∧ step ≠ .deleteNodelet then some (step, answer.isOk) else none
  | _ => none

def sequenceOn (nodeName : String) (trace : List Event) : List (Step × Bool) :=
    trace.filterMap (Event.sequence? nodeName)

/-- The steps at which a sequence ends. -/
def finalSteps : List Step := [.startNodelet, .restartNodelet]

/-- Unless a step on the node has failed, its last step is the end of a sequence. -/
def Ended (trace : List Event) : Prop :=
  ∀ nodeName, (∀ step ∈ sequenceOn nodeName trace, step.2 = true) →
    ∀ last, (sequenceOn nodeName trace).getLast? = some last → last.1 ∈ finalSteps

section Ended
variable {first second trace : List Event} {nodeName : String}

theorem sequenceOn_append :
    sequenceOn nodeName (first ++ second) =
      sequenceOn nodeName first ++ sequenceOn nodeName second :=
  List.filterMap_append

theorem sequenceOn_nil (none : ∀ event ∈ trace, event.sequence? nodeName = none) :
    sequenceOn nodeName trace = [] :=
  List.filterMap_eq_nil_iff.mpr none

/-- The event is no step of a sequence. -/
def Outside (event : Event) : Prop := ∀ nodeName, event.sequence? nodeName = none

theorem outside_reading (request : Request) (answer : request.Answer)
    (reading : ¬ request.Changes) : Outside ⟨request, answer⟩ := by
  intro nodeName
  cases request <;> first | exact absurd trivial reading | rfl

theorem outside_plain (request : Request) (answer : request.Answer) (plain : request.Plain) :
    Outside ⟨request, answer⟩ :=
  plainly outside_reading request answer plain

theorem Ended.of_outside (outside : ∀ event ∈ trace, Outside event) : Ended trace := by
  intro nodeName _ last found
  rw [sequenceOn_nil fun event member => outside event member nodeName] at found
  contradiction

theorem Ended.append (one : Ended first) (two : Ended second) : Ended (first ++ second) := by
  intro nodeName succeeded last found
  rw [sequenceOn_append] at succeeded found
  obtain ⟨early, late⟩ := List.forall_mem_append.mp succeeded
  rw [List.getLast?_append, Option.or_eq_some_iff] at found
  obtain later | ⟨-, earlier⟩ := found
  · exact two nodeName late last later
  · exact one nodeName early last earlier

theorem Ended.interleaved {choice : Event → Prop} (one : Ended first) (two : Ended second)
    (merged : Go.Interleaved choice first second trace)
    (hidden : ∀ event, choice event → Outside event) : Ended trace := by
  intro nodeName succeeded last found
  have steps := merged.filterMap fun event chosen => hidden event chosen nodeName
  obtain left | right | impossible := steps.getLast found
  · exact one nodeName (fun step member => succeeded step (steps.mem_left member)) last left
  · exact two nodeName (fun step member => succeeded step (steps.mem_right member)) last right
  · exact impossible.elim

end Ended

section Steps
variable {allowed : Event → Prop} {deployer : Deployer} {steps : List (Step × String)}
  {trace : List Event}

theorem sequence_perform (deploys : step ≠ .deleteNodelet) (answer : Except Go.Error Unit) :
    sequenceOn deployer.hostId [⟨.perform deployer step, answer⟩] = [(step, answer.isOk)] := by
  simp [sequenceOn, Event.sequence?, deploys]

theorem runSteps_sequence (deploys : ∀ step ∈ steps.map Prod.fst, step ≠ .deleteNodelet)
    (runs : Traces allowed (deployer.runSteps steps).run trace (.done (.ok ()))) :
    sequenceOn deployer.hostId trace = steps.map fun step => (step.1, true) := by
  induction steps generalizing trace with
  | nil =>
    obtain ⟨rfl, -⟩ := runs_done.mp runs
    rfl
  | cons first rest ih =>
    obtain ⟨head, tail⟩ := List.forall_mem_cons.mp deploys
    obtain ⟨_, _, _, _, rfl, performed, later⟩ := runs_bind_ok.mp runs
    obtain ⟨rfl, -⟩ := ask_returns.mp (runs_mapError_ok.mp performed)
    rw [sequenceOn_append, ih tail later, sequence_perform head]
    rfl

theorem runSteps_failed (deploys : ∀ step ∈ steps.map Prod.fst, step ≠ .deleteNodelet)
    (runs : Traces allowed (deployer.runSteps steps).run trace (.done (.error err))) :
    ∃ step ∈ sequenceOn deployer.hostId trace, step.2 = false := by
  induction steps generalizing trace with
  | nil =>
    obtain ⟨-, impossible, -⟩ := runs_done.mp runs
    contradiction
  | cons first rest ih =>
    obtain ⟨head, tail⟩ := List.forall_mem_cons.mp deploys
    obtain failed | ⟨_, _, _, _, rfl, -, later⟩ := runs_bind_error.mp runs
    · obtain ⟨early, performed⟩ := runs_mapError_error failed
      obtain ⟨rfl, -⟩ := ask_returns.mp performed
      exact ⟨(first.1, false), by simp [sequence_perform head, Except.isOk, Except.toBool], rfl⟩
    · obtain ⟨step, member, failed⟩ := ih tail later
      exact ⟨step, by simp [sequenceOn_append, member], failed⟩

variable {result : Except Go.Error Unit}

theorem runSteps_ended (deploys : ∀ step ∈ steps.map Prod.fst, step ≠ .deleteNodelet)
    (final : ∀ step, (steps.map Prod.fst).getLast? = some step → step ∈ finalSteps)
    (runs : Traces allowed (deployer.runSteps steps).run trace (.done result)) : Ended trace := by
  intro nodeName succeeded last found
  by_cases same : nodeName = deployer.hostId
  · subst same
    cases result with
    | error err =>
      obtain ⟨step, member, failed⟩ := runSteps_failed deploys runs
      simp [succeeded step member] at failed
    | ok =>
      rw [runSteps_sequence deploys runs] at found
      refine final last.1 ?_
      rw [List.getLast?_map] at found ⊢
      obtain ⟨step, isLast, rfl⟩ := Option.map_eq_some_iff.mp found
      rw [isLast]
      rfl
  · have elsewhere : ∀ event ∈ trace, event.sequence? nodeName = none := by
      refine (show Go.Remote.Emits (Event.sequence? nodeName · = none) _ _ from emits_runSteps
        fun step _ answer => ?_).mem runs
      simp [Event.sequence?, Ne.symm same]
    rw [sequenceOn_nil elsewhere] at found
    contradiction

end Steps

section Finishes
variable {allowed : Event → Prop} {cfg : BootstrapConfig}
  {hosts currMasters newMasters : List HostConfig}
  {masterList : List (String × String)} {trace : List Event} {deployer : Deployer}

/-- A run that has returned a value has brought its sequences to an end. -/
def Finishes (allowed : Event → Prop) (program : Remote α) : Prop :=
  ∀ trace value, Traces allowed program.run trace (.done (.ok value)) → Ended trace

namespace Finishes

variable {program : Remote α}

theorem of_outside {post : α → Prop} (emits : Go.Remote.Emits Outside post program) :
    Finishes allowed program :=
  fun _ _ runs => .of_outside (emits.mem runs)

theorem pure {value : α} : Finishes allowed (pure value : Remote α) := by
  intro trace _ runs
  obtain ⟨rfl, -⟩ := runs_done.mp runs
  exact .of_outside (List.forall_mem_nil _)

theorem bind {next : α → Remote β} (first : Finishes allowed program)
    (rest : ∀ value, Finishes allowed (next value)) : Finishes allowed (program >>= next) := by
  intro trace value runs
  obtain ⟨_, middle, _, _, rfl, one, two⟩ := runs_bind_ok.mp runs
  exact (first _ middle one).append (rest middle _ value two)

theorem mapError {change : Go.Error → Go.Error} (finishes : Finishes allowed program) :
    Finishes allowed (mapError change program) :=
  fun trace value runs => finishes trace value (runs_mapError_ok.mp runs)

theorem lift (ended : ∀ trace value, Traces allowed call trace (.done value) → Ended trace) :
    Finishes allowed (ExceptT.lift call : Remote α) := by
  intro trace value runs
  obtain ⟨_, -, runs⟩ := runs_lift.mp runs
  exact ended trace _ runs

end Finishes

theorem deployNodelet_ended
    (runs : Traces allowed deployer.deployNodelet.run trace (.done result)) : Ended trace :=
  runSteps_ended (by decide) (by decide) runs

theorem upgrade_ended
    (runs : Traces allowed (deployer.runSteps Deployer.upgradeSteps).run trace (.done result)) :
    Ended trace :=
  runSteps_ended (by decide) (by decide) runs

theorem spawn_ended (trace : List Event) (status : String × Option Go.Error)
    (runs : Traces allowed deployer.spawn trace (.done status)) : Ended trace := by
  obtain ⟨_, result, _, _, rfl, deployed, later⟩ := runs_bind_done.mp runs
  refine (deployNodelet_ended deployed).append (.of_outside ?_)
  refine (show Emits Outside (fun _ => True) _ from ?_).mem later
  cases result with
  | error err => exact .bind (emits_ask outside_plain trivial) fun _ _ => trivial
  | ok =>
    exact .bind (emits_refresh outside_plain) fun _ _ =>
      .bind (emits_ask outside_plain trivial) fun _ _ => trivial

theorem upgradeWorker_ended (trace : List Event) (value : Unit)
    (runs : Traces allowed deployer.upgradeWorker trace (.done value)) : Ended trace := by
  obtain ⟨_, result, _, _, rfl, upgraded, later⟩ := runs_bind_done.mp runs
  refine (upgrade_ended upgraded).append (.of_outside ?_)
  refine (show Emits Outside (fun _ => True) _ from ?_).mem later
  cases result with
  | error err => exact emits_ask outside_plain trivial
  | ok => trivial

theorem finishes_renderedDeployer {nodeletCfg : NodeletConfig} :
    Finishes allowed (renderedDeployer nodeletCfg) :=
  .of_outside (emits_renderedDeployer outside_plain (rendering outside_reading))

theorem finishes_inParallel {body : Deployer → Call Unit}
    (ended : ∀ deployer trace value, Traces allowed (body deployer) trace (.done value) →
      Ended trace) : Finishes allowed (inParallel cfg body hosts) := by
  induction hosts with
  | nil => exact .pure
  | cons host rest ih =>
    refine .bind finishes_renderedDeployer fun deployer trace value runs => ?_
    have chosen (trace : List Event) (remaining : Call Bool)
        (runs : Traces allowed (ask .schedule) trace remaining) :=
      (emits_ask outside_plain (by exact trivial)).mem runs
    obtain ⟨one, _, two, _, child, parent, merged, joined⟩ := traces_parallel chosen runs
    obtain ⟨rfl, rfl⟩ := joined.ok value rfl
    exact (ended deployer one () child).interleaved (ih two value parent) merged fun _ outside =>
      outside

theorem finishes_deployWorkers : Finishes allowed (deployWorkers cfg hosts) := by
  refine finishes_inParallel fun deployer trace value runs => ?_
  obtain ⟨_, status, _, _, rfl, spawned, ended⟩ := runs_bind_done.mp runs
  obtain ⟨rfl, -⟩ := runs_done.mp ended
  rw [List.append_nil]
  exact spawn_ended _ status spawned

theorem finishes_upgradeWorkers : Finishes allowed (upgradeWorkers cfg hosts) :=
  finishes_inParallel fun _ => upgradeWorker_ended

theorem finishes_addMastersFrom :
    Finishes allowed (addMastersFrom cfg newMasters masterList currMasters hosts) := by
  induction hosts generalizing masterList currMasters with
  | nil => exact .pure
  | cons host rest ih =>
    refine .bind finishes_renderedDeployer fun deployer => ?_
    refine .bind
      (.of_outside (.mapError (emits_addNodeToEtcd (connecting outside_reading) fun _ _ => rfl)))
        fun _ => ?_
    refine .bind (.lift spawn_ended) fun _ => ?_
    exact .bind (.of_outside (.mapError (emits_syncNodes outside_plain))) fun _ => ih

theorem finishes_deployMasters : Finishes allowed (deployMasters cfg masterList hosts) := by
  induction hosts with
  | nil => exact .pure
  | cons host rest ih =>
    refine .bind (.of_outside (emits_statUserImages outside_plain)) fun _ => ?_
    refine .bind finishes_renderedDeployer fun deployer => ?_
    exact .bind (.lift spawn_ended) fun _ => ih

theorem finishes_upgradeMasters : Finishes allowed (upgradeMasters cfg masterList hosts) := by
  induction hosts with
  | nil => exact .pure
  | cons host rest ih =>
    refine .bind finishes_renderedDeployer fun deployer => ?_
    refine .bind (.lift fun _ _ => upgrade_ended) fun result => ?_
    cases result with
    | ok => exact ih
    | error err =>
      exact .bind (.of_outside (.lift (emits_ask outside_plain trivial))) fun _ => ih

theorem outside_delete (nodeName : String) : Performs Outside nodeName .deleteNodelet := by
  intro deployer _ answer other
  simp [Event.sequence?]

theorem finishes_removeMasters : Finishes allowed (removeMasters cfg currMasters hosts) :=
  .of_outside <| emits_removeMasters outside_plain (connecting outside_reading)
    (fun _ _ _ _ _ _ => rfl) fun _ _ => outside_delete _

end Finishes
end Nodeletctl
