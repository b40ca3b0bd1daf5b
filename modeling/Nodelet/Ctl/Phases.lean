import Nodelet.Ctl.Returns

/-! The phases of a scaling: masters are added, then removed, workers are deployed, all nodes
are waited for, and workers are deleted. Each phase works on the hosts of one part of a
difference. -/
namespace Nodeletctl
open Go.Resumption
  (Traces Emits runs_done runs_bind_done runs_call_done traces_parallel runs_bind_ok)
open Go.Remote (Can runs_bind_cases runs_bind_first runs_mapError_ok runs_mapError_cases
  runs_mapError_done)

/-- The operations on a host, in their order. -/
def operationsOn (nodeName : String) (trace : List Event) : List Step :=
  (trace.filterMap Event.step?).filterMap fun operation => if operation.1 =
    nodeName then some operation.2 else none

def lastOperation (nodeName : String) (trace : List Event) : Option Step :=
    (operationsOn nodeName trace).getLast?

/-- No host is deleted after it was deployed. -/
def NeverWiped (trace : List Event) : Prop :=
  trace.Pairwise fun earlier later => ∀ nodeName step, earlier.step? = some (nodeName, step) →
    step ≠ .deleteNodelet → later.step? ≠ some (nodeName, .deleteNodelet)

section LastOperation
variable {nodeName : String} {trace first second : List Event} {step : Step}

theorem mem_operationsOn :
    step ∈ operationsOn nodeName trace ↔ ∃ event ∈ trace, event.step? = some (nodeName, step) := by
  simp only [operationsOn, List.mem_filterMap, Prod.exists]
  grind

theorem operationsOn_append :
    operationsOn nodeName (first ++ second) =
      operationsOn nodeName first ++ operationsOn nodeName second := by
  simp only [operationsOn, List.filterMap_append]

theorem lastOperation_append :
    lastOperation nodeName (first ++ second) =
      (lastOperation nodeName second).or (lastOperation nodeName first) := by
  rw [lastOperation, operationsOn_append, List.getLast?_append, lastOperation, lastOperation]

theorem lastOperation_mem (last : lastOperation nodeName trace = some step) :
    ∃ event ∈ trace, event.step? = some (nodeName, step) :=
  mem_operationsOn.mp (List.mem_of_getLast? last)

theorem lastOperation_eq (exists_ : ∃ event ∈ trace, event.step? = some (nodeName, step))
    (only : ∀ event ∈ trace, ∀ other, event.step? = some (nodeName, other) → other = step) :
    lastOperation nodeName trace = some step := by
  obtain ⟨last, found⟩ : ∃ last, lastOperation nodeName trace = some last := by
    refine Option.ne_none_iff_exists'.mp fun none => ?_
    have empty := List.getLast?_eq_none_iff.mp none
    exact absurd (mem_operationsOn.mpr exists_) (by simp [empty])
  obtain ⟨event, member, operation⟩ := lastOperation_mem found
  rw [found, only event member last operation]

theorem lastOperation_none
    (untouched : ∀ event ∈ trace, ∀ step, event.step? ≠ some (nodeName, step)) :
    lastOperation nodeName trace = none := by
  refine List.getLast?_eq_none_iff.mpr (List.eq_nil_iff_forall_not_mem.mpr fun step member => ?_)
  obtain ⟨event, there, operation⟩ := mem_operationsOn.mp member
  exact untouched event there step operation

end LastOperation

section Must
variable {allowed : Event → Prop} {cfg : BootstrapConfig} {hosts currMasters : List HostConfig}
  {trace : List Event}

theorem ask_returns :
    Traces allowed (ask request) trace (.done answer) ↔ trace = [⟨request, answer⟩] ∧
      allowed ⟨request, answer⟩ := by
  constructor
  · intro runs
    obtain ⟨given, _, rest, rfl, taken, ended⟩ := runs_call_done.mp runs
    obtain ⟨rfl, same, -⟩ := runs_done.mp ended
    cases same
    exact ⟨rfl, taken⟩
  · rintro ⟨rfl, taken⟩
    exact .call taken .refl

variable {deployer : Deployer} {nodeletCfg : NodeletConfig}

theorem perform_occurs {result : Except Go.Error Unit}
    (runs : Traces allowed (deployer.perform step).run trace (.done result)) :
    ∃ answer, ⟨.perform deployer step, answer⟩ ∈ trace := by
  obtain ⟨rfl, -⟩ := ask_returns.mp runs
  exact ⟨result, List.mem_cons_self⟩

theorem spawn_deploys {result : String × Option Go.Error}
    (runs : Traces allowed deployer.spawn trace (.done result)) :
    ∃ answer, ⟨.perform deployer .createPf9User, answer⟩ ∈ trace := by
  obtain ⟨_, _, _, _, rfl, deployed, -⟩ := runs_bind_done.mp runs
  obtain ⟨_, _, _, _, rfl, first⟩ := runs_bind_first deployed
  obtain ⟨_, performed⟩ := runs_mapError_done first
  obtain ⟨answer, member⟩ := perform_occurs performed
  exact ⟨answer, by simp [member]⟩

theorem Touches.quiet (touches : Touches (fun _ _ => False) event) : event.step? = none :=
  Option.eq_none_iff_forall_ne_some.mpr fun _ operation => touches _ _ operation

theorem schedule_quiet {remaining : Call Bool}
    (runs : Traces allowed (ask .schedule) trace remaining) : ∀ event ∈ trace, event.step? = none :=
  fun event member =>
    ((emits_ask (plainly Touches.of_reading) (by exact trivial)).mem runs event member).quiet

theorem getNodeletDeployer_returns
    (runs : Traces allowed (getNodeletDeployer nodeletCfg).run trace (.done (.ok deployer))) :
    deployer = ⟨nodeletCfg⟩ :=
  (emits_getNodeletDeployer (P := fun _ => True) fun _ _ _ => trivial).returned runs

theorem renderedDeployer_returns
    (runs : Traces allowed (renderedDeployer nodeletCfg).run trace (.done (.ok deployer))) :
    deployer = ⟨nodeletCfg⟩ :=
  (emits_renderedDeployer (P := fun _ => True) (fun _ _ _ => trivial) fun _ =>
    trivial).returned runs

theorem deployWorkers_deploys
    (runs : Traces allowed (deployWorkers cfg hosts).run trace (.done (.ok ()))) :
    ∀ host ∈ hosts, ∃ event ∈ trace, event.step? = some (host.nodeName, .createPf9User) := by
  induction hosts generalizing trace with
  | nil => exact nofun
  | cons host rest ih =>
    obtain ⟨rendered, deployer, _, later, rfl, connected, spawned⟩ := runs_bind_ok.mp runs
    cases renderedDeployer_returns connected
    obtain ⟨one, _, two, _, child, parent, merged, joined⟩ :=
      traces_parallel (fun _ _ => schedule_quiet) spawned
    obtain ⟨rfl, rfl⟩ := joined.ok () rfl
    refine List.forall_mem_cons.mpr ⟨?_, fun other member => ?_⟩
    · obtain ⟨_, _, _, _, rfl, runs, ended⟩ := runs_bind_done.mp child
      obtain ⟨answer, member⟩ := spawn_deploys runs
      exact ⟨_, List.mem_append_right _ (merged.mem_left (List.mem_append_left _ member)), rfl⟩
    · obtain ⟨event, there, operation⟩ := ih parent other member
      exact ⟨event, by simp [merged.mem_right there], operation⟩

theorem deleteHost_deletes
    (runs : Traces allowed (deleteHost cfg host).run trace (.done (.ok ()))) :
    ∃ event ∈ trace, event.step? = some (host.nodeName, .deleteNodelet) := by
  obtain ⟨first, deployer, _, second, rfl, connected, deleted⟩ := runs_bind_ok.mp runs
  cases getNodeletDeployer_returns (runs_mapError_ok.mp connected)
  obtain ⟨answer, member⟩ := perform_occurs (runs_mapError_ok.mp deleted)
  exact ⟨_, List.mem_append_right _ member, rfl⟩

theorem deleteWorkers_deletes
    (runs : Traces allowed (deleteWorkers cfg hosts).run trace (.done (.ok ()))) :
    ∀ host ∈ hosts, ∃ event ∈ trace, event.step? = some (host.nodeName, .deleteNodelet) := by
  induction hosts generalizing trace with
  | nil => exact nofun
  | cons host rest ih =>
    obtain ⟨first, _, _, second, rfl, head, tail⟩ := runs_bind_ok.mp runs
    refine List.forall_mem_cons.mpr ⟨?_, fun other member => ?_⟩
    · obtain ⟨event, there, operation⟩ := deleteHost_deletes head
      exact ⟨event, List.mem_append_left _ there, operation⟩
    · obtain ⟨event, there, operation⟩ := ih tail other member
      exact ⟨event, List.mem_append_right _ there, operation⟩

theorem removeMasters_deletes
    (runs : Traces allowed (removeMasters cfg currMasters hosts).run trace (.done (.ok ()))) :
    ∀ host ∈ hosts, ∃ event ∈ trace, event.step? = some (host.nodeName, .deleteNodelet) := by
  induction hosts generalizing trace currMasters with
  | nil => exact nofun
  | cons host rest ih =>
    obtain ⟨_, _, _, _, rfl, _, removed⟩ := runs_bind_ok.mp runs
    obtain ⟨_, _, _, _, rfl, head, deleted⟩ := runs_bind_ok.mp removed
    obtain ⟨_, _, _, _, rfl, _, tail⟩ := runs_bind_ok.mp deleted
    refine List.forall_mem_cons.mpr ⟨?_, fun other member => ?_⟩
    · obtain ⟨event, there, operation⟩ := deleteHost_deletes head
      exact ⟨event, by simp [there], operation⟩
    · obtain ⟨event, there, operation⟩ := ih tail other member
      exact ⟨event, by simp [there], operation⟩

end Must

section Plan
variable {cfg : BootstrapConfig} {masters workers : List String} {trace : List Event}

theorem planScale_of {plan : Diff × Diff}
    (runs : Traces (Reports masters workers) (planScale cfg).run trace (.done (.ok plan))) :
    plan.1.Of cfg.masters masters ∧ plan.2.Of cfg.workers workers := by
  obtain ⟨_, _, _, _, rfl, _, asked⟩ := runs_bind_ok.mp runs
  obtain ⟨_, activeMasters, _, _, rfl, gotMasters, asked⟩ := runs_bind_ok.mp asked
  obtain ⟨_, activeWorkers, _, _, rfl, gotWorkers, asked⟩ := runs_bind_ok.mp asked
  obtain ⟨_, diffMasters, _, _, rfl, compared, asked⟩ := runs_bind_ok.mp asked
  obtain ⟨_, diffWorkers, _, _, rfl, comparedWorkers, ended⟩ := runs_bind_ok.mp asked
  obtain ⟨-, rfl⟩ := ask_returns.mp (runs_mapError_ok.mp gotMasters)
  obtain ⟨-, rfl⟩ := ask_returns.mp (runs_mapError_ok.mp gotWorkers)
  obtain ⟨-, same, -⟩ := runs_done.mp ended
  cases same
  exact ⟨((Go.Remote.Emits.lift (emits_getDiffNodes (P := fun _ => True) fun _ _ _ =>
    trivial)).returned compared).1,
    ((Go.Remote.Emits.lift (emits_getDiffNodes (P := fun _ => True) fun _ _ _ => trivial)).returned
      comparedWorkers).1⟩

end Plan

section Parts
variable {first second : List Event} {P Q : String → Step → Prop} {nodeNames : List String}

/-- A part of a trace whose operations are as `P` says, and wipe nothing. -/
structure Part (P : String → Step → Prop) (trace : List Event) : Prop where
  touches : ∀ event ∈ trace, Touches P event
  neverWiped : NeverWiped trace

theorem Part.of_uniform (touches : ∀ event ∈ first, Touches P event)
    (uniform : ∀ nodeName step, P nodeName step → step ≠ .deleteNodelet →
      ¬ P nodeName .deleteNodelet) : Part P first := by
  refine ⟨touches, List.Pairwise.imp_of_mem ?_ (List.pairwise_of_forall fun _ _ => trivial)⟩
  intro earlier later memberEarlier memberLater _ nodeName step deployed deploys deleted
  exact uniform nodeName step (touches earlier memberEarlier nodeName step deployed) deploys
    (touches later memberLater nodeName .deleteNodelet deleted)

theorem Part.append (one : Part P first) (two : Part Q second)
    (disjoint : ∀ nodeName step, P nodeName step → step ≠ .deleteNodelet →
      ¬ Q nodeName .deleteNodelet) :
    Part (fun nodeName step => P nodeName step ∨ Q nodeName step) (first ++ second) := by
  refine ⟨fun event member => ?_, List.pairwise_append.mpr ⟨one.neverWiped, two.neverWiped, ?_⟩⟩
  · obtain early | late := List.mem_append.mp member
    · exact (one.touches event early).weaken fun _ _ => .inl
    · exact (two.touches event late).weaken fun _ _ => .inr
  · intro earlier memberEarlier later memberLater nodeName step deployed deploys deleted
    exact disjoint nodeName step (one.touches earlier memberEarlier nodeName step deployed) deploys
      (two.touches later memberLater nodeName .deleteNodelet deleted)

theorem part_of_deletes (deletes : ∀ event ∈ first, Touches (Deletes nodeNames) event) :
    Part (Deletes nodeNames) first :=
  .of_uniform deletes fun _ _ deleting deploying => absurd deleting.2 deploying

theorem part_of_deploys (deploys : ∀ event ∈ first, Touches (Deploys nodeNames) event) :
    Part (Deploys nodeNames) first :=
  .of_uniform deploys fun _ _ _ _ deleting => absurd deleting.2 (by decide)

end Parts

/-- What happens in the phases of a scaling. A run that has not ended may lack some of them. -/
structure Phases (masters workers : Diff) where
  added : List Event := []
  removed : List Event := []
  deployed : List Event := []
  waited : List Event := []
  deleted : List Event := []
  adds : ∀ event ∈ added, Touches (Deploys (names masters.new)) event
  removes : ∀ event ∈ removed, Touches (Deletes (names masters.old)) event
  deploys : ∀ event ∈ deployed, Touches (Deploys (names workers.new)) event
  waits : ∀ event ∈ waited, Touches (fun _ _ => False) event
  deletes : ∀ event ∈ deleted, Touches (Deletes (names workers.old)) event

namespace Phases
variable {masters workers : Diff}

def trace (phases : Phases masters workers) : List Event :=
  phases.added ++ (phases.removed ++ (phases.deployed ++ (phases.waited ++ phases.deleted)))

/-- Every phase has come to its end. -/
structure Complete (phases : Phases masters workers) : Prop where
  removed : ∀ host ∈ masters.old, ∃ event ∈ phases.removed, event.step? = some (host.nodeName, .deleteNodelet)
  deployed : ∀ host ∈ workers.new, ∃ event ∈ phases.deployed, event.step? = some (host.nodeName, .createPf9User)
  deleted : ∀ host ∈ workers.old, ∃ event ∈ phases.deleted, event.step? = some (host.nodeName, .deleteNodelet)

end Phases

section Scale
variable {allowed : Event → Prop} {cfg : BootstrapConfig} {masters workers : Diff}
  {trace : List Event}

theorem mem_names (member : host ∈ hosts) : host.nodeName ∈ names hosts :=
  List.mem_map_of_mem member

theorem addMasters_touches {remaining : Call (Except Go.Error (List HostConfig))}
    (runs : Traces allowed (addMasters cfg masters.curr masters.new).run trace remaining) :
    ∀ event ∈ trace, Touches (Deploys (names masters.new)) event :=
  (emits_addMasters (plainly Touches.of_reading) (connecting Touches.of_reading) (fun _ _ _ =>
    Touches.of_join)
    (fun _ _ _ _ => rendering Touches.of_reading) fun _ member _ step _ =>
      performs_of ⟨mem_names member, step⟩ _ rfl).mem runs

variable {remaining : Call (Except Go.Error Unit)}

theorem removeMasters_touches {currMasters : List HostConfig}
    (runs : Traces allowed (removeMasters cfg currMasters masters.old).run trace remaining) :
    ∀ event ∈ trace, Touches (Deletes (names masters.old)) event :=
  (emits_removeMasters (plainly Touches.of_reading) (connecting Touches.of_reading)
    (fun _ _ _ _ _ => Touches.of_leave) fun _ member => performs_of ⟨mem_names member, rfl⟩).mem
      runs

theorem deployWorkers_touches
    (runs : Traces allowed (deployWorkers cfg workers.new).run trace remaining) :
    ∀ event ∈ trace, Touches (Deploys (names workers.new)) event :=
  (emits_deployWorkers (plainly Touches.of_reading) (fun _ _ => rendering Touches.of_reading) fun _
    member _ step =>
    performs_of ⟨mem_names member, step⟩ _ rfl).mem runs

theorem deleteWorkers_touches
    (runs : Traces allowed (deleteWorkers cfg workers.old).run trace remaining) :
    ∀ event ∈ trace, Touches (Deletes (names workers.old)) event :=
  (emits_deleteWorkers (plainly Touches.of_reading) fun _ member =>
    performs_of ⟨mem_names member, rfl⟩).mem runs

/-- Every run goes through the phases in their order. -/
theorem scaleNodes_phases
    (runs : Traces allowed (scaleNodes cfg masters workers).run trace remaining) :
    ∃ phases : Phases masters workers, trace = phases.trace := by
  obtain ⟨_, adding⟩ | ⟨added, _, _, _, rfl, adding, runs⟩ := runs_bind_cases runs
  · obtain ⟨_, adding⟩ := runs_mapError_cases adding
    exact ⟨⟨trace, [], [], [], [], addMasters_touches adding, List.forall_mem_nil _,
      List.forall_mem_nil _, List.forall_mem_nil _, List.forall_mem_nil _⟩, by simp [Phases.trace]⟩
  have adds := addMasters_touches (runs_mapError_ok.mp adding)
  obtain ⟨_, removing⟩ | ⟨removed, _, _, _, rfl, removing, runs⟩ := runs_bind_cases runs
  · obtain ⟨_, removing⟩ := runs_mapError_cases removing
    exact ⟨⟨added, _, [], [], [], adds, removeMasters_touches removing, List.forall_mem_nil _,
      List.forall_mem_nil _, List.forall_mem_nil _⟩, by simp [Phases.trace]⟩
  have removes := removeMasters_touches (runs_mapError_ok.mp removing)
  obtain ⟨_, deploying⟩ | ⟨deployed, _, _, _, rfl, deploying, runs⟩ := runs_bind_cases runs
  · obtain ⟨_, deploying⟩ := runs_mapError_cases deploying
    exact ⟨⟨added, removed, _, [], [], adds, removes, deployWorkers_touches deploying,
      List.forall_mem_nil _, List.forall_mem_nil _⟩, by simp [Phases.trace]⟩
  have deploys := deployWorkers_touches (runs_mapError_ok.mp deploying)
  obtain ⟨_, waiting⟩ | ⟨waited, _, _, deleted, rfl, waiting, runs⟩ := runs_bind_cases runs
  · exact ⟨⟨added, removed, deployed, _, [], adds, removes, deploys,
      (emits_syncNodes (plainly Touches.of_reading)).mem waiting,
      List.forall_mem_nil _⟩, by simp [Phases.trace]⟩
  obtain ⟨_, deleting⟩ := runs_mapError_cases runs
  exact ⟨⟨added, removed, deployed, waited, deleted, adds, removes, deploys,
    (emits_syncNodes (plainly Touches.of_reading)).mem waiting,
    deleteWorkers_touches deleting⟩, rfl⟩

/-- A run that returns without an error has gone through all of them. -/
theorem scaleNodes_complete
    (runs : Traces allowed (scaleNodes cfg masters workers).run trace (.done (.ok ()))) :
    ∃ phases : Phases masters workers, trace = phases.trace ∧ phases.Complete := by
  obtain ⟨added, _, _, _, rfl, adding, runs⟩ := runs_bind_ok.mp runs
  obtain ⟨removed, _, _, _, rfl, removing, runs⟩ := runs_bind_ok.mp runs
  obtain ⟨deployed, _, _, _, rfl, deploying, runs⟩ := runs_bind_ok.mp runs
  obtain ⟨waited, _, _, deleted, rfl, waiting, runs⟩ := runs_bind_ok.mp runs
  have removing := runs_mapError_ok.mp removing
  have deploying := runs_mapError_ok.mp deploying
  have deleting := runs_mapError_ok.mp runs
  refine ⟨⟨added, removed, deployed, waited, deleted,
    addMasters_touches (runs_mapError_ok.mp adding),
    removeMasters_touches removing, deployWorkers_touches deploying,
      (emits_syncNodes (plainly Touches.of_reading)).mem waiting,
    deleteWorkers_touches deleting⟩, rfl, ?_⟩
  exact ⟨removeMasters_deletes removing, deployWorkers_deploys deploying,
    deleteWorkers_deletes deleting⟩

end Scale

end Nodeletctl
