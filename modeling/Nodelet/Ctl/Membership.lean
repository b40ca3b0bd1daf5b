import Nodelet.Ctl.Deletion
import Mathlib.Data.List.Induction

/-! The masters that the etcd of a new master is started with, and the members that etcd has
at that moment. The list is built from the masters that stay, while those that are to be
removed are still members. -/
namespace Nodeletctl
open Go.Resumption (Traces runs_done runs_bind_ok)
open Go.Remote (Can runs_bind_cases runs_mapError_ok runs_mapError_cases Sends)

/-- The members of etcd after an event, by their names. -/
def changeMembers (members : List String) : Event → List String
  | ⟨.memberAdd hostId _, .ok ()⟩ => members ++ [hostId]
  | ⟨.memberRemove left, .ok ()⟩ => members.filter (· ≠ left.name)
  | _ => members

def membership (members : List String) (trace : List Event) : List String :=
    trace.foldl changeMembers members

/-- The configuration of the master whose deployment starts with this event. -/
def Event.spawns? : Event → Option NodeletConfig
  | ⟨.perform deployer .createPf9User, _⟩ =>
    if deployer.nodeletCfg.nodeletRole = some .master then some deployer.nodeletCfg else none
  | _ => none

def SameNames (masterList : List (String × String)) (members : List String) : Prop :=
  ∀ nodeName, nodeName ∈ masterList.map Prod.fst ↔ nodeName ∈ members

/-- The lists of masters that masters are spawned with, next to the members that etcd has then. -/
def spawns : List String → List Event → List (List (String × String) × List String)
  | _, [] => []
  | members, event :: rest =>
    (event.spawns?.map fun nodeletCfg => (nodeletCfg.masterList, members)).toList ++
      spawns (changeMembers members event) rest

/-- Every master is spawned with a list of masters that names the members. -/
def SpawnsWithMembers (members : List String) (trace : List Event) : Prop :=
  ∀ spawned ∈ spawns members trace, SameNames spawned.1 spawned.2

section Spawns
variable {members : List String} {trace first second : List Event} {event : Event}

/-- The event changes no membership. -/
def Steady (event : Event) : Prop := ∀ members, changeMembers members event = members

theorem membership_append :
    membership members (first ++ second) = membership (membership members first) second :=
  List.foldl_append

theorem membership_steady (steady : ∀ event ∈ trace, Steady event) :
    membership members trace = members := by
  induction trace generalizing members with
  | nil => rfl
  | cons event rest ih =>
    obtain ⟨head, tail⟩ := List.forall_mem_cons.mp steady
    rw [membership, List.foldl_cons, head]
    exact ih tail

@[simp] theorem spawnsWithMembers_nil : SpawnsWithMembers members [] := List.forall_mem_nil _

@[simp] theorem spawnsWithMembers_cons :
    SpawnsWithMembers members (event :: trace) ↔
      (∀ nodeletCfg, event.spawns? = some nodeletCfg → SameNames nodeletCfg.masterList members) ∧
        SpawnsWithMembers (changeMembers members event) trace := by
  simp only [SpawnsWithMembers, spawns, List.forall_mem_append]
  simp

theorem spawnsWithMembers_append :
    SpawnsWithMembers members (first ++ second) ↔
      SpawnsWithMembers members first ∧ SpawnsWithMembers (membership members first) second := by
  induction first generalizing members with
  | nil => simp [membership]
  | cons event rest ih =>
    simp only [List.cons_append, spawnsWithMembers_cons, ih, membership, List.foldl_cons, and_assoc]

theorem spawnsWithMembers_of_none (none : ∀ event ∈ trace, event.spawns? = none) :
    SpawnsWithMembers members trace := by
  induction trace generalizing members with
  | nil => exact spawnsWithMembers_nil
  | cons event rest ih =>
    obtain ⟨head, tail⟩ := List.forall_mem_cons.mp none
    exact spawnsWithMembers_cons.mpr ⟨fun _ spawns => absurd spawns (by simp [head]), ih tail⟩

theorem spawnsWithMembers_steady (steady : ∀ event ∈ trace, Steady event) :
    SpawnsWithMembers members trace ↔
      ∀ event ∈ trace, ∀ nodeletCfg, event.spawns? = some nodeletCfg →
      SameNames nodeletCfg.masterList members := by
  induction trace with
  | nil => simp
  | cons event rest ih =>
    obtain ⟨head, tail⟩ := List.forall_mem_cons.mp steady
    rw [spawnsWithMembers_cons, head, ih tail, List.forall_mem_cons]

/-- The event changes no membership and spawns no master. -/
def Idle (event : Event) : Prop := Steady event ∧ event.spawns? = none

theorem idle_of_reading (request : Request) (answer : request.Answer)
    (reading : ¬ request.Changes) : Idle ⟨request, answer⟩ := by
  cases request <;> first | exact absurd trivial reading | exact ⟨fun _ => rfl, rfl⟩

theorem idle_renderedDeployer {nodeletCfg : NodeletConfig} :
    Go.Remote.Emits Idle (· = ⟨nodeletCfg⟩) (renderedDeployer nodeletCfg) :=
  emits_renderedDeployer (plainly idle_of_reading) (rendering idle_of_reading)

theorem spawns_none_of_reading (request : Request) (answer : request.Answer)
    (reading : ¬ request.Changes) : Event.spawns? ⟨request, answer⟩ = none :=
  (idle_of_reading request answer reading).2

theorem spawns_none_of_quiet (quiet : Touches (fun _ _ => False) event) : event.spawns? = none := by
  obtain ⟨request, answer⟩ := event
  cases request <;> first | rfl | exact (quiet _ _ rfl).elim

theorem spawnsWithMembers_idle (idle : ∀ event ∈ trace, Idle event) :
    SpawnsWithMembers members trace :=
  spawnsWithMembers_of_none fun event member => (idle event member).2

theorem spawnsWithMembers_after (idle : ∀ event ∈ first, Idle event) :
    SpawnsWithMembers members (first ++ second) ↔ SpawnsWithMembers members second := by
  rw [spawnsWithMembers_append, membership_steady fun event member => (idle event member).1]
  exact and_iff_right (spawnsWithMembers_idle idle)

end Spawns

section AddMasters
variable {allowed : Event → Prop} {cfg : BootstrapConfig} {members : List String}
  {trace : List Event}
  {masterList : List (String × String)} {hosts currMasters newMasters : List HostConfig}

theorem mem_storeMaster {nodeName hostIp other : String} :
    other ∈ (storeMaster masterList nodeName hostIp).map Prod.fst ↔
      other ∈ masterList.map Prod.fst ∨ other = nodeName := by
  by_cases same : other = nodeName <;> simp [storeMaster, same]

theorem mem_masterListOf {nodeName : String} :
    nodeName ∈ (masterListOf hosts).map Prod.fst ↔ nodeName ∈ names hosts := by
  induction hosts using List.reverseRecOn with
  | nil => rfl
  | append_singleton earlier host ih =>
    rw [masterListOf, List.foldl_append]
    simp only [List.foldl_cons, List.foldl_nil, mem_storeMaster]
    rw [← masterListOf, ih]
    simp [names]

theorem addNodeToEtcd_membership {hostId hostIp : String}
    (runs : Traces allowed (addNodeToEtcd cfg currMasters hostId hostIp).run trace
      (.done (.ok ()))) : membership members trace = members ++ [hostId] := by
  obtain ⟨first, _, _, second, rfl, connecting, adding⟩ := runs_bind_ok.mp runs
  have idle :=
    (emits_initEtcdClient fun _ _ => idle_of_reading _ _ id).mem (runs_mapError_ok.mp connecting)
  obtain ⟨rfl, -⟩ := ask_returns.mp (runs_mapError_ok.mp adding)
  rw [membership_append, membership_steady fun event member => (idle event member).1]
  rfl

section Spawn
variable {deployer : Deployer} {remaining : Call (Except Go.Error (String × Option Go.Error))}
  (runs : Traces allowed (ExceptT.lift deployer.spawnMaster : Remote _).run trace remaining)
include runs

theorem spawn_steady : ∀ event ∈ trace, Steady event := by
  refine (Go.Remote.Emits.lift
    (emits_spawn (plainly fun request answer reading => ?_) fun _ _ _ _ => rfl)).mem runs
  exact (idle_of_reading request answer reading).1

theorem spawn_spawns :
    ∀ event ∈ trace, ∀ nodeletCfg, event.spawns? = some nodeletCfg →
      nodeletCfg = deployer.nodeletCfg := by
  refine (Go.Remote.Emits.lift
    (emits_spawn (plainly fun request answer reading => ?_) fun step _ answer => ?_)).mem runs
  · simp [spawns_none_of_reading request answer reading]
  · intro nodeletCfg spawns
    cases step <;> simp_all [Event.spawns?]

theorem spawn_spawnsWithMembers (same : SameNames deployer.nodeletCfg.masterList members) :
    SpawnsWithMembers members trace := by
  refine (spawnsWithMembers_steady (spawn_steady runs)).mpr fun event member nodeletCfg spawns => ?_
  rwa [spawn_spawns runs event member nodeletCfg spawns]

end Spawn

theorem SameNames.store (same : SameNames masterList members) (nodeName hostIp : String) :
    SameNames (storeMaster masterList nodeName hostIp) (members ++ [nodeName]) := by
  intro other
  rw [mem_storeMaster, same other, List.mem_append, List.mem_singleton]

/-- As long as the list names the members, every master is spawned with them. -/
theorem addMastersFrom_spawns {remaining : Call (Except Go.Error (List HostConfig))}
    (same : SameNames masterList members)
    (runs : Traces allowed (addMastersFrom cfg newMasters masterList currMasters hosts).run trace
      remaining) : SpawnsWithMembers members trace := by
  induction hosts generalizing masterList currMasters members trace with
  | nil =>
    obtain ⟨rfl, -⟩ := runs_done.mp runs
    exact spawnsWithMembers_nil
  | cons host rest ih =>
    have stored := same.store host.nodeName host.hostIp
    obtain ⟨_, rendering⟩ | ⟨_, deployer, _, _, rfl, rendering, runs⟩ := runs_bind_cases runs
    · exact spawnsWithMembers_idle (idle_renderedDeployer.mem rendering)
    rw [spawnsWithMembers_after (idle_renderedDeployer.mem rendering)]
    cases renderedDeployer_returns rendering
    have adds (message : String) : Sends (Event.spawns? · = none)
        (annotate message (addNodeToEtcd cfg currMasters host.nodeName host.hostIp)) :=
      .mapError (emits_addNodeToEtcd (fun _ _ => rfl) fun _ => rfl)
    obtain ⟨_, adding⟩ | ⟨_, _, _, _, rfl, adding, runs⟩ := runs_bind_cases runs
    · exact spawnsWithMembers_of_none ((adds _).mem adding)
    rw [spawnsWithMembers_append, addNodeToEtcd_membership (runs_mapError_ok.mp adding)]
    refine ⟨spawnsWithMembers_of_none ((adds _).mem adding), ?_⟩
    obtain ⟨_, spawning⟩ | ⟨_, _, _, _, rfl, spawning, runs⟩ := runs_bind_cases runs
    · exact spawn_spawnsWithMembers spawning stored
    rw [spawnsWithMembers_append, membership_steady (spawn_steady spawning)]
    refine ⟨spawn_spawnsWithMembers spawning stored, ?_⟩
    have waits (change : Go.Error → Go.Error) :
        Sends Idle (mapError change (syncNodes cfg [host])) :=
      .mapError (emits_syncNodes (plainly idle_of_reading))
    obtain ⟨_, waiting⟩ | ⟨_, _, _, _, rfl, waiting, runs⟩ := runs_bind_cases runs
    · exact spawnsWithMembers_idle ((waits _).mem waiting)
    rw [spawnsWithMembers_after ((waits _).mem waiting)]
    exact ih stored runs

end AddMasters

section Scaling
variable {allowed : Event → Prop} {cfg : BootstrapConfig} {masters workers members : List String}
  {trace : List Event} {diffMasters diffWorkers : Diff}

theorem scaleNodes_spawns {remaining : Call (Except Go.Error Unit)}
    (adds : ∀ trace remaining,
      Traces allowed (addMasters cfg diffMasters.curr diffMasters.new).run trace remaining →
        SpawnsWithMembers members trace)
    (runs : Traces allowed (scaleNodes cfg diffMasters diffWorkers).run trace remaining) :
    SpawnsWithMembers members trace := by
  obtain ⟨_, adding⟩ | ⟨_, currMasters, _, _, rfl, adding, runs⟩ := runs_bind_cases runs
  · obtain ⟨_, adding⟩ := runs_mapError_cases adding
    exact adds _ _ adding
  refine spawnsWithMembers_append.mpr
    ⟨adds _ _ (runs_mapError_ok.mp adding), spawnsWithMembers_of_none ?_⟩
  have reading : ∀ request answer, request.Plain → Event.spawns? ⟨request, answer⟩ = none :=
    plainly (P := (Event.spawns? · = none)) spawns_none_of_reading
  have deletes (nodeName : String) : Performs (Event.spawns? · = none) nodeName .deleteNodelet :=
    fun _ _ _ => rfl
  refine (show Sends (Event.spawns? · = none) _ from ?_).mem runs
  refine .bind (.mapError (emits_removeMasters reading (fun _ _ => rfl) (fun _ _ _ _ _ => rfl) fun _ _ => deletes _))
    fun _ _ => ?_
  refine .bind (.mapError (emits_deployWorkers reading (fun _ _ _ => rfl) fun _ _ step _ _ => ?_))
    fun _ _ => ?_
  · cases step <;> rfl
  exact .bind (emits_syncNodes reading) fun _ _ =>
    .mapError (emits_deleteWorkers reading fun _ _ => deletes _)

/-- Where a master is new and one is to be removed, the first new master is spawned with a list that
lacks a member. -/
theorem scaleNodes_misleads (of : diffMasters.Of cfg.masters masters) (new : diffMasters.new ≠ [])
    (old : diffMasters.old ≠ [])
    (runs : Traces allowed (scaleNodes cfg diffMasters diffWorkers).run trace (.done (.ok ()))) :
    ¬ SpawnsWithMembers masters trace := by
  obtain ⟨host, rest, cons⟩ := List.exists_cons_of_ne_nil new
  obtain ⟨leaver, leaves⟩ := List.exists_mem_of_ne_nil _ old
  obtain ⟨_, _, _, _, rfl, adding, -⟩ := runs_bind_ok.mp runs
  have adding := runs_mapError_ok.mp adding
  rw [addMasters, cons] at adding
  obtain ⟨_, deployer, _, _, rfl, rendering, later⟩ := runs_bind_ok.mp adding
  obtain ⟨_, _, _, _, rfl, joining, later⟩ := runs_bind_ok.mp later
  obtain ⟨_, _, _, _, rfl, spawning, -⟩ := runs_bind_ok.mp later
  cases renderedDeployer_returns rendering
  obtain ⟨_, -, spawned⟩ := Go.Remote.runs_lift.mp spawning
  obtain ⟨answer, member⟩ := spawn_deploys spawned
  intro spawns
  rw [spawnsWithMembers_append, spawnsWithMembers_after (idle_renderedDeployer.mem rendering),
    spawnsWithMembers_append, addNodeToEtcd_membership (runs_mapError_ok.mp joining),
    spawnsWithMembers_append, spawnsWithMembers_steady (spawn_steady spawning)] at spawns
  have same := spawns.1.2.1 _ member _ rfl
  obtain ⟨active, dropped⟩ := (of.old leaver.nodeName).mp (mem_names leaves)
  have listed := (same leaver.nodeName).mpr (List.mem_append_left _ active)
  rw [masterConfig, mem_storeMaster, mem_masterListOf] at listed
  obtain curr | first := listed
  · exact dropped ((of.curr _).mp curr).1
  · refine dropped ((of.new _).mp ?_).1
    rw [cons, first]
    exact List.mem_cons_self

/-- Every new master is spawned with the members of etcd exactly where no master is to be removed,
where none is new, or where none stays and no master can be added. -/
theorem spawned_with_members_iff :
    (∀ trace remaining, Traces (Reports masters workers) (scaleCluster cfg).run trace remaining →
      SpawnsWithMembers masters trace) ↔
    (∀ nodeName ∈ masters, nodeName ∈ names cfg.masters) ∨
    (∀ nodeName ∈ names cfg.masters, nodeName ∈ masters) ∨
      ∀ nodeName ∈ names cfg.masters, nodeName ∉ masters := by
  have idle {trace remaining}
      (runs : Traces (Reports masters workers) (planScale cfg).run trace remaining) :=
    (emits_planScale (plainly idle_of_reading)).mem runs
  constructor
  · intro spawns
    by_contra mixed
    push Not at mixed
    obtain ⟨⟨leaver, active, dropped⟩, ⟨joiner, desired, inactive⟩, kept⟩ := mixed
    obtain ⟨planned, plan, scaled, planning, scaling⟩ := exists_scaling kept
    obtain ⟨of, -⟩ := planScale_of planning
    have new : plan.1.new ≠ [] := by
      intro nothing
      simpa [nothing, names] using (of.new joiner).mpr ⟨desired, inactive⟩
    have old : plan.1.old ≠ [] := by
      intro nothing
      simpa [nothing, names] using (of.old leaver).mpr ⟨active, dropped⟩
    refine scaleNodes_misleads of new old scaling ((spawnsWithMembers_after (idle planning)).mp ?_)
    exact spawns _ _ (runs_bind_ok.mpr ⟨planned, plan, (), scaled, rfl, planning, scaling⟩)
  · intro condition trace remaining runs
    obtain ⟨_, planning⟩ | ⟨planned, plan, _, scaled, rfl, planning, scaling⟩ :=
      runs_bind_cases runs
    · exact spawnsWithMembers_idle (idle planning)
    rw [spawnsWithMembers_after (idle planning)]
    obtain ⟨of, -⟩ := planScale_of planning
    by_cases none : plan.1.new = []
    · refine scaleNodes_spawns (fun _ _ adding => ?_) scaling
      rw [none] at adding
      obtain ⟨rfl, -⟩ := runs_done.mp adding
      exact spawnsWithMembers_nil
    obtain kept | contained | unkept := condition
    · refine scaleNodes_spawns (fun _ _ adding => addMastersFrom_spawns (fun nodeName => ?_) adding) scaling
      rw [mem_masterListOf, of.curr]
      exact ⟨And.right, fun active => ⟨kept nodeName active, active⟩⟩
    · obtain ⟨host, member⟩ := List.exists_mem_of_ne_nil _ none
      obtain ⟨desired, inactive⟩ := (of.new host.nodeName).mp (mem_names member)
      exact absurd (contained _ desired) inactive
    · obtain ⟨quiet, -⟩ := scaleNodes_unconnected (curr_nil_of_unkept of unkept) none scaling
      exact spawnsWithMembers_of_none fun event member => spawns_none_of_quiet (quiet event member)

/-- Two new masters take the place of one: their etcd is not told about the old one, which is still
a member. -/
theorem replaced_master_missing :
    threeMasters.Accepted ∧ ∃ trace,
      Traces (Reports ["one", "four"] []) (scaleCluster threeMasters).run trace (.done (.ok ())) ∧
      (spawns ["one", "four"] trace).map (fun spawned => (spawned.1.map Prod.fst, spawned.2)) =
        [(["one", "two"], ["one", "four", "two"]), (["one", "two", "three"], ["one", "four", "two", "three"])] := by
  have driven :
    (Go.Resumption.drive (succeed ["one", "four"] []) (scaleCluster threeMasters).run ()).map
      (fun run => ((spawns ["one", "four"] run.1).map fun spawned => (spawned.1.map Prod.fst, spawned.2), run.2.1)) =
      some ([(["one", "two"], ["one", "four", "two"]),
        (["one", "two", "three"], ["one", "four", "two", "three"])], .ok ()) := by decide +kernel
  obtain ⟨trace, value, runs, seen⟩ := exists_traces_of_succeed driven
  obtain ⟨spawned, rfl⟩ := Prod.mk.inj seen
  exact ⟨rfl, trace, runs, spawned⟩

end Scaling
end Nodeletctl
