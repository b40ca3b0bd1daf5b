import Nodelet.Ctl.Operations
import Nodelet.Go.Completes

/-! The cluster that the tool works on: the members of etcd, the agents that run, and the nodes
that Kubernetes reports. Where no operation fails, deploying and waiting come to an end. -/
namespace Nodeletctl
open Go.Resumption (Completes)

/-- Each member of etcd stands next to the address of its peer. -/
structure Cluster where
  members : List (Member × String)
  running : String → Option Role
  masters : List String
  workers : List String

namespace Cluster

def memberNames (s : Cluster) : List String := s.members.map (·.1.name)

def nextId (s : Cluster) : Nat := (s.members.map (·.1.id)).foldr max 0 + 1

/-- What a request changes where it is carried out. Kubernetes reports a node from the time its
agent has been started. Nothing here deletes the node again. -/
def carryOut (s : Cluster) : Request → Cluster
  | .perform deployer .startNodelet =>
    let role := deployer.nodeletCfg.nodeletRole
    { s with
      running := Function.update s.running deployer.hostId role
      masters := if role = some .master then s.masters.insert deployer.hostId else s.masters
      workers := if role = some .worker then s.workers.insert deployer.hostId else s.workers }
  | .perform deployer .deleteNodelet =>
    { s with running := Function.update s.running deployer.hostId none }
  | .memberAdd hostId hostIp => { s with members := s.members ++ [(⟨s.nextId, hostId⟩, hostIp)] }
  | .memberRemove left => { s with members := s.members.filter (·.1 ≠ left) }
  | _ => s

/-- The answers where nothing fails. An agent that runs is healthy, a client needs an endpoint, and
a tick comes in the end. -/
def Grants (s : Cluster) : Event → Prop
  | ⟨.certsExist _, found⟩ => found = true
  | ⟨.getCurrentMasters, answer⟩ => answer = .ok s.masters
  | ⟨.getCurrentWorkers, answer⟩ => answer = .ok s.workers
  | ⟨.refreshNodeletStatus deployer, answer⟩ => answer = .ok nodeHealthy ↔
    (s.running deployer.hostId).isSome
  | ⟨.memberAdd _ hostIp, answer⟩ => answer = .ok () ∧ hostIp ∉ s.members.map Prod.snd
  | ⟨.memberList, answer⟩ => answer = .ok (s.members.map Prod.fst)
  | ⟨.genNodeletConfigLocal _, answer⟩ | ⟨.getNodeletDeployer _, answer⟩ | ⟨.perform .., answer⟩
  | ⟨.memberRemove _, answer⟩ => answer = .ok ()
  | ⟨.newEtcdClient _ endpoints, answer⟩ => answer = .ok () ↔ endpoints ≠ []
  | ⟨.ticks, ticks⟩ => (0 : Nat) < ticks
  | _ => True

/-- A peer is registered once. -/
def Refuses (s : Cluster) : Event → Prop
  | ⟨.memberAdd _ hostIp, .error _⟩ => hostIp ∈ s.members.map Prod.snd
  | _ => False

/-- One request, where no operation fails. -/
def Smooth (s : Cluster) (event : Event) (t : Cluster) : Prop :=
  s.Grants event ∧ t = s.carryOut event.1 ∨ s.Refuses event ∧ t = s

/-- Operations that have failed. -/
def Fails : Event → Prop
  | ⟨.certsExist _, found⟩ => found = false
  | ⟨.getCurrentMasters, answer⟩ | ⟨.getCurrentWorkers, answer⟩ => ∃ err, answer = .error err
  | ⟨.refreshNodeletStatus _, answer⟩ => ∃ err, answer = .error err
  | ⟨.memberList, answer⟩ => ∃ err, answer = .error err
  | ⟨.genNodeletConfigLocal _, answer⟩ | ⟨.getNodeletDeployer _, answer⟩ | ⟨.perform .., answer⟩
  | ⟨.newEtcdClient .., answer⟩ | ⟨.memberAdd .., answer⟩ | ⟨.memberRemove _, answer⟩ =>
    ∃ err, answer = .error err
  | _ => False

/-- One request, where any operation may fail: before it has been carried out, or after. -/
def Faulty (s : Cluster) (event : Event) (t : Cluster) : Prop :=
  s.Smooth event t ∨ Fails event ∧ (t = s ∨ t = s.carryOut event.1)

/-- The agent of this host runs. -/
def Alive (s : Cluster) (nodeName : String) : Prop := (s.running nodeName).isSome

/-- What may happen while agents are deployed: no member changes, and no agent stops. -/
structure Grows (s t : Cluster) : Prop where
  members : t.members = s.members
  alive : ∀ nodeName, s.Alive nodeName → t.Alive nodeName

instance : Std.Refl Grows := ⟨fun _ => ⟨rfl, fun _ => id⟩⟩

instance : IsTrans Cluster Grows where
  trans _ _ _ one two :=
    ⟨two.members.trans one.members, fun nodeName => two.alive nodeName ∘ one.alive nodeName⟩

theorem smooth_reading {s t : Cluster} (reading : ¬ request.Changes)
    (taken : s.Smooth ⟨request, answer⟩ t) : s.Grants ⟨request, answer⟩ ∧ t = s := by
  obtain ⟨granted, rfl⟩ | ⟨refused, -⟩ := taken
  · refine ⟨granted, ?_⟩
    cases request <;> first | exact absurd trivial reading | rfl
  · cases request <;> first | exact absurd trivial reading | exact refused.elim

variable {deployer : Deployer} {step : Step}

theorem smooth_perform {s t : Cluster} {answer : Except Go.Error Unit}
    (taken : s.Smooth ⟨.perform deployer step, answer⟩ t) :
    answer = .ok () ∧ t = s.carryOut (.perform deployer step) :=
  taken.resolve_right And.left

theorem alive_start {s : Cluster} (started : deployer.nodeletCfg.nodeletRole = some role) :
    (s.carryOut (.perform deployer .startNodelet)).Alive deployer.hostId := by
  simp [Alive, carryOut, started]

end Cluster

section Completes
variable {rely guar : Cluster → Cluster → Prop} {s : Cluster} {cfg : BootstrapConfig}
  {hosts : List HostConfig}

theorem completes_read [Std.Refl guar] {post : request.Answer → Cluster → Prop}
    (reading : ¬ request.Changes) (answered : ∀ t, rely s t → ∃ answer, t.Grants ⟨request, answer⟩)
    (holds : ∀ t answer u, rely s t → t.Grants ⟨request, answer⟩ → rely t u → post answer u) :
    Completes Cluster.Smooth rely guar post (ask request) s := by
  refine .perform (fun t move => ?_) (fun t answer u _ taken => ?_) fun t answer u v move taken
    later => ?_
  · obtain ⟨answer, granted⟩ := answered t move
    exact ⟨answer, _, .inl ⟨granted, rfl⟩⟩
  · obtain ⟨-, rfl⟩ := Cluster.smooth_reading reading taken
    exact refl u
  · obtain ⟨granted, rfl⟩ := Cluster.smooth_reading reading taken
    exact holds _ answer v move granted later

section Deploy
variable [Std.Refl rely] [Std.Refl guar] {nodeletCfg : NodeletConfig}

theorem completes_getNodeletDeployer :
    Go.Remote.Completes Cluster.Smooth rely guar (fun deployer _ => deployer = ⟨nodeletCfg⟩)
      (getNodeletDeployer nodeletCfg) s := by
  have connects : Go.Remote.Completes Cluster.Smooth rely guar (fun _ _ => True)
      (attempt (ask (.getNodeletDeployer nodeletCfg.hostIp))) s :=
    completes_read id (fun _ _ => ⟨.ok (), rfl⟩) fun _ _ _ _ granted _ => ⟨(), granted, trivial⟩
  exact connects.bind fun _ _ _ => .pure fun _ _ => rfl

theorem completes_renderedDeployer :
    Go.Remote.Completes Cluster.Smooth rely guar (fun deployer _ => deployer = ⟨nodeletCfg⟩)
      (renderedDeployer nodeletCfg) s := by
  have renders : Go.Remote.Completes Cluster.Smooth rely guar (fun _ _ => True)
      (attempt (ask (.genNodeletConfigLocal nodeletCfg))) s :=
    completes_read id (fun _ _ => ⟨.ok (), rfl⟩) fun _ _ _ _ granted _ => ⟨(), granted, trivial⟩
  exact renders.mapError.bind fun _ _ _ => completes_getNodeletDeployer.mapError

end Deploy

section Spawn
open Cluster (Grows)
variable {deployer : Deployer}

theorem grows_perform (role : deployer.nodeletCfg.nodeletRole = some .worker)
    (deploys : step ≠ .deleteNodelet) : Grows s (s.carryOut (.perform deployer step)) := by
  cases step with
  | deleteNodelet => exact absurd rfl deploys
  | startNodelet =>
    refine ⟨rfl, fun nodeName alive => ?_⟩
    by_cases same : nodeName = deployer.hostId
    · exact same ▸ Cluster.alive_start role
    · simpa [Cluster.Alive, Cluster.carryOut, Function.update_of_ne same] using alive
  | _ => exact refl s

theorem completes_perform (role : deployer.nodeletCfg.nodeletRole = some .worker)
    (deploys : step ≠ .deleteNodelet) :
    Go.Remote.Completes Cluster.Smooth Grows Grows (fun _ t => step = .startNodelet →
      t.Alive deployer.hostId) (deployer.perform step) s := by
  refine .perform (fun t _ => ⟨.ok (), _, .inl ⟨rfl, rfl⟩⟩) (fun t _ u _ taken =>
    ?_) fun t _ u v _ taken later => ?_
  · obtain ⟨-, rfl⟩ := Cluster.smooth_perform taken
    exact grows_perform role deploys
  · obtain ⟨rfl, rfl⟩ := Cluster.smooth_perform taken
    refine ⟨(), rfl, ?_⟩
    rintro rfl
    exact later.alive _ (Cluster.alive_start role)

theorem alive_of_grows {nodeName : String} (s t : Cluster) (grows : Grows s t)
    (alive : s.Alive nodeName) : t.Alive nodeName :=
  grows.alive nodeName alive

theorem completes_runSteps (role : deployer.nodeletCfg.nodeletRole = some .worker)
    (deploys : ∀ step ∈ steps.map Prod.fst, step ≠ .deleteNodelet) :
    Go.Remote.Completes Cluster.Smooth Grows Grows
      (fun _ t => .startNodelet ∈ steps.map Prod.fst →
      t.Alive deployer.hostId) (deployer.runSteps steps) s := by
  induction steps generalizing s with
  | nil => exact .pure fun _ _ => nofun
  | cons first rest ih =>
    obtain ⟨head, tail⟩ := List.forall_mem_cons.mp deploys
    refine (completes_perform role head).mapError.bind fun _ t started => ?_
    have lasts (s t : Cluster) (grows : Grows s t) (alive : first.1 = .startNodelet →
      s.Alive deployer.hostId) :
        first.1 = .startNodelet → t.Alive deployer.hostId := fun same => grows.alive _ (alive same)
    refine ((ih tail).frame started lasts lasts).weaken (fun _ _ => id) (fun _ _ =>
      id) fun _ u both member => ?_
    exact (List.mem_cons.mp member).elim (fun same => both.2 same.symm) both.1

theorem exists_refresh (t : Cluster) :
    ∃ answer, t.Grants ⟨.refreshNodeletStatus deployer, answer⟩ := by
  by_cases alive : (t.running deployer.hostId).isSome
  · exact ⟨.ok nodeHealthy, by simp [Cluster.Grants, alive]⟩
  · exact ⟨.error "", by simp [Cluster.Grants, alive]⟩

theorem completes_refresh :
    Completes Cluster.Smooth Grows Grows (fun _ _ => True) deployer.refreshNodeletStatus s := by
  refine .bind (completes_read id (fun t _ => exists_refresh t) fun _ _ _ _ _ _ =>
    trivial) fun answer _ _ => ?_
  cases answer <;> exact fun _ _ => trivial

theorem completes_spawn (role : deployer.nodeletCfg.nodeletRole = some .worker) :
    Completes Cluster.Smooth Grows Grows (fun _ t => t.Alive deployer.hostId) deployer.spawn s := by
  have deploys : ∀ step ∈ Deployer.deploySteps.map Prod.fst, step ≠ .deleteNodelet := by decide
  refine Completes.bind (completes_runSteps role deploys) fun result t held => ?_
  obtain ⟨_, rfl, started⟩ := held t (refl t)
  have alive := started (by decide)
  refine (completes_refresh.frame alive alive_of_grows alive_of_grows).bind fun status u
    refreshed => ?_
  have stores : Completes Cluster.Smooth Grows Grows (fun _ _ => True) (deployer.setStatus status.1 status.2) u :=
    completes_read id (fun _ _ => ⟨(), trivial⟩) fun _ _ _ _ _ _ => trivial
  refine (stores.frame (refreshed u (refl u)).2 alive_of_grows alive_of_grows).bind fun _ _ stored
    v later => ?_
  exact (stored v later).2

theorem completes_deployWorkers :
    Go.Remote.Completes Cluster.Smooth Grows Grows (fun _ t =>
      ∀ host ∈ hosts, t.Alive host.nodeName) (deployWorkers cfg hosts) s := by
  induction hosts generalizing s with
  | nil => exact .pure fun _ _ => nofun
  | cons host rest ih =>
    refine completes_renderedDeployer.bind ?_
    rintro _ t rfl
    have schedules (s : Cluster) : Completes Cluster.Smooth Grows Grows (fun _ _ => True) (ask .schedule) s :=
      completes_read id (fun _ _ => ⟨true, trivial⟩) fun _ _ _ _ _ _ => trivial
    have child : Completes Cluster.Smooth Grows Grows (fun _ t => t.Alive host.nodeName)
        (Deployer.spawnWorker ⟨workerConfig cfg host⟩) t :=
      (completes_spawn rfl).bind fun _ _ held => held
    refine (Completes.parallel schedules child ih alive_of_grows).weaken (fun _ _ =>
      id) (fun _ _ => id) ?_
    rintro _ u ⟨⟨value, rfl, others⟩, first⟩
    exact ⟨value, rfl, List.forall_mem_cons.mpr ⟨first value rfl, others⟩⟩

end Spawn
end Completes
end Nodeletctl
