import Nodelet.Ctl.Operations

/-! Where the surroundings may let every remote operation succeed, the functions of the
tool can return. -/
namespace Nodeletctl
open Go.Resumption (Traces)
open Go.Remote (Can)

/-- The request may have any answer. -/
def Request.Free : Request → Prop
  | .getCurrentMasters | .getCurrentWorkers => False
  | .newEtcdClient _ endpoints => endpoints ≠ []
  | _ => True

def Lenient (allowed : Event → Prop) : Prop := ∀ event : Event, event.1.Free → allowed event

/-- The lists of active nodes, where they can be read; and there is no client for etcd without an
endpoint. -/
def Reports (masters workers : List String) : Event → Prop
  | ⟨.getCurrentMasters, .ok active⟩ => active = masters
  | ⟨.getCurrentWorkers, .ok active⟩ => active = workers
  | ⟨.newEtcdClient _ endpoints, answer⟩ => endpoints = [] → answer ≠ .ok ()
  | _ => True

theorem reports_lenient (masters workers : List String) : Lenient (Reports masters workers) := by
  rintro ⟨request, answer⟩ free
  cases request with
  | getCurrentMasters | getCurrentWorkers => exact free.elim
  | newEtcdClient rootCA endpoints => exact fun none => absurd none free
  | _ => trivial

/-- Surroundings in which every operation succeeds and every node is healthy at once. -/
def succeed (masters workers : List String) : Unit →
    (request : Request) → Option (request.Answer × Unit)
  | _, .certsExist _ => some (true, ())
  | _, .statUserImage _ => some (.ok true, ())
  | _, .getCurrentMasters => some (.ok masters, ())
  | _, .getCurrentWorkers => some (.ok workers, ())
  | _, .rangeNames nodeNames => some (⟨nodeNames, .refl _⟩, ())
  | _, .rangeHosts hosts => some (⟨hosts, .refl _⟩, ())
  | _, .refreshNodeletStatus _ => some (.ok nodeHealthy, ())
  | _, .memberList => some (.ok (masters.map fun name => ⟨0, name⟩), ())
  | _, .ticks => some ((1 : Nat), ())
  | _, .schedule => some (true, ())
  | _, .stuck => none
  | _, .setClusterNodeStatus .. => some ((), ())
  | _, .removeAll _ | _, .genCALocal _ | _, .trustCA _ | _, .genKubeconfig _ => some (.ok (), ())
  | _, .genNodeletConfigLocal _ | _, .getNodeletDeployer _ => some (.ok (), ())
  | _, .newEtcdClient _ endpoints => some (if endpoints = [] then .error "no endpoint"
    else .ok (), ())
  | _, .perform .. | _, .memberAdd .. | _, .memberRemove _ => some (.ok (), ())

variable {masters workers : List String} {deployer : Deployer} {nodeletCfg : NodeletConfig}
  {currMasters : List HostConfig}

theorem succeed_reports (s : Unit) (request : Request) (reply : request.Answer)
    (t : Unit) (answered : succeed masters workers s request = some (reply, t)) :
    Reports masters workers ⟨request, reply⟩ := by
  cases request with
  | newEtcdClient rootCA endpoints =>
    cases answered
    rintro rfl
    nofun
  | _ => cases answered <;> trivial

theorem exists_traces_of_succeed {program : Call α} {observe : List Event × α × Unit → β} {seen : β}
    (driven : (Go.Resumption.drive (succeed masters workers) program ()).map observe = some seen) :
    ∃ trace value, Traces (Reports masters workers) program trace (.done value) ∧
      observe (trace, value, ()) = seen := by
  obtain ⟨⟨trace, value, _⟩, driven, same⟩ := Option.map_eq_some_iff.mp driven
  exact ⟨trace, value, Go.Resumption.drive_runs succeed_reports driven, same⟩

/-- Three masters, and no workers. -/
def threeMasters : BootstrapConfig :=
  { initBootstrapConfig with
    allowWorkloadsOnMaster := true
    masterNodes := some [{ nodeName := "one" }, { nodeName := "two" }, { nodeName := "three" }] }

variable {allowed : Event → Prop} (lenient : Lenient allowed) {cfg : BootstrapConfig}
  {hosts : List HostConfig}
include lenient

theorem can_ask (request : Request) (answer : request.Answer) (free : request.Free) :
    Can allowed (ask request) answer :=
  .perform (lenient _ free)

theorem can_runSteps : Can allowed (deployer.runSteps steps).run (.ok ()) := by
  induction steps with
  | nil => exact .done
  | cons first rest ih =>
    exact .bindOk (.mapError (can_ask lenient (.perform deployer first.1) (.ok ()) trivial)) ih

theorem can_spawn : Can allowed deployer.spawn (nodeHealthy, none) := by
  have refreshed : Can allowed deployer.refreshNodeletStatus (nodeHealthy, none) :=
    .bind (can_ask lenient (.refreshNodeletStatus deployer) (.ok nodeHealthy) trivial) .done
  refine .bind (can_runSteps lenient) (.bind refreshed ?_)
  exact .bind (can_ask lenient (.setClusterNodeStatus _ _ _) () trivial) .done

theorem can_getNodeletDeployer :
    Can allowed (getNodeletDeployer nodeletCfg).run (.ok ⟨nodeletCfg⟩) :=
  .bindOk (can_ask lenient (.getNodeletDeployer nodeletCfg.hostIp) (.ok ()) trivial) .done

theorem can_renderedDeployer : Can allowed (renderedDeployer nodeletCfg).run (.ok ⟨nodeletCfg⟩) :=
  .bindOk (.mapError (can_ask lenient (.genNodeletConfigLocal nodeletCfg) (.ok ()) trivial))
    (.mapError (can_getNodeletDeployer lenient))

theorem can_fetchStatus (cfg : BootstrapConfig) {known : List HostConfig} (hosts : List HostConfig)
    (healthy : AllHealthy status known) :
    ∃ fetched, Can allowed (fetchStatus cfg hosts status).run (.ok fetched) ∧
      AllHealthy fetched (known ++ hosts) := by
  induction hosts generalizing status known with
  | nil => exact ⟨status, .done, by simpa using healthy⟩
  | cons host rest ih =>
    let deployer : Deployer := ⟨nodeletConfig cfg host⟩
    obtain ⟨fetched, can, all⟩ := ih (healthy.store host deployer)
    refine ⟨fetched, ?_, by simpa using all⟩
    refine .bindOk (.mapError (can_getNodeletDeployer lenient)) ?_
    exact .bindOk
      (.lift (can_ask lenient (.refreshNodeletStatus deployer) (.ok nodeHealthy) trivial)) can

theorem can_syncNodes : Can allowed (syncNodes cfg hosts).run (.ok ()) := by
  have unseen : AllHealthy (fun _ => none) [] := List.forall_mem_nil _
  obtain ⟨fetched, can, healthy⟩ := can_fetchStatus lenient cfg hosts unseen
  rw [List.nil_append] at healthy
  refine .bindOk (.mapError can)
    (.bindOk (.lift (can_ask lenient .ticks (1 : Nat) trivial)) (.lift ?_))
  rw [poll, syncAndRetry, refreshUnhealthy_healthy healthy]
  exact .done

theorem can_initEtcdClient (nonempty : hosts ≠ []) :
    Can allowed (initEtcdClient cfg hosts).run (.ok ()) :=
  can_ask lenient (.newEtcdClient ..) (.ok ()) (mt etcdEndpoints_eq_nil.mp nonempty)

theorem can_addMasters {newMasters currMasters : List HostConfig}
    {masterList : List (String × String)} (nonempty : currMasters ≠ []) :
    Can allowed (addMastersFrom cfg newMasters masterList currMasters hosts).run
      (.ok (currMasters ++ hosts)) := by
  induction hosts generalizing masterList currMasters with
  | nil =>
    rw [List.append_nil]
    exact .done
  | cons host rest ih =>
    have added : Can allowed (addNodeToEtcd cfg currMasters host.nodeName host.hostIp).run (.ok ()) :=
      .bindOk (.mapError (can_initEtcdClient lenient nonempty))
        (.mapError (can_ask lenient (.memberAdd _ _) (.ok ()) trivial))
    have joined : currMasters ++ [host] ≠ [] := by simp
    refine .bindOk (can_renderedDeployer lenient)
      (.bindOk (.mapError added) (.bindOk (.lift (can_spawn lenient)) ?_))
    have others : Can allowed
        (addMastersFrom cfg newMasters (storeMaster masterList host.nodeName host.hostIp) (currMasters ++ [host])
          rest).run (.ok (currMasters ++ host :: rest)) := by simpa using ih joined
    exact .bindOk (.mapError (can_syncNodes lenient)) others

theorem can_deleteHost : Can allowed (deleteHost cfg host).run (.ok ()) :=
  .bindOk (.mapError (can_getNodeletDeployer lenient))
    (.mapError (can_ask lenient (.perform _ .deleteNodelet) (.ok ()) trivial))

omit lenient in
theorem dropMaster_absent {nodeName : String}
    (absent : nodeName ∉ names currMasters) : dropMaster currMasters nodeName = currMasters := by
  have missing : currMasters.findIdx? (fun master => master.nodeName = nodeName) = none := by
    rw [List.findIdx?_eq_none_iff]
    intro master member
    simpa using fun same => absent (List.mem_map.mpr ⟨master, member, same⟩)
  rw [dropMaster, missing]

theorem can_removeMasters (nonempty : currMasters ≠ [])
    (absent : ∀ host ∈ hosts, host.nodeName ∉ names currMasters) :
    Can allowed (removeMasters cfg currMasters hosts).run (.ok ()) := by
  induction hosts with
  | nil => exact .done
  | cons host rest ih =>
    obtain ⟨head, tail⟩ := List.forall_mem_cons.mp absent
    have found : Can allowed (findEtcdMemberByIp host.hostIp) (some ⟨1, host.hostIp⟩) := by
      have self : [(⟨1, host.hostIp⟩ : Member)].find? (·.name = host.hostIp) = some ⟨1, host.hostIp⟩ := by simp
      exact .bind (can_ask lenient .memberList (.ok [⟨1, host.hostIp⟩]) trivial) (self ▸ .done)
    have removed : Can allowed (removeNodeFromEtcd cfg currMasters host.hostIp).run (.ok ()) :=
      .bindOk (.mapError (can_initEtcdClient lenient nonempty))
        (.bindOk (.lift found) (.mapError (can_ask lenient (.memberRemove _) (.ok ()) trivial)))
    have ignored : Can allowed (ignore (syncNodes cfg currMasters)).run (.ok ()) :=
      (can_syncNodes lenient).bind .done
    refine .bindOk (.mapError removed) (.bindOk (can_deleteHost lenient) ?_)
    rw [dropMaster_absent head]
    exact .bindOk ignored (ih tail)

theorem can_inParallel {body : Deployer → Call Unit}
    (can : ∀ deployer, Can allowed (body deployer) ()) :
    Can allowed (inParallel cfg body hosts).run (.ok ()) := by
  induction hosts with
  | nil => exact .done
  | cons host rest ih =>
    obtain ⟨_, scheduled⟩ := can_ask lenient .schedule true trivial
    obtain ⟨_, child⟩ := can ⟨workerConfig cfg host⟩
    obtain ⟨_, parent⟩ := ih
    exact .bindOk (can_renderedDeployer lenient)
      (Go.Resumption.traces_parallel_of scheduled child parent)

theorem can_deleteWorkers : Can allowed (deleteWorkers cfg hosts).run (.ok ()) := by
  induction hosts with
  | nil => exact .done
  | cons host rest ih => exact .bindOk (can_deleteHost lenient) ih

/-- Scaling can succeed where one of the masters stays. -/
theorem can_scaleNodes {masters workers : Diff} (kept : masters.curr ≠ [])
    (removed : ∀ host ∈ masters.old, host.nodeName ∉ names (masters.curr ++ masters.new)) :
    Can allowed (scaleNodes cfg masters workers).run (.ok ()) := by
  have nonempty : masters.curr ++ masters.new ≠ [] := by simp [kept]
  refine .bindOk (.mapError (can_addMasters lenient kept)) ?_
  refine .bindOk (.mapError (can_removeMasters lenient nonempty removed)) ?_
  refine .bindOk (.mapError (can_inParallel lenient fun _ => (can_spawn lenient).bind .done)) ?_
  exact .bindOk (can_syncNodes lenient) (.mapError (can_deleteWorkers lenient))

end Nodeletctl
