import Nodelet.Ctl.State
import Nodelet.Ctl.Deletion

/-! Whether a scaling that was aborted can be taken up again. The plan is made from the nodes that
Kubernetes reports, and these do not show what has been done to etcd already. -/
namespace Nodeletctl
open Go.Resumption (Completes Runs)
open Go.Remote (Gets)

section Completes
variable {s : Cluster} {cfg : BootstrapConfig} {hosts known : List HostConfig}
    {status : ClusterStatus}

theorem completes_fetchStatus (alive : ∀ host ∈ hosts, s.Alive host.nodeName)
    (healthy : AllHealthy status known) :
    Go.Remote.Completes Cluster.Smooth Eq Eq (fun fetched _ => AllHealthy fetched (known ++ hosts))
      (fetchStatus cfg hosts status) s := by
  induction hosts generalizing status known with
  | nil => exact .pure fun _ _ => by simpa using healthy
  | cons host rest ih =>
    obtain ⟨head, tail⟩ := List.forall_mem_cons.mp alive
    refine completes_getNodeletDeployer.mapError.here.bind ?_
    rintro _ t ⟨rfl, rfl⟩
    let deployer : Deployer := ⟨nodeletConfig cfg host⟩
    have reads : Go.Remote.Completes Cluster.Smooth Eq Eq (fun answer _ => answer = .ok nodeHealthy)
        (ExceptT.lift (ask (.refreshNodeletStatus deployer)) : Remote _) t := by
      refine .lift (completes_read id (fun u _ => exists_refresh u) ?_)
      rintro _ answer _ rfl granted rfl
      exact granted.mpr head
    refine reads.here.bind ?_
    rintro _ t ⟨rfl, rfl⟩
    refine (ih tail (healthy.store host deployer)).weaken (fun _ _ => id) (fun _ _ => id) ?_
    exact fun _ _ all => by simpa using all

theorem completes_syncNodes (alive : ∀ host ∈ hosts, s.Alive host.nodeName) :
    Go.Remote.Completes Cluster.Smooth Eq Eq (fun _ _ => True) (syncNodes cfg hosts) s := by
  have unseen : AllHealthy (fun _ => none) [] := List.forall_mem_nil _
  refine (completes_fetchStatus alive unseen).mapError.bind fun fetched t healthy => ?_
  have ticking : Go.Remote.Completes Cluster.Smooth Eq Eq (fun ticks _ => (0 : Nat) < ticks)
      (ExceptT.lift (ask .ticks) : Remote Nat) t :=
    .lift (completes_read id (fun _ _ => ⟨(1 : Nat), Nat.one_pos⟩) fun _ _ _ _ granted _ => granted)
  refine ticking.bind fun ticks u positive => .lift ?_
  obtain ⟨more, rfl⟩ := Nat.exists_eq_succ_of_ne_zero (Nat.ne_of_gt positive)
  rw [List.nil_append] at healthy
  rw [poll, syncAndRetry, refreshUnhealthy_healthy healthy]
  exact fun _ _ => trivial

/-- Deleting agents leaves etcd alone. -/
def Cluster.SameMembers (s t : Cluster) : Prop := t.members = s.members

instance : Std.Refl Cluster.SameMembers := ⟨fun _ => rfl⟩

theorem completes_deleteWorkers :
    Go.Remote.Completes Cluster.Smooth Eq Cluster.SameMembers (fun _ _ =>
      True) (deleteWorkers cfg hosts) s := by
  induction hosts generalizing s with
  | nil => exact .pure fun _ _ => trivial
  | cons host rest ih =>
    have deletes (s : Cluster) (deployer : Deployer) :
      Go.Remote.Completes Cluster.Smooth Eq Cluster.SameMembers
        (fun _ _ => True) (deployer.perform .deleteNodelet) s := by
      refine .perform (fun _ _ => ⟨.ok (), _, .inl ⟨rfl, rfl⟩⟩) (fun t _ u _ taken => ?_) fun t _ u _ _ taken _ => ?_
      · obtain ⟨-, rfl⟩ := Cluster.smooth_perform taken
        rfl
      · exact ⟨(), (Cluster.smooth_perform taken).1, trivial⟩
    have deletesHost : Go.Remote.Completes Cluster.Smooth Eq Cluster.SameMembers (fun _ _ => True)
        (deleteHost cfg host) s :=
      completes_getNodeletDeployer.mapError.bind fun _ _ _ => (deletes _ _).mapError
    exact deletesHost.bind fun _ _ _ => ih

theorem completes_getDiffNodes {desired : List HostConfig} {active : List String} :
    Completes Cluster.Smooth Eq Eq (fun diff _ =>
      diff.Of desired active) (getDiffNodes desired active) s := by
  have visits : ∀ s, Completes Cluster.Smooth Eq Eq (fun _ _ => True) (ask (.rangeNames active.dedup)) s := fun _ =>
    completes_read id (fun _ _ => ⟨⟨_, .refl _⟩, trivial⟩) fun _ _ _ _ _ _ => trivial
  have visitsHosts : ∀ s, Completes Cluster.Smooth Eq Eq (fun _ _ => True) (ask (.rangeHosts (hostMap desired))) s :=
    fun _ => completes_read id (fun _ _ => ⟨⟨_, .refl _⟩, trivial⟩) fun _ _ _ _ _ _ => trivial
  refine (visits s).bind fun visitedActive t _ =>
    (visitsHosts t).bind fun visitedDesired _ _ _ _ => ?_
  exact diffNodes_of visitedActive.property visitedDesired.property

theorem completes_checkCerts :
    Go.Remote.Completes Cluster.Smooth Eq Eq (fun _ _ => True) (checkCerts cfg) s := by
  rw [checkCerts]
  split
  · have finds : Go.Remote.Completes Cluster.Smooth Eq Eq (fun found _ => found = true)
        (ExceptT.lift (ask (.certsExist cfg.clusterId)) : Remote Bool) s :=
      .lift (completes_read id (fun _ _ => ⟨true, rfl⟩) fun _ _ _ _ granted _ => granted)
    refine finds.bind ?_
    rintro _ t rfl
    exact .pure fun _ _ => trivial
  · exact .pure fun _ _ => trivial

theorem completes_planScale :
    Go.Remote.Completes Cluster.Smooth Eq Eq
      (fun plan _ => plan.1.Of cfg.masters s.masters ∧ plan.2.Of cfg.workers s.workers)
      (planScale cfg) s := by
  have reads : Go.Remote.Completes Cluster.Smooth Eq Eq (fun masters _ => masters = s.masters)
      (attempt (ask .getCurrentMasters)) s := by
    refine completes_read id (fun t _ => ⟨_, rfl⟩) ?_
    rintro _ _ _ rfl granted rfl
    exact ⟨_, granted, rfl⟩
  have readsWorkers :
    Go.Remote.Completes Cluster.Smooth Eq Eq (fun workers _ => workers = s.workers)
      (attempt (ask .getCurrentWorkers)) s := by
    refine completes_read id (fun t _ => ⟨_, rfl⟩) ?_
    rintro _ _ _ rfl granted rfl
    exact ⟨_, granted, rfl⟩
  refine completes_checkCerts.here.bind ?_
  rintro _ t ⟨-, rfl⟩
  refine reads.mapError.here.bind ?_
  rintro _ t ⟨rfl, rfl⟩
  refine readsWorkers.mapError.here.bind ?_
  rintro _ t ⟨rfl, rfl⟩
  refine Go.Remote.Completes.bind (.lift completes_getDiffNodes) fun masters u ofMasters => ?_
  refine Go.Remote.Completes.bind (.lift completes_getDiffNodes) fun workers v ofWorkers => ?_
  exact .pure fun _ _ => ⟨ofMasters, ofWorkers⟩

end Completes

namespace Cluster

/-- The members of etcd are the masters, and the nodes that are reported run in their roles. -/
structure Healthy (s : Cluster) : Prop where
  nodup : s.memberNames.Nodup
  members : ∀ nodeName, nodeName ∈ s.memberNames ↔ nodeName ∈ s.masters
  master : ∀ nodeName, s.running nodeName = some .master ↔ nodeName ∈ s.masters
  worker : ∀ nodeName, s.running nodeName = some .worker ↔ nodeName ∈ s.workers

/-- The states that are left by runs that have been aborted with an error. -/
inductive Left (cfg : BootstrapConfig) (s : Cluster) : Cluster → Prop where
  | start : Left cfg s s
  | aborted : Left cfg s t → Runs Faulty (scaleCluster cfg).run t trace (.done (.error err)) u →
    Left cfg s u

/-- Where no operation fails, scaling returns without an error, and the members of etcd are then the
masters of the configuration. -/
def Converges (cfg : BootstrapConfig) (s : Cluster) : Prop :=
  Go.Remote.Completes Smooth Eq (fun _ _ => True)
    (fun _ t => ∀ nodeName, nodeName ∈ t.memberNames ↔ nodeName ∈ names cfg.masters)
      (scaleCluster cfg) s

/-- The masters are as they should be, and all nodes that stay are alive. -/
structure Settled (cfg : BootstrapConfig) (s : Cluster) : Prop where
  members : ∀ nodeName, nodeName ∈ s.memberNames ↔ nodeName ∈ names cfg.masters
  masters : ∀ nodeName, nodeName ∈ s.masters ↔ nodeName ∈ names cfg.masters
  masterAlive : ∀ nodeName ∈ names cfg.masters, s.Alive nodeName
  workerAlive : ∀ nodeName ∈ s.workers, nodeName ∈ names cfg.workers → s.Alive nodeName
  desired : ∀ nodeName ∈ s.workers, nodeName ∈ names cfg.masters → nodeName ∈ names cfg.workers

section Settled
variable {cfg : BootstrapConfig} {s t : Cluster} {diff : Diff}

theorem Healthy.settled (healthy : s.Healthy)
    (same : ∀ nodeName, nodeName ∈ names cfg.masters ↔ nodeName ∈ s.masters) : s.Settled cfg where
  members nodeName := (healthy.members nodeName).trans (same nodeName).symm
  masters nodeName := (same nodeName).symm
  masterAlive nodeName desired := by
    simp [Alive, (healthy.master nodeName).mpr ((same nodeName).mp desired)]
  workerAlive nodeName active _ := by simp [Alive, (healthy.worker nodeName).mpr active]
  desired nodeName active master := by
    have running := (healthy.worker nodeName).mpr active
    rw [(healthy.master nodeName).mpr ((same nodeName).mp master)] at running
    contradiction

theorem Settled.new_nil (settled : s.Settled cfg) (of : diff.Of cfg.masters s.masters) :
    diff.new = [] := by
  refine List.eq_nil_iff_forall_not_mem.mpr fun host member => ?_
  obtain ⟨desired, inactive⟩ := (of.new host.nodeName).mp (mem_names member)
  exact inactive ((settled.masters _).mpr desired)

theorem Settled.old_nil (settled : s.Settled cfg) (of : diff.Of cfg.masters s.masters) :
    diff.old = [] := by
  refine List.eq_nil_iff_forall_not_mem.mpr fun host member => ?_
  obtain ⟨active, dropped⟩ := (of.old host.nodeName).mp (mem_names member)
  exact dropped ((settled.masters _).mp active)

theorem Settled.allAlive (settled : s.Settled cfg) (of : diff.Of cfg.workers s.workers)
    (started : ∀ host ∈ diff.new, t.Alive host.nodeName) (grows : Grows s t) :
    ∀ host ∈ cfg.allNodes, t.Alive host.nodeName := by
  intro host member
  obtain worker | master := List.mem_append.mp member
  · by_cases active : host.nodeName ∈ s.workers
    · exact grows.alive _ (settled.workerAlive _ active (mem_names worker))
    · obtain ⟨new, isNew, same⟩ := List.mem_map.mp ((of.new host.nodeName).mpr ⟨mem_names worker, active⟩)
      exact same ▸ started new isNew
  · exact grows.alive _ (settled.masterAlive _ (mem_names master))

/-- Where the masters are as they should be, scaling succeeds. -/
theorem Settled.converges (settled : s.Settled cfg) : s.Converges cfg := by
  refine completes_planScale.here.alone.bind ?_
  rintro ⟨masters, workers⟩ s ⟨⟨ofMasters, ofWorkers⟩, rfl⟩
  dsimp only at ofMasters ofWorkers ⊢
  rw [scaleNodes, settled.new_nil ofMasters, settled.old_nil ofMasters]
  -- no master is added or removed
  have adds : Go.Remote.Completes Smooth Eq (fun _ _ => True) (fun _ t => t = s) (addMasters cfg masters.curr []) s :=
    .pure fun _ same => same.symm
  refine adds.mapError.bind ?_
  rintro currMasters s rfl
  have removes :
      Go.Remote.Completes Smooth Eq (fun _ _ => True) (fun _ t =>
        t = s) (removeMasters cfg currMasters []) s :=
    .pure fun _ same => same.symm
  refine removes.mapError.bind ?_
  rintro _ s rfl
  have grown := IsTrans.trans (r := Grows) s
  have deploys : Go.Remote.Completes Smooth Eq (fun _ _ => True)
      (fun _ t => (∀ host ∈ workers.new, t.Alive host.nodeName) ∧ Grows s t) (deployWorkers cfg workers.new) s :=
    (completes_deployWorkers.frame (refl s) (fun _ _ later earlier => grown _ _ earlier later)
      fun _ _ later earlier => grown _ _ earlier later).alone
  refine deploys.mapError.bind ?_
  rintro _ t ⟨started, grows⟩
  refine (completes_syncNodes (settled.allAlive ofWorkers started grows)).here.alone.bind ?_
  rintro _ t ⟨-, rfl⟩
  have deletes : Go.Remote.Completes Smooth Eq (fun _ _ => True) (fun _ u => True ∧ SameMembers t u)
      (deleteWorkers cfg workers.old) t :=
    (completes_deleteWorkers.frame (refl t) (fun _ _ same kept =>
      same ▸ kept) fun _ _ later earlier =>
      later.trans earlier).alone
  refine deletes.mapError.weaken (fun _ _ => id) (fun _ _ => id) ?_
  rintro _ u ⟨_, kept⟩ nodeName
  rw [memberNames, kept, grows.members]
  exact settled.members nodeName

end Settled
end Cluster
end Nodeletctl
