import Nodelet.Ctl.Aborted

/-! Where a scaling that was aborted cannot be taken up again: a master that has been added to
etcd, but not deployed, is added again; one that has been removed is removed again; and where
no master stays there is no endpoint. -/
namespace Nodeletctl
open Go.Remote (Gets Aborts)

namespace Cluster
variable {cfg : BootstrapConfig} {s t : Cluster}

section Blocked
variable {host : HostConfig} {rest hosts : List HostConfig}

theorem smooth_of_grants (reading : ¬ request.Changes)
    (granted : s.Grants ⟨request, answer⟩) : s.Smooth ⟨request, answer⟩ s := by
  have taken : s.Smooth ⟨request, answer⟩ (s.carryOut request) := .inl ⟨granted, rfl⟩
  rwa [(smooth_reading reading taken).2] at taken

theorem gets_read (request : Request) (answer : request.Answer) (reading : ¬ request.Changes)
    (granted : s.Grants ⟨request, answer⟩) : Gets Smooth (ask request) s answer s :=
  .perform (smooth_of_grants reading granted)

/-- The plan, where the maps are visited in the order of their keys. -/
def planOf (cfg : BootstrapConfig) (s : Cluster) : Diff × Diff :=
  (diffNodes cfg.masters s.masters s.masters.dedup (hostMap cfg.masters),
    diffNodes cfg.workers s.workers s.workers.dedup (hostMap cfg.workers))

theorem planOf_of : (planOf cfg s).1.Of cfg.masters s.masters := diffNodes_of (.refl _) (.refl _)

theorem gets_planScale : Gets Smooth (planScale cfg).run s (.ok (planOf cfg s)) s := by
  have checks : Gets Smooth (checkCerts cfg).run s (.ok ()) s := by
    rw [checkCerts]
    split
    · exact .bindOk (.lift (gets_read (.certsExist _) true id rfl)) .done
    · exact .done
  have compares (desired : List HostConfig) (active : List String) :
    Gets Smooth (getDiffNodes desired active) s
      (diffNodes desired active active.dedup (hostMap desired)) s :=
    .bind (gets_read (.rangeNames _) ⟨_, .refl _⟩ id trivial)
      (.bind (gets_read (.rangeHosts _) ⟨_, .refl _⟩ id trivial) .done)
  refine .bindOk checks
    (.bindOk (.mapError (gets_read .getCurrentMasters (.ok s.masters) id rfl)) ?_)
  refine .bindOk (.mapError (gets_read .getCurrentWorkers (.ok s.workers) id rfl)) ?_
  exact .bindOk (.lift (compares _ _)) (.bindOk (.lift (compares _ _)) .done)

variable {nodeletCfg : NodeletConfig}

theorem gets_renderedDeployer :
    Gets Smooth (renderedDeployer nodeletCfg).run s (.ok ⟨nodeletCfg⟩) s :=
  .bindOk (.mapError (gets_read (.genNodeletConfigLocal nodeletCfg) (.ok ()) id rfl))
    (.mapError (.bindOk (gets_read (.getNodeletDeployer nodeletCfg.hostIp) (.ok ()) id rfl) .done))

theorem gets_initEtcdClient (nonempty : hosts ≠ []) :
    Gets Smooth (initEtcdClient cfg hosts).run s (.ok ()) s :=
  gets_read (.newEtcdClient ..) (.ok ()) id (iff_of_true rfl (mt etcdEndpoints_eq_nil.mp nonempty))

theorem aborts_planned {step : Cluster → Event → Cluster → Prop}
    (smooth : ∀ s event t, Smooth s event t → step s event t)
    (aborts : Aborts step (scaleNodes cfg (planOf cfg s).1 (planOf cfg s).2) s t) :
    Aborts step (scaleCluster cfg) s t :=
  .later (gets_planScale.weaken smooth) aborts

/-- A peer that is registered already cannot be added. -/
theorem aborts_registered (cons : (planOf cfg s).1.new = host :: rest)
    (stays : (planOf cfg s).1.curr ≠ [])
    (registered : host.hostIp ∈ s.members.map Prod.snd) : Aborts Smooth (scaleCluster cfg) s s := by
  have refuses : Aborts Smooth (attempt (ask (.memberAdd host.nodeName host.hostIp))) s s :=
    ⟨"etcdserver: Peer URLs already exists", .perform (.inr ⟨registered, rfl⟩)⟩
  have adds :
      Aborts Smooth (addNodeToEtcd cfg (planOf cfg s).1.curr host.nodeName host.hostIp) s s :=
    .later (.mapError (gets_initEtcdClient stays)) refuses.mapError
  refine aborts_planned (fun _ _ _ => id) ?_
  rw [scaleNodes, addMasters, cons, addMastersFrom]
  exact .bind (.mapError (.later gets_renderedDeployer adds.mapError.bind))

theorem faulty_of_smooth {program : Call α} {value : α} (gets : Gets Smooth program s value t) :
    Gets Faulty program s value t :=
  gets.weaken fun _ _ _ => .inl

theorem aborts_connecting : Aborts Faulty (getNodeletDeployer nodeletCfg) s s :=
  .bind ⟨"", .perform (.inr ⟨⟨"", rfl⟩, .inl rfl⟩)⟩

/-- The first new master is added to etcd. Its deployment and the wait for it then fail. -/
theorem aborts_added (cons : (planOf cfg s).1.new = host :: rest)
    (stays : (planOf cfg s).1.curr ≠ []) (unregistered : host.hostIp ∉ s.members.map Prod.snd) :
    Aborts Faulty (scaleCluster cfg) s (s.carryOut (.memberAdd host.nodeName host.hostIp)) := by
  have joins : Gets Smooth (ask (.memberAdd host.nodeName host.hostIp)) s (.ok ())
      (s.carryOut (.memberAdd host.nodeName host.hostIp)) := .perform (.inl ⟨⟨rfl, unregistered⟩, rfl⟩)
  have adds : Gets Smooth (addNodeToEtcd cfg (planOf cfg s).1.curr host.nodeName host.hostIp).run s (.ok ()) _ :=
    .bindOk (.mapError (gets_initEtcdClient stays)) (.mapError joins)
  have fails (t : Cluster) (deployer : Deployer) :
      ∃ status, Gets Faulty deployer.spawnMaster t status t := by
    have deploys : Aborts Faulty deployer.deployNodelet t t :=
      .bind (.mapError ⟨"", .perform (.inr ⟨⟨"", rfl⟩, .inl rfl⟩)⟩)
    obtain ⟨err, deploys⟩ := deploys
    exact ⟨_, .bind deploys (.bind (faulty_of_smooth (gets_read (.setClusterNodeStatus ..) () id trivial)) .done)⟩
  have waits (t : Cluster) : Aborts Faulty (syncNodes cfg [host]) t t :=
    .bind (.mapError (.bind (.mapError aborts_connecting)))
  refine aborts_planned (fun _ _ _ => .inl) ?_
  rw [scaleNodes, addMasters, cons, addMastersFrom]
  refine .bind (.mapError (.later (faulty_of_smooth gets_renderedDeployer) ?_))
  refine .later (faulty_of_smooth (.mapError adds)) ?_
  obtain ⟨status, spawns⟩ := fails _ _
  exact .later (.lift spawns) (.bind (.mapError (waits _)))

/-- The first old master is removed from etcd. The connection to its host then fails. -/
theorem aborts_removed {left : Member} (noNew : (planOf cfg s).1.new = [])
    (cons : (planOf cfg s).1.old = host :: rest) (stays : (planOf cfg s).1.curr ≠ [])
    (found : (s.members.map Prod.fst).find? (·.name = host.hostIp) = some left) :
    Aborts Faulty (scaleCluster cfg) s (s.carryOut (.memberRemove left)) := by
  have finds : Gets Smooth (findEtcdMemberByIp host.hostIp) s (some left) s :=
    .bind (gets_read .memberList (.ok (s.members.map Prod.fst)) id rfl) (found ▸ .done)
  have leaves :
      Gets Smooth (ask (.memberRemove left)) s (.ok ()) (s.carryOut (.memberRemove left)) :=
    .perform (.inl ⟨rfl, rfl⟩)
  have removes :
    Gets Smooth (removeNodeFromEtcd cfg (planOf cfg s).1.curr host.hostIp).run s (.ok ())
      (s.carryOut (.memberRemove left)) :=
    .bindOk (.mapError (gets_initEtcdClient stays)) (.bindOk (.lift finds) (.mapError leaves))
  refine aborts_planned (fun _ _ _ => .inl) ?_
  rw [scaleNodes, noNew, cons]
  refine .later (.mapError .done) (.bind (.mapError ?_))
  exact .later (faulty_of_smooth (.mapError removes)) (.bind (.bind (.mapError aborts_connecting)))

/-- An old master that is no member any more cannot be removed. -/
theorem aborts_missing (noNew : (planOf cfg s).1.new = [])
    (cons : (planOf cfg s).1.old = host :: rest) (stays : (planOf cfg s).1.curr ≠ [])
    (missing : (s.members.map Prod.fst).find? (·.name = host.hostIp) = none) :
    Aborts Smooth (scaleCluster cfg) s s := by
  have finds : Gets Smooth (findEtcdMemberByIp host.hostIp) s none s :=
    .bind (gets_read .memberList (.ok (s.members.map Prod.fst)) id rfl) (missing ▸ .done)
  have removes : Aborts Smooth (removeNodeFromEtcd cfg (planOf cfg s).1.curr host.hostIp) s s :=
    .later (.mapError (gets_initEtcdClient stays)) (.later (.lift finds) .throw)
  refine aborts_planned (fun _ _ _ => id) ?_
  rw [scaleNodes, noNew, cons]
  exact .later (.mapError .done) (.bind (.mapError (.bind removes.mapError)))

theorem aborts_unconnected (cons : (planOf cfg s).1.new = host :: rest)
    (unkept : (planOf cfg s).1.curr = []) : Aborts Smooth (scaleCluster cfg) s s := by
  have refuses : Aborts Smooth (initEtcdClient cfg []) s s :=
    ⟨"etcdclient: no available endpoints",
      gets_read (.newEtcdClient ..) (.error _) id (iff_of_false nofun (· rfl))⟩
  have unconnected : Aborts Smooth (addNodeToEtcd cfg [] host.nodeName host.hostIp) s s :=
    .bind refuses.mapError
  refine aborts_planned (fun _ _ _ => id) ?_
  rw [scaleNodes, addMasters, cons, addMastersFrom, unkept]
  exact .bind (.mapError (.later gets_renderedDeployer unconnected.mapError.bind))

theorem not_converges (aborts : Aborts Smooth (scaleCluster cfg) s t) : ¬ s.Converges cfg := by
  obtain ⟨err, _, runs⟩ := aborts
  intro converges
  obtain ⟨_, impossible, -⟩ := Go.Resumption.Completes.returned converges runs
  contradiction

theorem left_of_aborts (aborts : Aborts Faulty (scaleCluster cfg) s t) : Left cfg s t := by
  obtain ⟨_, _, runs⟩ := aborts
  exact .aborted .start runs

theorem missing_of_removed {left : Member} {hostIp : String} (nodup : s.memberNames.Nodup)
    (found : (s.members.map Prod.fst).find? (·.name = hostIp) = some left) :
    ((s.carryOut (.memberRemove left)).members.map Prod.fst).find? (·.name = hostIp) = none := by
  refine List.find?_eq_none.mpr fun member listed named => ?_
  obtain ⟨entry, kept, rfl⟩ := List.mem_map.mp listed
  obtain ⟨there, different⟩ := List.mem_filter.mp kept
  obtain ⟨first, firstThere, rfl⟩ := List.mem_map.mp (List.mem_of_find?_eq_some found)
  have firstNamed : first.1.name = hostIp := by simpa using List.find?_some found
  have same := List.inj_on_of_nodup_map nodup there firstThere
    ((of_decide_eq_true named).trans firstNamed.symm)
  simp [same] at different

end Blocked

/-- From a healthy cluster, and after any run that was aborted, scaling reaches its aim exactly
where the masters are the desired ones already. -/
theorem scale_converges_iff (accepted : cfg.Accepted) (healthy : s.Healthy) :
    (∀ t, Left cfg s t → t.Converges cfg) ↔ ∀ nodeName, nodeName ∈ names cfg.masters ↔
      nodeName ∈ s.masters := by
  refine ⟨fun converges => ?_, fun same t left => (left.settled (healthy.settled same)).converges⟩
  have of : (planOf cfg s).1.Of cfg.masters s.masters := planOf_of
  have stays : (planOf cfg s).1.curr ≠ [] := by
    intro unkept
    have none : ∀ nodeName ∈ names cfg.masters, nodeName ∉ s.masters := by
      intro nodeName desired active
      simpa [unkept, names] using (of.curr nodeName).mpr ⟨desired, active⟩
    obtain ⟨host, rest, cons⟩ := List.exists_cons_of_ne_nil (new_ne_nil_of_unkept of none accepted)
    exact not_converges (aborts_unconnected cons unkept) (converges s .start)
  have noNew : (planOf cfg s).1.new = [] := by
    by_contra new
    obtain ⟨host, rest, cons⟩ := List.exists_cons_of_ne_nil new
    by_cases registered : host.hostIp ∈ s.members.map Prod.snd
    · exact not_converges (aborts_registered cons stays registered) (converges s .start)
    · let t := s.carryOut (.memberAdd host.nodeName host.hostIp)
      have again : host.hostIp ∈ t.members.map Prod.snd := by simp [t, carryOut]
      refine not_converges (aborts_registered (s := t) cons stays again) (converges t (left_of_aborts ?_))
      exact aborts_added cons stays registered
  have noOld : (planOf cfg s).1.old = [] := by
    by_contra old
    obtain ⟨host, rest, cons⟩ := List.exists_cons_of_ne_nil old
    cases found : (s.members.map Prod.fst).find? (·.name = host.hostIp) with
    | none => exact not_converges (aborts_missing noNew cons stays found) (converges s .start)
    | some left =>
      let t := s.carryOut (.memberRemove left)
      have gone := missing_of_removed healthy.nodup found
      refine not_converges (aborts_missing (s := t) noNew cons stays gone) (converges t (left_of_aborts ?_))
      exact aborts_removed noNew cons stays found
  refine fun nodeName => ⟨fun desired => ?_, fun active => ?_⟩
  · by_contra inactive
    simpa [noNew, names] using (of.new nodeName).mpr ⟨desired, inactive⟩
  · by_contra dropped
    simpa [noOld, names] using (of.old nodeName).mpr ⟨active, dropped⟩

/-- A cluster of these masters and workers. -/
def ofNodes (masters workers : List String) : Cluster where
  members := masters.zipIdx.map fun master => (⟨master.2, master.1⟩, master.1)
  running nodeName := if nodeName ∈ masters then some .master
    else if nodeName ∈ workers then some .worker else none
  masters := masters
  workers := workers

theorem ofNodes_healthy {masters workers : List String} (nodup : masters.Nodup)
    (disjoint : ∀ nodeName ∈ workers, nodeName ∉ masters) : (ofNodes masters workers).Healthy := by
  have named : (ofNodes masters workers).memberNames = masters := by
    simp [memberNames, ofNodes, Function.comp_def, List.zipIdx_map_fst]
  refine ⟨by rwa [named], fun nodeName => by rw [named]; rfl, fun nodeName => ?_, fun nodeName =>
    ?_⟩
  · simp only [ofNodes]
    grind
  · simp only [ofNodes]
    grind

theorem scale_converges_same :
    threeMasters.Accepted ∧ (ofNodes ["one", "two", "three"] []).Healthy ∧
      ∀ t, Left threeMasters (ofNodes ["one", "two", "three"] []) t → t.Converges threeMasters :=
  have accepted : threeMasters.Accepted := rfl
  have healthy : (ofNodes ["one", "two", "three"] []).Healthy :=
    ofNodes_healthy (by decide) (by decide)
  ⟨accepted, healthy, (scale_converges_iff accepted healthy).mpr fun _ => Iff.rfl⟩

/-- A run that is aborted after the second master was added to etcd cannot be taken up again. -/
theorem aborted_addition_blocks :
    threeMasters.Accepted ∧ (ofNodes ["one"] []).Healthy ∧
      ∃ t, Left threeMasters (ofNodes ["one"] []) t ∧ t.memberNames = ["one", "two"] ∧
        Aborts Smooth (scaleCluster threeMasters) t t := by
  have cons :
      (planOf threeMasters (ofNodes ["one"] [])).1.new =
        [{ nodeName := "two" }, { nodeName := "three" }] := by
    decide
  have stays : (planOf threeMasters (ofNodes ["one"] [])).1.curr ≠ [] := by decide
  refine ⟨rfl, ofNodes_healthy (by decide) (by decide),
    (ofNodes ["one"] []).carryOut (.memberAdd "two" "two"), ?_, rfl, ?_⟩
  · exact left_of_aborts (aborts_added cons stays (by decide))
  · exact aborts_registered (s := (ofNodes ["one"] []).carryOut (.memberAdd "two" "two")) cons
      stays (by decide)

end Cluster
end Nodeletctl
