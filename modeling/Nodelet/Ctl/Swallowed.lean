import Nodelet.Ctl.Sequences

/-! What it means that a command returns without an error. Errors of a sequence go into the status
of the node only, and the result of the last wait is dropped by two of the commands. -/
namespace Nodeletctl
open Go.Resumption (Traces Emits runs_bind_done runs_done runs_bind_ok drive)
open Go.Remote (runs_bind_error runs_mapError_ok runs_mapError_error runs_lift)

/-- The state of this node is read, and it is healthy. -/
def Event.ReadsOk (nodeName : String) : Event → Prop
  | ⟨.refreshNodeletStatus deployer, answer⟩ => deployer.hostId = nodeName ∧
    answer = .ok nodeHealthy
  | _ => False

section Waiting
variable {allowed : Event → Prop} {cfg : BootstrapConfig} {nodes : List HostConfig}
  {status : ClusterStatus}
  {earlier trace : List Event} {nodeName : String}

/-- What the status map says has been read. -/
def Witnessed (status : ClusterStatus) (trace : List Event) : Prop :=
  ∀ nodeName entry, status nodeName = some entry → entry.deployer.hostId = nodeName ∧
    (entry.nodeHealth = nodeHealthy → ∃ event ∈ trace, event.ReadsOk nodeName)

theorem unread_ne_healthy : "" ≠ nodeHealthy := by decide

theorem Witnessed.later (witnessed : Witnessed status earlier) (trace : List Event) :
    Witnessed status (earlier ++ trace) := by
  intro nodeName entry found
  obtain ⟨named, seen⟩ := witnessed nodeName entry found
  refine ⟨named, fun healthy => ?_⟩
  obtain ⟨event, member, read⟩ := seen healthy
  exact ⟨event, List.mem_append_left _ member, read⟩

variable {deployer : Deployer}

theorem Witnessed.add (witnessed : Witnessed status earlier)
    (named : deployer.hostId = nodeName) :
    Witnessed (Function.update status nodeName (some { deployer })) earlier := by
  intro other entry found
  by_cases same : other = nodeName
  · subst same
    rw [Function.update_self] at found
    cases found
    exact ⟨named, fun impossible => absurd impossible unread_ne_healthy⟩
  · rw [Function.update_of_ne same] at found
    exact witnessed other entry found

theorem Witnessed.store {health : String} (witnessed : Witnessed status earlier)
    (read : health = nodeHealthy → ∃ event ∈ earlier, event.ReadsOk nodeName) :
    Witnessed (setClusterNodeStatus status nodeName health) earlier := by
  intro other entry found
  by_cases same : other = nodeName
  · subst same
    rw [setClusterNodeStatus, Function.update_self] at found
    obtain ⟨before, known, rfl⟩ := Option.map_eq_some_iff.mp found
    exact ⟨(witnessed other before known).1, read⟩
  · rw [setClusterNodeStatus, Function.update_of_ne same] at found
    exact witnessed other entry found

theorem fetchStatus_witnessed {fetched : ClusterStatus} (witnessed : Witnessed status earlier)
    (runs : Traces allowed (fetchStatus cfg nodes status).run trace (.done (.ok fetched))) :
    Witnessed fetched (earlier ++ trace) := by
  induction nodes generalizing status earlier trace with
  | nil =>
    obtain ⟨rfl, same, -⟩ := runs_done.mp runs
    cases same
    exact witnessed.later []
  | cons host rest ih =>
    obtain ⟨first, deployer, _, _, rfl, connected, afterwards⟩ := runs_bind_ok.mp runs
    obtain ⟨second, answer, _, third, rfl, read, later⟩ := runs_bind_ok.mp afterwards
    cases getNodeletDeployer_returns (runs_mapError_ok.mp connected)
    obtain ⟨_, same, asked⟩ := runs_lift.mp read
    cases same
    obtain ⟨rfl, -⟩ := ask_returns.mp asked
    let deployer : Deployer := ⟨nodeletConfig cfg host⟩
    have named : deployer.hostId = host.nodeName := rfl
    let asking : List Event := first ++ [⟨.refreshNodeletStatus deployer, answer⟩]
    have added : Witnessed (Function.update status host.nodeName (some { deployer })) (earlier ++ asking) :=
      (witnessed.add named).later asking
    have next : ∃ next, Witnessed next (earlier ++ asking) ∧
        Traces allowed (fetchStatus cfg rest next).run third (.done (.ok fetched)) := by
      cases answer with
      | error err => exact ⟨_, added, later⟩
      | ok health =>
        refine ⟨_, added.store fun healthy => ?_, later⟩
        exact ⟨⟨.refreshNodeletStatus deployer, .ok health⟩, by simp [asking], rfl, by rw [healthy]⟩
    obtain ⟨next, stored, runs⟩ := next
    simpa [asking] using ih stored runs

theorem refreshNodeletStatus_reads {result : String × Option Go.Error}
    (runs : Traces allowed deployer.refreshNodeletStatus trace (.done result))
    (healthy : result.1 = nodeHealthy) : ∃ event ∈ trace, event.ReadsOk deployer.hostId := by
  obtain ⟨_, answer, _, _, rfl, asked, ended⟩ := runs_bind_done.mp runs
  obtain ⟨rfl, -⟩ := ask_returns.mp asked
  refine ⟨⟨.refreshNodeletStatus deployer, answer⟩, by simp, rfl, ?_⟩
  cases answer with
  | ok health =>
    obtain ⟨-, same, -⟩ := runs_done.mp ended
    cases same
    rw [← healthy]
  | error err =>
    obtain ⟨-, same, -⟩ := runs_done.mp ended
    cases same
    exact absurd healthy unread_ne_healthy

/-- A pass after which `done` is closed has found all nodes healthy, and has read none. -/
theorem refreshUnhealthy_witnessed {synced synced' : Bool} (witnessed : Witnessed status earlier)
    (runs : Traces allowed (refreshUnhealthy nodes status synced) trace
      (.done (status', synced'))) :
    Witnessed status' (earlier ++ trace) ∧
      (synced' = true → synced = true ∧ status' = status ∧ AllHealthy status nodes) := by
  induction nodes generalizing status synced earlier trace with
  | nil =>
    obtain ⟨rfl, same, -⟩ := runs_done.mp runs
    cases same
    exact ⟨witnessed.later [], fun done => ⟨done, rfl, List.forall_mem_nil _⟩⟩
  | cons node rest ih =>
    unfold refreshUnhealthy at runs
    split at runs
    · obtain ⟨_, impossible, _⟩ := runs_bind_done.mp runs
      exact impossible.elim
    · next entry found =>
      split at runs
      · next healthy =>
        obtain ⟨after, all⟩ := ih witnessed runs
        refine ⟨after, fun done => ?_⟩
        obtain ⟨before, same, others⟩ := all done
        obtain ⟨health, deployer⟩ := entry
        cases healthy
        exact ⟨before, same, List.forall_mem_cons.mpr ⟨⟨deployer, found⟩, others⟩⟩
      · obtain ⟨first, result, _, _, rfl, refreshed, later⟩ := runs_bind_done.mp runs
        have stored : Witnessed (setClusterNodeStatus status node.nodeName result.1) (earlier ++ first) := by
          refine (witnessed.later first).store fun healthy => ?_
          obtain ⟨event, member, read⟩ := refreshNodeletStatus_reads refreshed healthy
          exact ⟨event, List.mem_append_right _ member, (witnessed _ _ found).1 ▸ read⟩
        obtain ⟨after, all⟩ := ih stored later
        exact ⟨by simpa using after, fun done => absurd (all done).1 Bool.false_ne_true⟩

theorem poll_reads {ticks : Nat} (witnessed : Witnessed status earlier)
    (runs : Traces allowed (poll nodes ticks status) trace (.done ())) :
    ∀ node ∈ nodes, ∃ event ∈ earlier ++ trace, event.ReadsOk node.nodeName := by
  induction ticks generalizing status earlier trace with
  | zero =>
    obtain ⟨_, impossible, _⟩ := runs_bind_done.mp runs
    exact impossible.elim
  | succ ticks ih =>
    obtain ⟨_, ⟨after, synced⟩, _, _, rfl, pass, later⟩ := runs_bind_done.mp runs
    obtain ⟨stored, all⟩ := refreshUnhealthy_witnessed witnessed pass
    cases synced with
    | false => simpa using ih stored later
    | true =>
      obtain ⟨-, rfl, healthy⟩ := all rfl
      intro node member
      obtain ⟨deployer, found⟩ := healthy node member
      obtain ⟨event, there, read⟩ := (witnessed _ _ found).2 rfl
      exact ⟨event, List.mem_append_left _ there, read⟩

/-- All nodes that were waited for have been read as healthy. -/
theorem syncNodes_reads (runs : Traces allowed (syncNodes cfg nodes).run trace (.done (.ok ()))) :
    ∀ node ∈ nodes, ∃ event ∈ trace, event.ReadsOk node.nodeName := by
  obtain ⟨first, fetched, _, _, rfl, fetching, afterwards⟩ := runs_bind_ok.mp runs
  obtain ⟨second, ticks, _, third, rfl, ticking, polling⟩ := runs_bind_ok.mp afterwards
  have unseen : Witnessed (fun _ => none) [] := by
    intro nodeName entry found
    contradiction
  have witnessed := fetchStatus_witnessed unseen (runs_mapError_ok.mp fetching)
  obtain ⟨_, same, polled⟩ := runs_lift.mp polling
  cases same
  have reads := poll_reads (witnessed.later second) polled
  simpa using reads

end Waiting

/-- All steps of deployments and upgrades on the node so far have succeeded, and the last one was
the end of a sequence. Afterwards the node has been read as healthy, and no sequence has been
started. -/
def Deployed (nodeName : String) (trace : List Event) : Prop :=
  ∃ before read after, trace = before ++ read :: after ∧ read.ReadsOk nodeName ∧
    sequenceOn nodeName after = [] ∧ (∀ step ∈ sequenceOn nodeName before, step.2 = true) ∧
    ∀ last, (sequenceOn nodeName before).getLast? = some last → last.1 ∈ finalSteps

/-- A node on which a step has failed is not read as healthy later in the run. -/
def Honest (trace : List Event) : Prop :=
  trace.Pairwise fun earlier later =>
    ∀ nodeName step, earlier.sequence? nodeName = some (step, false) → ¬ later.ReadsOk nodeName

/-- No connection to a host fails. -/
def Connected (trace : List Event) : Prop :=
    ∀ hostIp err, ⟨.getNodeletDeployer hostIp, .error err⟩ ∉ trace

section Commands
variable {allowed : Event → Prop} {cfg : BootstrapConfig}
  {trace sequences waited after : List Event}

/-- After all sequences have come to an end, all nodes are waited for. -/
theorem deployed_of_waited (ended : Ended sequences)
    (waiting : Traces allowed (syncNodes cfg cfg.allNodes).run waited (.done (.ok ())))
    (outside : ∀ event ∈ after, Outside event) (honest : Honest (sequences ++ (waited ++ after))) :
    ∀ nodeName ∈ names cfg.allNodes, Deployed nodeName (sequences ++ (waited ++ after)) := by
  intro nodeName desired
  obtain ⟨host, member, rfl⟩ := List.mem_map.mp desired
  obtain ⟨read, there, healthy⟩ := syncNodes_reads waiting host member
  have quiet := (emits_syncNodes outside_plain).mem waiting
  obtain ⟨first, second, rfl⟩ := List.append_of_mem there
  have firstOutside : sequenceOn host.nodeName first = [] := sequenceOn_nil fun event member =>
    quiet event (List.mem_append_left _ member) host.nodeName
  have secondOutside : sequenceOn host.nodeName second = [] := sequenceOn_nil fun event member =>
    quiet event (List.mem_append_right _ (List.mem_cons_of_mem _ member)) host.nodeName
  have afterOutside : sequenceOn host.nodeName after = [] := sequenceOn_nil fun event member =>
    outside event member host.nodeName
  refine ⟨sequences ++ first, read, second ++ after, by simp, healthy, ?_, ?_⟩
  · rw [sequenceOn_append, secondOutside, afterOutside]
    rfl
  have succeeded : ∀ step ∈ sequenceOn host.nodeName sequences, step.2 = true := by
    intro step member
    obtain ⟨event, early, shown⟩ := List.mem_filterMap.mp member
    by_contra failed
    obtain ⟨step, ok⟩ := step
    cases ok with
    | true => exact failed rfl
    | false => exact (List.pairwise_append.mp honest).2.2 event early read (by simp) host.nodeName step shown healthy
  rw [sequenceOn_append, firstOutside, List.append_nil]
  exact ⟨succeeded, ended host.nodeName succeeded⟩

variable {err : Go.Error} {first second : List Event} {nodes : List HostConfig}

theorem getNodeletDeployer_error {nodeletCfg : NodeletConfig}
    (runs : Traces allowed (getNodeletDeployer nodeletCfg).run trace (.done (.error err))) :
    ¬ Connected trace := by
  obtain failed | ⟨_, _, _, _, rfl, -, ended⟩ := runs_bind_error.mp runs
  · obtain ⟨rfl, -⟩ := ask_returns.mp failed
    exact fun connected => connected _ _ List.mem_cons_self
  · obtain ⟨-, impossible, -⟩ := runs_done.mp ended
    contradiction

theorem Connected.left (connected : Connected (first ++ second)) : Connected first :=
  fun hostIp err member => connected hostIp err (List.mem_append_left _ member)

theorem Connected.right (connected : Connected (first ++ second)) : Connected second :=
  fun hostIp err member => connected hostIp err (List.mem_append_right _ member)

theorem fetchStatus_error
    (runs : Traces allowed (fetchStatus cfg nodes status).run trace (.done (.error err))) :
    ¬ Connected trace := by
  induction nodes generalizing status trace with
  | nil =>
    obtain ⟨-, impossible, -⟩ := runs_done.mp runs
    contradiction
  | cons host rest ih =>
    obtain failed | ⟨_, _, _, _, rfl, -, reading⟩ := runs_bind_error.mp runs
    · obtain ⟨_, failed⟩ := runs_mapError_error failed
      exact getNodeletDeployer_error failed
    obtain failed | ⟨_, answer, _, _, rfl, -, later⟩ := runs_bind_error.mp reading
    · obtain ⟨_, impossible, -⟩ := runs_lift.mp failed
      contradiction
    · intro connected
      cases answer <;> exact ih later connected.right.right

theorem syncNodes_error
    (runs : Traces allowed (syncNodes cfg nodes).run trace (.done (.error err))) :
    ¬ Connected trace := by
  obtain failed | ⟨_, _, _, _, rfl, -, ticking⟩ := runs_bind_error.mp runs
  · obtain ⟨_, failed⟩ := runs_mapError_error failed
    exact fetchStatus_error failed
  obtain failed | ⟨_, _, _, _, rfl, -, polling⟩ := runs_bind_error.mp ticking
  · obtain ⟨_, impossible, -⟩ := runs_lift.mp failed
    contradiction
  · obtain ⟨_, impossible, -⟩ := runs_lift.mp polling
    contradiction

/-- Where all connections succeed, it does not matter that the result of the wait is dropped. -/
theorem deployed_of_ignored (ended : Ended sequences)
    (waiting : Traces allowed (ignore (syncNodes cfg cfg.allNodes)).run waited (.done (.ok ())))
    (honest : Honest (sequences ++ waited)) (connected : Connected (sequences ++ waited)) :
    ∀ nodeName ∈ names cfg.allNodes, Deployed nodeName (sequences ++ waited) := by
  obtain ⟨waited, result, _, _, rfl, waiting, dropped⟩ := runs_bind_done.mp waiting
  obtain ⟨rfl, -⟩ := runs_done.mp dropped
  cases result with
  | error err => exact absurd connected.right.left (syncNodes_error waiting)
  | ok => exact deployed_of_waited ended waiting (List.forall_mem_nil _) honest

theorem deployCluster_deployed (honest : Honest trace) (connected : Connected trace)
    (runs : Traces allowed (deployCluster cfg).run trace (.done (.ok ()))) :
    ∀ nodeName ∈ names cfg.allNodes, Deployed nodeName trace := by
  obtain ⟨_, _, _, _, rfl, preparing, deploying⟩ := runs_bind_ok.mp runs
  obtain ⟨_, _, _, _, rfl, masters, deploying⟩ := runs_bind_ok.mp deploying
  obtain ⟨_, _, _, _, rfl, workers, waiting⟩ := runs_bind_ok.mp deploying
  have prepares : Finishes allowed (prepareCerts cfg) := .of_outside <|
    emits_prepareCerts (fun _ => outside_reading _ _ id) (fun _ => outside_reading _ _ id) fun _ =>
      outside_reading _ _ id
  have prepared := prepares _ _ preparing
  have ended :=
    prepared.append
      ((finishes_deployMasters _ _ masters).append (finishes_deployWorkers.mapError _ _ workers))
  simp only [← List.append_assoc] at honest connected ended ⊢
  exact deployed_of_ignored ended waiting honest connected

theorem upgradeCluster_deployed (honest : Honest trace) (connected : Connected trace)
    (runs : Traces allowed (upgradeCluster cfg).run trace (.done (.ok ()))) :
    ∀ nodeName ∈ names cfg.allNodes, Deployed nodeName trace := by
  obtain ⟨_, _, _, _, rfl, askingMasters, upgrading⟩ := runs_bind_ok.mp runs
  obtain ⟨_, _, _, _, rfl, askingWorkers, upgrading⟩ := runs_bind_ok.mp upgrading
  obtain ⟨_, _, _, _, rfl, matchingMasters, upgrading⟩ := runs_bind_ok.mp upgrading
  obtain ⟨_, _, _, _, rfl, matchingWorkers, upgrading⟩ := runs_bind_ok.mp upgrading
  obtain ⟨_, _, _, _, rfl, masters, upgrading⟩ := runs_bind_ok.mp upgrading
  obtain ⟨_, _, _, _, rfl, workers, waiting⟩ := runs_bind_ok.mp upgrading
  have readsMasters : Finishes allowed (attempt (ask .getCurrentMasters)) :=
    .of_outside (.attempt (emits_ask outside_plain trivial))
  have readsWorkers : Finishes allowed (attempt (ask .getCurrentWorkers)) :=
    .of_outside (.attempt (emits_ask outside_plain trivial))
  have matched {message desired active} : Finishes allowed (matchNodes message desired active) :=
    .of_outside (emits_matchNodes outside_plain)
  have asked :=
    (readsMasters.mapError _ _ askingMasters).append (readsWorkers.mapError _ _ askingWorkers)
  have ended :=
    asked.append ((matched _ _ matchingMasters).append ((matched _ _ matchingWorkers).append
    ((finishes_upgradeMasters _ _ masters).append (finishes_upgradeWorkers.mapError _ _ workers))))
  simp only [← List.append_assoc] at honest connected ended ⊢
  exact deployed_of_ignored ended waiting honest connected

theorem scaleCluster_deployed (honest : Honest trace)
    (runs : Traces allowed (scaleCluster cfg).run trace (.done (.ok ()))) :
    ∀ nodeName ∈ names cfg.allNodes, Deployed nodeName trace := by
  obtain ⟨_, plan, _, _, rfl, planning, scaling⟩ := runs_bind_ok.mp runs
  obtain ⟨_, _, _, _, rfl, adding, scaling⟩ := runs_bind_ok.mp scaling
  obtain ⟨_, _, _, _, rfl, removing, scaling⟩ := runs_bind_ok.mp scaling
  obtain ⟨_, _, _, _, rfl, deploying, scaling⟩ := runs_bind_ok.mp scaling
  obtain ⟨_, _, _, _, rfl, waiting, deleting⟩ := runs_bind_ok.mp scaling
  have planned : Ended _ :=
    Finishes.of_outside (emits_planScale outside_plain) _ _ planning
  have ended := planned.append ((finishes_addMastersFrom.mapError _ _ adding).append
    ((finishes_removeMasters.mapError _ _ removing).append
      (finishes_deployWorkers.mapError _ _ deploying)))
  have outside := (emits_deleteWorkers outside_plain fun _ _ => outside_delete _).mem (runs_mapError_ok.mp deleting)
  have deployed := deployed_of_waited ended waiting outside
  simp only [List.append_assoc] at deployed
  exact deployed honest

/-- Where no node lies about a step that has failed, and where no connection fails, a command that
returns without an error has deployed all nodes. Scaling does not drop the result of its wait. -/
theorem nil_only_deployed (cfg : BootstrapConfig) (honest : Honest trace) :
    (Connected trace → Traces (fun _ => True) (deployCluster cfg).run trace (.done (.ok ())) →
      ∀ nodeName ∈ names cfg.allNodes, Deployed nodeName trace) ∧
    (Connected trace → Traces (fun _ => True) (upgradeCluster cfg).run trace (.done (.ok ())) →
      ∀ nodeName ∈ names cfg.allNodes, Deployed nodeName trace) ∧
    (Traces (fun _ => True) (scaleCluster cfg).run trace (.done (.ok ())) →
      ∀ nodeName ∈ names cfg.allNodes, Deployed nodeName trace) :=
  ⟨deployCluster_deployed honest, upgradeCluster_deployed honest, scaleCluster_deployed honest⟩

/-- Operations that succeed give no reason to lie. -/
theorem honest_of_succeed {masters workers : List String} {program : Call α} {value : α}
    (driven : drive (succeed masters workers) program () = some (trace, value, ())) :
    Traces (fun _ => True) program trace (.done value) ∧ Honest trace ∧ Connected trace := by
  let smooth (event : Event) : Prop :=
    (∀ nodeName step, event.sequence? nodeName ≠ some (step, false)) ∧
    ∀ hostIp err, event ≠ ⟨.getNodeletDeployer hostIp, .error err⟩
  have smoothly : Traces smooth program trace (.done value) := by
    refine Go.Resumption.drive_runs (fun _ request reply _ answered => ?_) driven
    cases request <;> cases answered <;> simp [smooth, Event.sequence?, Except.isOk, Except.toBool]
  have all (event : Event) (member : event ∈ trace) : smooth event := by
    obtain ⟨_, _, taken⟩ := smoothly.taken event member
    exact taken
  refine ⟨smoothly.weaken fun _ _ _ _ => trivial, ?_, fun hostIp err member =>
    (all _ member).2 hostIp err rfl⟩
  refine List.Pairwise.imp_of_mem ?_ (List.pairwise_of_forall fun _ _ => trivial)
  exact fun early _ _ nodeName step failed => absurd failed ((all _ early).1 nodeName step)

theorem nil_only_deployed_smooth :
    ∃ trace, Honest trace ∧ Connected trace ∧
      Traces (fun _ => True) (deployCluster threeMasters).run trace (.done (.ok ())) ∧
      ∀ nodeName ∈ names threeMasters.allNodes, Deployed nodeName trace := by
  have returned :
    (drive (succeed [] []) (deployCluster threeMasters).run ()).map (fun run => run.2.1) =
      some (.ok ()) := by decide +kernel
  obtain ⟨⟨trace, value, _⟩, driven, rfl⟩ := Option.map_eq_some_iff.mp returned
  obtain ⟨runs, honest, connected⟩ := honest_of_succeed driven
  exact ⟨trace, honest, connected, runs, (nil_only_deployed threeMasters honest).1 connected runs⟩

/-- Surroundings in which every operation succeeds, but for this step on this node. -/
def failAt (nodeName : String) (failing : Step) : Unit →
    (request : Request) → Option (request.Answer × Unit)
  | _, .perform deployer step =>
    if deployer.hostId = nodeName ∧ step = failing then some (.error "i/o timeout", ())
      else some (.ok (), ())
  | s, request => succeed [] [] s request

/-- The deployment of a master fails at its first step, and the command returns without an error. -/
theorem failed_master_swallowed :
    threeMasters.Accepted ∧ ∃ trace,
      Traces (fun _ => True) (deployCluster threeMasters).run trace (.done (.ok ())) ∧
      sequenceOn "two" trace = [(.createPf9User, false)] := by
  have driven : (drive (failAt "two" .createPf9User) (deployCluster threeMasters).run ()).map
      (fun run => (sequenceOn "two" run.1, run.2.1)) = some ([(.createPf9User, false)], .ok ()) := by decide +kernel
  obtain ⟨⟨trace, value, _⟩, driven, seen⟩ := Option.map_eq_some_iff.mp driven
  obtain ⟨sequence, rfl⟩ := Prod.mk.inj seen
  exact ⟨rfl, trace, Go.Resumption.drive_runs (fun _ _ _ _ _ => trivial) driven, sequence⟩

end Commands
end Nodeletctl
