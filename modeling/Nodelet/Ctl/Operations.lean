import Nodelet.Ctl.HostLists

/-! Which requests the functions of the tool make. Those that only read are of no
interest: a property of all of them, and of the changes of a function, is one of its
traces. -/
namespace Nodeletctl
open Go.Resumption (Traces Emits runs_done runs_bind_done runs_call_done runs_bind_ok)
open Go.Remote (Can runs_mapError_ok Sends)

/-- The host and the operation, for an event that is one of a deployer. -/
def Event.step? : Event → Option (String × Step)
  | ⟨.perform deployer step, _⟩ => some (deployer.hostId, step)
  | _ => none

/-- The operation of the event, if it is one, is as `P` says. -/
def Touches (P : String → Step → Prop) (event : Event) : Prop :=
  ∀ nodeName step, event.step? = some (nodeName, step) → P nodeName step

theorem Touches.weaken {P Q : String → Step → Prop} (touches : Touches P event)
    (implies : ∀ nodeName step, P nodeName step → Q nodeName step) : Touches Q event :=
  fun nodeName step operation => implies nodeName step (touches nodeName step operation)

/-- Every operation is one of a deployment, on one of these hosts. -/
def Deploys (nodeNames : List String) (nodeName : String) (step : Step) : Prop :=
  nodeName ∈ nodeNames ∧ step ∈ Deployer.deploySteps.map Prod.fst

def Deletes (nodeNames : List String) (nodeName : String) (step : Step) : Prop :=
  nodeName ∈ nodeNames ∧ step = .deleteNodelet

/-- Requests that change a host or the membership of etcd. -/
def Request.Changes : Request → Prop
  | .perform .. | .memberAdd .. | .memberRemove _ => True
  | _ => False

/-- Requests that neither change or render anything nor use the certificates of a cluster. -/
def Request.Plain : Request → Prop
  | .perform .. | .memberAdd .. | .memberRemove _ | .genNodeletConfigLocal _ => False
  | .removeAll _ | .genCALocal _ | .trustCA _ | .genKubeconfig _ | .newEtcdClient .. => False
  | _ => True

variable {P : Event → Prop} {nodeletCfg : NodeletConfig} {answer : Except Go.Error Unit}
  {hostId hostIp : String}

theorem plainly (reading : ∀ request answer, ¬ request.Changes → P ⟨request, answer⟩)
    (request : Request) (answer : request.Answer) (plain : request.Plain) :
    P ⟨request, answer⟩ := by
  refine reading request answer fun changes => ?_
  cases request <;> first | exact plain | exact changes

theorem connecting (reading : ∀ request answer, ¬ request.Changes → P ⟨request, answer⟩)
    {rootCA : String} (endpoints : List String) (answer : Except Go.Error Unit) :
    P ⟨.newEtcdClient rootCA endpoints, answer⟩ :=
  reading (.newEtcdClient rootCA endpoints) answer id

theorem rendering (reading : ∀ request answer, ¬ request.Changes → P ⟨request, answer⟩)
    (answer : Except Go.Error Unit) : P ⟨.genNodeletConfigLocal nodeletCfg, answer⟩ :=
  reading (.genNodeletConfigLocal nodeletCfg) answer id

theorem Touches.of_reading {P : String → Step → Prop} (request : Request) (answer : request.Answer)
    (reading : ¬ request.Changes) : Touches P ⟨request, answer⟩ := by
  intro nodeName step operation
  cases request <;> first | exact absurd trivial reading | cases operation

theorem Touches.of_join {P : String → Step → Prop} :
    Touches P ⟨.memberAdd hostId hostIp, answer⟩ := by
  intro nodeName step operation
  cases operation

theorem Touches.of_leave {P : String → Step → Prop} {left : Member} :
    Touches P ⟨.memberRemove left, answer⟩ := by
  intro nodeName step operation
  cases operation

section Emits
variable {P : Event → Prop} (reading : ∀ request answer, request.Plain → P ⟨request, answer⟩)
  {cfg : BootstrapConfig} {hosts : List HostConfig}

/-- The operation, on this host, is as `P` says. -/
def Performs (P : Event → Prop) (nodeName : String) (step : Step) : Prop :=
  ∀ deployer : Deployer, deployer.hostId = nodeName → ∀ answer, P ⟨.perform deployer step, answer⟩

def Connects (P : Event → Prop) (cfg : BootstrapConfig) : Prop :=
  ∀ endpoints answer, P ⟨.newEtcdClient (etcdCA cfg.clusterId) endpoints, answer⟩

theorem performs_of {P : String → Step → Prop} {nodeName : String} (holds : P nodeName step) :
    Performs (Touches P) nodeName step := by
  rintro deployer rfl answer _ _ operation
  obtain ⟨rfl, rfl⟩ := Prod.mk.inj (Option.some.inj operation)
  exact holds

variable {deployer : Deployer} {status : ClusterStatus} {masterList : List (String × String)}
  {newMasters currMasters : List HostConfig} {active : List String} {desired : List HostConfig}

theorem emits_perform (holds : ∀ answer, P ⟨.perform deployer step, answer⟩) :
    Sends P (deployer.perform step) :=
  .attempt (.perform holds)

theorem emits_runSteps
    (holds : ∀ step ∈ steps.map Prod.fst, ∀ answer, P ⟨.perform deployer step, answer⟩) :
    Sends P (deployer.runSteps steps) := by
  induction steps with
  | nil => exact .pure trivial
  | cons first rest ih =>
    obtain ⟨head, tail⟩ := List.forall_mem_cons.mp holds
    exact .bind (.mapError (emits_perform head)) fun _ _ => ih tail

include reading

theorem emits_ask (plain : request.Plain) : Emits P (fun _ => True) (ask request) :=
  .perform fun answer => reading request answer plain

theorem emits_refresh : Emits P (fun _ => True) deployer.refreshNodeletStatus := by
  refine .bind (emits_ask reading trivial) fun answer _ => ?_
  cases answer <;> trivial

theorem emits_spawn
    (holds : ∀ step ∈ Deployer.deploySteps.map Prod.fst, ∀ answer,
      P ⟨.perform deployer step, answer⟩) : Emits P (fun _ => True) deployer.spawn := by
  refine .bind (emits_runSteps holds) fun result _ => ?_
  cases result with
  | error err => exact .bind (emits_ask reading trivial) fun _ _ => trivial
  | ok => exact .bind (emits_refresh reading) fun _ _ => .bind (emits_ask reading trivial) fun _ _ => trivial

theorem emits_getNodeletDeployer :
    Go.Remote.Emits P (· = ⟨nodeletCfg⟩) (getNodeletDeployer nodeletCfg) :=
  .bind (.attempt (emits_ask reading trivial)) fun _ _ => .pure rfl

theorem emits_renderedDeployer (renders : ∀ answer, P ⟨.genNodeletConfigLocal nodeletCfg, answer⟩) :
    Go.Remote.Emits P (· = ⟨nodeletCfg⟩) (renderedDeployer nodeletCfg) :=
  .bind (.mapError (.attempt (.perform renders))) fun _ _ =>
    .mapError (emits_getNodeletDeployer reading)

theorem emits_fetchStatus : Sends P (fetchStatus cfg hosts status) := by
  induction hosts generalizing status with
  | nil => exact .pure trivial
  | cons host rest ih =>
    refine .bind (.mapError (emits_getNodeletDeployer reading)) fun deployer _ => ?_
    refine .bind (.lift (emits_ask reading trivial)) fun answer _ => ?_
    cases answer <;> exact ih

theorem emits_refreshUnhealthy {synced : Bool} :
    Emits P (fun _ => True) (refreshUnhealthy hosts status synced) := by
  induction hosts generalizing status synced with
  | nil => trivial
  | cons host rest ih =>
    unfold refreshUnhealthy
    split
    · exact .bind (emits_ask reading trivial) nofun
    · split
      · exact ih
      · exact .bind (emits_refresh reading) fun _ _ => ih

theorem emits_poll {ticks : Nat} : Emits P (fun _ => True) (poll hosts ticks status) := by
  induction ticks generalizing status with
  | zero => exact .bind (emits_ask reading trivial) nofun
  | succ ticks ih =>
    refine .bind (emits_refreshUnhealthy reading) fun result _ => ?_
    dsimp only
    split
    · trivial
    · exact ih

theorem emits_syncNodes : Sends P (syncNodes cfg hosts) :=
  .bind (.mapError (emits_fetchStatus reading)) fun _ _ =>
    .bind (.lift (emits_ask reading trivial)) fun _ _ => .lift (emits_poll reading)

omit reading in
theorem emits_initEtcdClient (connects : Connects P cfg) : Sends P (initEtcdClient cfg hosts) :=
  .attempt (.perform (connects _))

omit reading in
theorem emits_addNodeToEtcd (connects : Connects P cfg)
    (joins : ∀ answer, P ⟨.memberAdd hostId hostIp, answer⟩) :
    Sends P (addNodeToEtcd cfg hosts hostId hostIp) :=
  .bind (.mapError (emits_initEtcdClient connects)) fun _ _ => .mapError (.attempt (.perform joins))

theorem emits_findEtcdMemberByIp {hostIp : String} :
    Emits P (fun found => ∀ member ∈ found, member.name = hostIp) (findEtcdMemberByIp hostIp) := by
  refine .bind (emits_ask reading trivial) fun answer _ => ?_
  cases answer with
  | error err => exact nofun
  | ok members => exact fun member found => by simpa using List.find?_some found

theorem emits_removeNodeFromEtcd {hostIp : String} (connects : Connects P cfg)
    (leaves : ∀ member : Member, member.name = hostIp →
      ∀ answer, P ⟨.memberRemove member, answer⟩) :
    Sends P (removeNodeFromEtcd cfg hosts hostIp) := by
  refine .bind (.mapError (emits_initEtcdClient connects)) fun _ _ => ?_
  refine .bind (.lift (emits_findEtcdMemberByIp reading)) fun found named => ?_
  cases found with
  | none => exact .throw
  | some member => exact .mapError (.attempt (.perform (leaves member (named member rfl))))

omit reading in
theorem emits_ignore {program : Remote α} (emits : Sends P program) : Sends P (ignore program) :=
  Emits.bind emits fun _ _ => trivial

theorem emits_addMastersFrom {known : HostConfig → Prop} (listed : Listed known masterList)
    (all : ∀ host ∈ hosts, known host) (connects : Connects P cfg)
    (joins : ∀ host ∈ hosts, ∀ answer, P ⟨.memberAdd host.nodeName host.hostIp, answer⟩)
    (renders : ∀ host ∈ hosts, ∀ masterList, Listed known masterList →
      ∀ answer, P ⟨.genNodeletConfigLocal (masterConfig cfg "existing" masterList host), answer⟩)
    (deploys : ∀ host ∈ hosts, ∀ step ∈ Deployer.deploySteps.map Prod.fst, ∀ masterList answer,
      P ⟨.perform ⟨masterConfig cfg "existing" masterList host⟩ step, answer⟩) :
    Sends P (addMastersFrom cfg newMasters masterList currMasters hosts) := by
  induction hosts generalizing masterList currMasters with
  | nil => exact .pure trivial
  | cons host rest ih =>
    obtain ⟨first, all⟩ := List.forall_mem_cons.mp all
    obtain ⟨join, joins⟩ := List.forall_mem_cons.mp joins
    obtain ⟨render, renders⟩ := List.forall_mem_cons.mp renders
    obtain ⟨deploy, deploys⟩ := List.forall_mem_cons.mp deploys
    have stored := listed.store first
    refine .bind (emits_renderedDeployer reading (render _ stored)) ?_
    rintro _ rfl
    refine .bind (.mapError (emits_addNodeToEtcd connects join)) fun _ _ => ?_
    refine .bind (.lift (emits_spawn reading fun step member => deploy step member _)) fun _ _ => ?_
    exact .bind (.mapError (emits_syncNodes reading)) fun _ _ => ih stored all joins renders deploys

theorem emits_addMasters
    (connects : Connects P cfg)
    (joins : ∀ host ∈ newMasters, ∀ answer, P ⟨.memberAdd host.nodeName host.hostIp, answer⟩)
    (renders : ∀ host ∈ newMasters, ∀ masterList,
      Listed (· ∈ newMasters ++ currMasters) masterList → ∀ answer,
      P ⟨.genNodeletConfigLocal (masterConfig cfg "existing" masterList host), answer⟩)
    (deploys : ∀ host ∈ newMasters, ∀ step ∈ Deployer.deploySteps.map Prod.fst, ∀ masterList answer,
      P ⟨.perform ⟨masterConfig cfg "existing" masterList host⟩ step, answer⟩) :
    Sends P (addMasters cfg currMasters newMasters) := by
  have listed : Listed (· ∈ newMasters ++ currMasters) (masterListOf currMasters) :=
    (listed_masterListOf currMasters).weaken fun host last => List.mem_append_right _ last.mem
  exact emits_addMastersFrom reading listed (fun host member => List.mem_append_left _ member)
    connects joins renders deploys

theorem emits_deleteHost (deletes : Performs P host.nodeName .deleteNodelet) :
    Sends P (deleteHost cfg host) := by
  refine .bind (.mapError (emits_getNodeletDeployer reading)) ?_
  rintro _ rfl
  exact .mapError (emits_perform (deletes _ rfl))

theorem emits_removeMasters {currMasters : List HostConfig} (connects : Connects P cfg)
    (leaves : ∀ host ∈ hosts, ∀ member : Member, member.name = host.hostIp →
      ∀ answer, P ⟨.memberRemove member, answer⟩)
    (deletes : ∀ host ∈ hosts, Performs P host.nodeName .deleteNodelet) :
    Sends P (removeMasters cfg currMasters hosts) := by
  induction hosts generalizing currMasters with
  | nil => exact .pure trivial
  | cons host rest ih =>
    obtain ⟨leave, leaves⟩ := List.forall_mem_cons.mp leaves
    obtain ⟨delete, deletes⟩ := List.forall_mem_cons.mp deletes
    refine .bind (.mapError (emits_removeNodeFromEtcd reading connects leave)) fun _ _ => ?_
    refine .bind (emits_deleteHost reading delete) fun _ _ => ?_
    exact .bind (emits_ignore (emits_syncNodes reading)) fun _ _ => ih leaves deletes

theorem emits_inParallel {body : Deployer → Call Unit}
    (renders : ∀ host ∈ hosts, ∀ answer, P ⟨.genNodeletConfigLocal (workerConfig cfg host), answer⟩)
    (holds : ∀ host ∈ hosts, Emits P (fun _ => True) (body ⟨workerConfig cfg host⟩)) :
    Sends P (inParallel cfg body hosts) := by
  induction hosts with
  | nil => exact .pure trivial
  | cons host rest ih =>
    obtain ⟨render, renders⟩ := List.forall_mem_cons.mp renders
    obtain ⟨head, tail⟩ := List.forall_mem_cons.mp holds
    refine .bind (emits_renderedDeployer reading render) ?_
    rintro _ rfl
    exact Emits.parallel (emits_ask reading trivial) head (ih renders tail)

theorem emits_deployWorkers
    (renders : ∀ host ∈ hosts, ∀ answer, P ⟨.genNodeletConfigLocal (workerConfig cfg host), answer⟩)
    (deploys : ∀ host ∈ hosts, ∀ step ∈ Deployer.deploySteps.map Prod.fst, ∀ answer,
      P ⟨.perform ⟨workerConfig cfg host⟩ step, answer⟩) :
    Sends P (deployWorkers cfg hosts) :=
  emits_inParallel reading renders fun host member =>
    .bind (emits_spawn reading (deploys host member)) fun _ _ =>
    trivial

theorem emits_deleteWorkers (deletes : ∀ host ∈ hosts, Performs P host.nodeName .deleteNodelet) :
    Sends P (deleteWorkers cfg hosts) := by
  induction hosts with
  | nil => exact .pure trivial
  | cons host rest ih =>
    obtain ⟨head, tail⟩ := List.forall_mem_cons.mp deletes
    exact .bind (emits_deleteHost reading head) fun _ _ => ih tail

theorem emits_getDiffNodes :
    Emits P (fun diff => diff.Of desired active ∧
      ∀ host ∈ diff.new ++ diff.curr, LastOf desired host) (getDiffNodes desired active) :=
  .bind (emits_ask reading trivial) fun visitedActive _ =>
    .bind (emits_ask reading trivial) fun visitedDesired _ =>
    ⟨diffNodes_of visitedActive.property visitedDesired.property,
      diffNodes_last visitedDesired.property⟩

theorem emits_checkCerts : Sends P (checkCerts cfg) := by
  refine .ite (.bind (.lift (emits_ask reading trivial)) fun found _ => ?_) (.pure trivial)
  exact .ite .throw (.pure trivial)

theorem emits_planScale :
    Go.Remote.Emits P (fun plan => ∀ host ∈ plan.1.new ++ plan.1.curr, LastOf cfg.masters host)
      (planScale cfg) :=
  .bind (emits_checkCerts reading) fun _ _ =>
    .bind (.mapError (.attempt (emits_ask reading trivial))) fun _ _ =>
    .bind (.mapError (.attempt (emits_ask reading trivial))) fun _ _ =>
      .bind (.lift (emits_getDiffNodes reading)) fun _ compared =>
        .bind (.lift (emits_getDiffNodes reading)) fun _ _ => .pure compared.2

theorem emits_statUserImages {paths : List String} : Sends P (statUserImages paths) := by
  induction paths with
  | nil => exact .pure trivial
  | cons path rest ih =>
    refine .bind (.attempt (emits_ask reading trivial)) fun found _ => ?_
    exact .ite (.stops .throw) ih

theorem emits_deployMasters
    (renders : ∀ host ∈ hosts, ∀ answer,
      P ⟨.genNodeletConfigLocal (masterConfig cfg "new" masterList host), answer⟩)
    (deploys : ∀ host ∈ hosts, ∀ step ∈ Deployer.deploySteps.map Prod.fst, ∀ answer,
      P ⟨.perform ⟨masterConfig cfg "new" masterList host⟩ step, answer⟩) :
    Sends P (deployMasters cfg masterList hosts) := by
  induction hosts with
  | nil => exact .pure trivial
  | cons host rest ih =>
    obtain ⟨render, renders⟩ := List.forall_mem_cons.mp renders
    obtain ⟨deploy, deploys⟩ := List.forall_mem_cons.mp deploys
    refine .bind (emits_statUserImages reading) fun _ _ => ?_
    refine .bind (emits_renderedDeployer reading render) ?_
    rintro _ rfl
    exact .bind (.lift (emits_spawn reading deploy)) fun _ _ => ih renders deploys

theorem emits_upgradeMasters
    (renders : ∀ host ∈ hosts, ∀ answer,
      P ⟨.genNodeletConfigLocal (masterConfig cfg "new" masterList host), answer⟩)
    (upgrades : ∀ host ∈ hosts, ∀ step ∈ Deployer.upgradeSteps.map Prod.fst, ∀ answer,
      P ⟨.perform ⟨masterConfig cfg "new" masterList host⟩ step, answer⟩) :
    Sends P (upgradeMasters cfg masterList hosts) := by
  induction hosts with
  | nil => exact .pure trivial
  | cons host rest ih =>
    obtain ⟨render, renders⟩ := List.forall_mem_cons.mp renders
    obtain ⟨upgrade, upgrades⟩ := List.forall_mem_cons.mp upgrades
    refine .bind (emits_renderedDeployer reading render) ?_
    rintro _ rfl
    refine .bind (.lift (emits_runSteps upgrade)) fun result _ => ?_
    cases result with
    | ok => exact ih renders upgrades
    | error err => exact .bind (.lift (emits_ask reading trivial)) fun _ _ => ih renders upgrades

theorem emits_upgradeWorkers
    (renders : ∀ host ∈ hosts, ∀ answer, P ⟨.genNodeletConfigLocal (workerConfig cfg host), answer⟩)
    (upgrades : ∀ host ∈ hosts, ∀ step ∈ Deployer.upgradeSteps.map Prod.fst, ∀ answer,
      P ⟨.perform ⟨workerConfig cfg host⟩ step, answer⟩) :
    Sends P (upgradeWorkers cfg hosts) := by
  refine emits_inParallel reading renders fun host member =>
    .bind (emits_runSteps (upgrades host member)) fun result _ => ?_
  cases result with
  | ok => trivial
  | error err => exact emits_ask reading trivial

omit reading in
theorem emits_prepareCerts (generates : ∀ answer, P ⟨.genCALocal cfg.clusterId, answer⟩)
    (trusts : ∀ answer, P ⟨.trustCA cfg.trustedDir, answer⟩)
    (signs : ∀ answer, P ⟨.genKubeconfig cfg.clusterId, answer⟩) : Sends P (prepareCerts cfg) := by
  have signed : Sends P (attempt (ask (.genKubeconfig cfg.clusterId))) :=
    .attempt (.perform signs)
  have trusted {certsDir : String} (chosen : certsDir = cfg.trustedDir) :
      Sends P (attempt (ask (.trustCA certsDir))) :=
    .attempt (.perform (chosen ▸ trusts))
  have generated :
      Go.Remote.Emits P (· = clusterCertsDir cfg.clusterId) (genCALocal cfg.clusterId) :=
    .bind (.attempt (.perform generates)) fun _ _ => .pure rfl
  have given : Go.Remote.Emits P (· = cfg.certsDir) (pure cfg.certsDir : Remote String) := .pure rfl
  unfold prepareCerts
  by_cases unset : cfg.certsDir = ""
  · rw [if_pos unset]
    refine .bind (.mapError generated) fun certsDir chosen => ?_
    refine .bind (.mapError (trusted (chosen.trans ?_))) fun _ _ => signed
    rw [BootstrapConfig.trustedDir, if_pos unset]
  · rw [if_neg unset]
    refine .bind given fun certsDir chosen => ?_
    refine .bind (.mapError (trusted (chosen.trans ?_))) fun _ _ => signed
    rw [BootstrapConfig.trustedDir, if_neg unset]

theorem emits_matchNodes {message : String} : Sends P (matchNodes message desired active) := by
  refine .ite (.stops .throw) (.bind (.lift (emits_getDiffNodes reading)) fun _ _ => ?_)
  exact .ite .throw (.pure trivial)

end Emits
end Nodeletctl
