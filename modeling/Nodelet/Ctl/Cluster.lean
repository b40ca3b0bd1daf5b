import Nodelet.Ctl.SyncNodes
import Mathlib.Data.List.Dedup

/-! Deploying, upgrading and scaling a cluster. -/
namespace Nodeletctl

section Diff

/-- The entries of a map from names to hosts that is filled in this order: the last one of a
name counts. -/
def hostMap : List HostConfig → List HostConfig
  | [] => []
  | host :: rest => if rest.any (·.nodeName = host.nodeName) then hostMap rest
    else host :: hostMap rest

def names (hosts : List HostConfig) : List String := hosts.map HostConfig.nodeName

structure Diff where
  new : List HostConfig
  old : List HostConfig
  curr : List HostConfig
  deriving DecidableEq, Repr

/-- Which nodes are to be added, removed and kept, for the orders in which the maps are visited. -/
def diffNodes (desired : List HostConfig) (active : List String) (visitedActive : List String)
    (visitedDesired : List HostConfig) : Diff where
  new := visitedDesired.filter (·.nodeName ∉ active)
  old := (visitedActive.filter (· ∉ names desired)).map fun nodeName => { nodeName }
  curr := visitedDesired.filter (·.nodeName ∈ active)

def getDiffNodes (desired : List HostConfig) (active : List String) : Call Diff := do
  let visitedActive ← ask (.rangeNames active.dedup)
  let visitedDesired ← ask (.rangeHosts (hostMap desired))
  return diffNodes desired active visitedActive visitedDesired

end Diff

section Etcd

def etcdEndpoints (cfg : BootstrapConfig) (activeMasters : List HostConfig) : List String :=
  activeMasters.map fun host =>
    if cfg.ipv6Enabled then "https://[" ++ host.hostIp ++ "]:4001"
      else "https://" ++ host.hostIp ++ ":4001"

def etcdCA (clusterId : String) : String :=
    Go.Filepath.join ["/etc/nodelet", clusterId, "certs/rootCA.crt"]

def initEtcdClient (cfg : BootstrapConfig) (activeMasters : List HostConfig) : Remote Unit :=
  attempt (ask (.newEtcdClient (etcdCA cfg.clusterId) (etcdEndpoints cfg activeMasters)))

theorem etcdEndpoints_eq_nil {activeMasters : List HostConfig} :
    etcdEndpoints cfg activeMasters = [] ↔ activeMasters = [] :=
  List.map_eq_nil_iff

def addNodeToEtcd (cfg : BootstrapConfig) (currMasters : List HostConfig)
    (hostId hostIp : String) : Remote Unit := do
  annotate "Failed to get etcd client: " (initEtcdClient cfg currMasters)
  annotate "Failed to add etcd member: " (attempt (ask (.memberAdd hostId hostIp)))

/-- The member that calls itself by the address of the host. -/
def findEtcdMemberByIp (hostIp : String) : Call (Option Member) := do
  match ← ask .memberList with
  | .error _ => return none
  | .ok members => return members.find? (·.name = hostIp)

def removeNodeFromEtcd (cfg : BootstrapConfig) (currMasters : List HostConfig) (hostIp : String) :
    Remote Unit := do
  annotate "Failed to get etcd client: " (initEtcdClient cfg currMasters)
  match ← ExceptT.lift (findEtcdMemberByIp hostIp) with
  | none => throw "Could not find master in etcd cluster"
  | some member => annotate "Failed to add etcd member: " (attempt (ask (.memberRemove member)))

end Etcd

section Scale
variable (cfg : BootstrapConfig)

/-- Store in a map from names to addresses. -/
def storeMaster (masterList : List (String × String)) (nodeName hostIp : String) :
    List (String × String) :=
  masterList.filter (·.1 ≠ nodeName) ++ [(nodeName, hostIp)]

def masterListOf (hosts : List HostConfig) : List (String × String) :=
  hosts.foldl (fun masterList host => storeMaster masterList host.nodeName host.hostIp) []

/-- The configuration of a master. -/
def masterConfig (etcdClusterState : String) (masterList : List (String × String))
    (host : HostConfig) : NodeletConfig :=
  { nodeletConfig cfg host with nodeletRole := some .master, etcdClusterState, masterList }

def workerConfig (host : HostConfig) : NodeletConfig :=
    { nodeletConfig cfg host with nodeletRole := some .worker }

/-- A host in the text of an error, without the addresses that its pointers are printed as. -/
def HostConfig.text (host : HostConfig) : String := "\x7bNodeName:" ++ host.nodeName ++ "\x7d"

def hostsText (hosts : List HostConfig) : String :=
    "&[" ++ " ".intercalate (hosts.map HostConfig.text) ++ "]"

/-- The loop of `AddMasters`, with the map of masters and the current masters so far. -/
def addMastersFrom (newMasters : List HostConfig) (masterList : List (String × String))
    (currMasters : List HostConfig) : List HostConfig → Remote (List HostConfig)
  | [] => pure currMasters
  | host :: rest => do
    let masterList := storeMaster masterList host.nodeName host.hostIp
    let nodeletCfg := masterConfig cfg "existing" masterList host
    let deployer ← renderedDeployer nodeletCfg
    annotate ("Failed to add nodes " ++ hostsText newMasters ++ " as etcd members: ")
      (addNodeToEtcd cfg currMasters host.nodeName host.hostIp)
    let _ ← ExceptT.lift deployer.spawnMaster
    mapError (fun _ => "Failed to sync new master: " ++ host.text) (syncNodes cfg [host])
    addMastersFrom newMasters masterList (currMasters ++ [host]) rest

def addMasters (currMasters newMasters : List HostConfig) : Remote (List HostConfig) :=
  addMastersFrom cfg newMasters (masterListOf currMasters) currMasters newMasters

/-- The first master of this name is overwritten by the last one, which is dropped. -/
def dropMaster (currMasters : List HostConfig) (nodeName : String) : List HostConfig :=
  match currMasters.findIdx? (·.nodeName = nodeName) with
  | none => currMasters
  | some i => (currMasters.set i (currMasters.getLastD { nodeName })).dropLast

/-- Connect to an old host, which is known by its name only, and remove the agent from it. -/
def deleteHost (host : HostConfig) : Remote Unit := do
  let deployer ← annotate "failed to get nodelet deployer: "
    (getNodeletDeployer (nodeletConfig cfg host))
  mapError (fun err => "Failed to delete node " ++ host.nodeName ++ ": " ++ err ++ "\n")
    (deployer.perform .deleteNodelet)

/-- The result of the wait for the other masters is dropped. -/
def removeMasters : List HostConfig → List HostConfig → Remote Unit
  | _, [] => pure ()
  | currMasters, host :: rest => do
    annotate ("Failed to remove nodes " ++ host.text ++ " from etcd members: ")
      (removeNodeFromEtcd cfg currMasters host.hostIp)
    deleteHost cfg host
    let currMasters := dropMaster currMasters host.nodeName
    ignore (syncNodes cfg currMasters)
    removeMasters currMasters rest

/-- A goroutine for each worker; all are waited for. -/
def inParallel (body : Deployer → Call Unit) : List HostConfig → Remote Unit
  | [] => pure ()
  | host :: rest => do
    let deployer ← renderedDeployer (workerConfig cfg host)
    ExceptT.mk (Go.Resumption.parallel (ask .schedule) (body deployer) (inParallel body rest).run)

def deployWorkers (workers : List HostConfig) : Remote Unit :=
    inParallel cfg Deployer.spawnWorker workers

def deleteWorkers : List HostConfig → Remote Unit
  | [] => pure ()
  | host :: rest => do
    deleteHost cfg host
    deleteWorkers rest

/-- The part of `ScaleCluster` that changes the cluster. -/
def scaleNodes (masters workers : Diff) : Remote Unit := do
  let currMasters ← annotate "ScaleCluster failed to deploy new masters: "
    (addMasters cfg masters.curr masters.new)
  annotate "ScaleCluster failed to remove old masters: " (removeMasters cfg currMasters masters.old)
  annotate "ScaleCluster failed to deploy new workers: " (deployWorkers cfg workers.new)
  syncNodes cfg cfg.allNodes
  annotate "ScaleCluster failed to cleanup old nodes: " (deleteWorkers cfg workers.old)

def checkCerts : Remote Unit := do
  if cfg.certsDir = "" then
    if !(← ExceptT.lift (ask (.certsExist cfg.clusterId))) then
      throw ("Could not find existing certs for cluster " ++ cfg.clusterId)

/-- What is to be done, by the nodes that are active. -/
def planScale : Remote (Diff × Diff) := do
  checkCerts cfg
  let masters ← annotate "Failed to get active K8s masters: " (attempt (ask .getCurrentMasters))
  let workers ← annotate "Failed to get active K8s workers: " (attempt (ask .getCurrentWorkers))
  let masters ← ExceptT.lift (getDiffNodes cfg.masters masters)
  let workers ← ExceptT.lift (getDiffNodes cfg.workers workers)
  return (masters, workers)

/-- From the point where the configuration has been read and accepted. -/
def scaleCluster : Remote Unit := do
  let (masters, workers) ← planScale cfg
  scaleNodes cfg masters workers

end Scale

section Deploy
variable (cfg : BootstrapConfig)

/-- Every image has to be there, for the first master as for the others. -/
def statUserImages : List String → Remote Unit
  | [] => pure ()
  | path :: rest => do
    if !(← attempt (ask (.statUserImage path))) then
      throw ("invalid UserImage path in nodelet config " ++ path ++ ", stat " ++ path ++
        ": no such file or directory")
    statUserImages rest

/-- An error of a master is only logged. -/
def deployMasters (masterList : List (String × String)) : List HostConfig → Remote Unit
  | [] => pure ()
  | host :: rest => do
    statUserImages cfg.userImages.elements
    let deployer ← renderedDeployer (masterConfig cfg "new" masterList host)
    let _ ← ExceptT.lift deployer.spawnMaster
    deployMasters masterList rest

/-- Generate a certificate authority, unless there is one. -/
def genCALocal (clusterId : String) : Remote String := do
  attempt (ask (.genCALocal clusterId))
  return clusterCertsDir clusterId

/-- The certificates of the cluster. -/
def prepareCerts : Remote Unit := do
  let certsDir ←
    if cfg.certsDir =
      "" then mapError ("Cert generation failed: " ++ · ++ "\n") (genCALocal cfg.clusterId)
    else pure cfg.certsDir
  mapError ("error adding nodelet Root CA as trusted certs: " ++ · ++ "\n")
    (attempt (ask (.trustCA certsDir)))
  attempt (ask (.genKubeconfig cfg.clusterId))

/-- The result of the wait for the nodes is dropped. -/
def deployCluster : Remote Unit := do
  prepareCerts cfg
  deployMasters cfg (masterListOf cfg.masters) cfg.masters
  annotate "ScaleCluster failed to deploy new workers: " (deployWorkers cfg cfg.workers)
  ignore (syncNodes cfg cfg.allNodes)

/-- An error goes into the status of the node. -/
def upgradeMasters (masterList : List (String × String)) : List HostConfig → Remote Unit
  | [] => pure ()
  | host :: rest => do
    let deployer ← renderedDeployer (masterConfig cfg "new" masterList host)
    match ← ExceptT.lift deployer.upgradeMaster.run with
    | .ok () => pure ()
    | .error err => ExceptT.lift (deployer.setStatus "failed" (some err))
    upgradeMasters masterList rest

def upgradeWorkers (workers : List HostConfig) : Remote Unit :=
    inParallel cfg Deployer.upgradeWorker workers

/-- The nodes that are active have to be those of the configuration. -/
def matchNodes (message : String) (desired : List HostConfig) (active : List String) :
    Remote Unit := do
  if desired.length ≠ active.length then throw message
  let diff ← ExceptT.lift (getDiffNodes desired active)
  if diff.new ≠ [] ∨ diff.old ≠ [] then throw message

def upgradeCluster : Remote Unit := do
  let masters ← annotate "Failed to get active K8s masters: " (attempt (ask .getCurrentMasters))
  let workers ← annotate "Failed to get active K8s workers: " (attempt (ask .getCurrentWorkers))
  matchNodes "Masters in the cluster and Bootstrap config doesnt match" cfg.masters masters
  matchNodes "Workers in the cluster and Bootstrap config doesnt match" cfg.workers workers
  upgradeMasters cfg (masterListOf cfg.masters) cfg.masters
  annotate "Failed to upgrade workers: " (upgradeWorkers cfg cfg.workers)
  ignore (syncNodes cfg cfg.allNodes)

end Deploy
end Nodeletctl
