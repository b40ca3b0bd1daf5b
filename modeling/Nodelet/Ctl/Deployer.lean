import Nodelet.Ctl.Config
import Nodelet.Go.Remote

/-! What the command-line tool asks of the machines of a cluster: of the hosts, over SSH,
through a deployer for each; of Kubernetes and of etcd. Every such operation may fail. -/
namespace Nodeletctl

/-- The operations of a deployer. -/
inductive Step where
  | createPf9User
  | uploadCerts
  | uploadUserImages
  | uploadCoreDNSHostsFile
  | copyNodeletConfig
  | installNodelet
  | setPf9Ownerships
  | startNodelet
  | uninstallNodelet
  | restartNodelet
  | deleteNodelet
  | deleteOldCerts
  | deleteCniDir
  | nodeletStackRestart
  deriving DecidableEq, Repr

/-- A deployer, with the configuration of its host as it was when the file for the host
was rendered. -/
structure Deployer where
  nodeletCfg : NodeletConfig
  deriving DecidableEq, Repr

/-- The host a deployer works on. -/
def Deployer.hostId (deployer : Deployer) : String := deployer.nodeletCfg.hostId

structure Member where
  id : Nat
  name : String
  deriving DecidableEq, Repr

/-- What is asked of the surroundings. The order in which a map is visited, the number of ticks that
arrive while a call waits for its nodes, and which goroutine goes on, are up to them as well. -/
inductive Request where
  | certsExist (clusterId : String)
  | removeAll (dir : String)
  | genCALocal (clusterId : String)
  | trustCA (certsDir : String)
  | genKubeconfig (clusterId : String)
  | statUserImage (path : String)
  | getCurrentMasters
  | getCurrentWorkers
  | rangeNames (names : List String)
  | rangeHosts (hosts : List HostConfig)
  | genNodeletConfigLocal (nodeletCfg : NodeletConfig)
  | getNodeletDeployer (hostIp : String)
  | perform (deployer : Deployer) (step : Step)
  | refreshNodeletStatus (deployer : Deployer)
  | setClusterNodeStatus (nodeName health : String) (errMsg : Option Go.Error)
  /-- The endpoints have to show a certificate of this authority. -/
  | newEtcdClient (rootCA : String) (endpoints : List String)
  /-- The peer is registered by its address; its etcd will call itself by the identifier of the
  host. -/
  | memberAdd (hostId hostIp : String)
  | memberList
  | memberRemove (member : Member)
  | ticks
  | schedule
  /-- A wait that never ends, or a nil dereference. -/
  | stuck
  deriving DecidableEq, Repr

@[reducible] def Request.Answer : Request → Type
  | .certsExist _ => Bool
  | .statUserImage _ => Except Go.Error Bool
  | .getCurrentMasters | .getCurrentWorkers => Except Go.Error (List String)
  | .rangeNames names => { visited : List String // visited.Perm names }
  | .rangeHosts hosts => { visited : List HostConfig // visited.Perm hosts }
  | .refreshNodeletStatus _ => Except Go.Error String
  | .setClusterNodeStatus .. => Unit
  | .memberList => Except Go.Error (List Member)
  | .ticks => Nat
  | .schedule => Bool
  | .stuck => Empty
  | _ => Except Go.Error Unit

abbrev Event := Go.Resumption.Event Request.Answer

/-- A function without an error result. -/
abbrev Call := Go.Resumption Request Request.Answer

abbrev Remote := Go.Remote Request Request.Answer

export Go.Remote (annotate mapError)

def ask (request : Request) : Call request.Answer := Go.Resumption.perform request

/-- An operation that fails returns its error. -/
def attempt (program : Call (Except Go.Error α)) : Remote α := ExceptT.mk program

/-- Ignore whether a function failed. -/
def ignore (program : Remote α) : Remote Unit :=
    ExceptT.mk (program.run.bind fun _ => .done (.ok ()))

namespace Deployer

def perform (deployer : Deployer) (step : Step) : Remote Unit :=
    attempt (ask (.perform deployer step))

/-- Take these steps in turn, each with the text in front of its error. -/
def runSteps (deployer : Deployer) : List (Step × String) → Remote Unit
  | [] => pure ()
  | (step, message) :: rest => do
    annotate message (deployer.perform step)
    runSteps deployer rest

def deploySteps : List (Step × String) :=
  [(.createPf9User, "failed to create user: "),
   (.uploadCerts, "failed to upload certs: "),
   (.uploadUserImages, "failed to upload user container images: "),
   (.uploadCoreDNSHostsFile, "failed to upload custom coreDNS hosts file: "),
   (.copyNodeletConfig, "failed to copy nodelet config: "),
   (.installNodelet, "failed to install nodelet: "),
   (.setPf9Ownerships, "failed to set pf9 ownerships: "),
   (.startNodelet, "failed to start nodelet: ")]

def upgradeSteps : List (Step × String) :=
  [(.uninstallNodelet, "Failed to uninstall nodelet: "),
   (.copyNodeletConfig, "failed to copy nodelet config: "),
   (.installNodelet, "Failed to install nodelet: "),
   (.restartNodelet, "Failed to restart nodelet: ")]

def deployNodelet (deployer : Deployer) : Remote Unit := deployer.runSteps deploySteps

/-- The state of the node, empty where it could not be read, and the error. -/
def refreshNodeletStatus (deployer : Deployer) : Call (String × Option Go.Error) := do
  match ← ask (.refreshNodeletStatus deployer) with
  | .ok health => return (health, none)
  | .error err => return ("", some err)

def setStatus (deployer : Deployer) (health : String) (errMsg : Option Go.Error) : Call Unit :=
  ask (.setClusterNodeStatus deployer.hostId health errMsg)

/-- Deploy the agent and look at its state. An error goes into the status of the node. -/
def spawn (deployer : Deployer) : Call (String × Option Go.Error) := do
  match ← deployer.deployNodelet.run with
  | .error err =>
    deployer.setStatus "failed" (some err)
    return ("failed", some err)
  | .ok () =>
    let (status, err) ← deployer.refreshNodeletStatus
    deployer.setStatus status err
    return (status, err)

def spawnMaster (deployer : Deployer) : Call (String × Option Go.Error) := deployer.spawn

def spawnWorker (deployer : Deployer) : Call Unit := do
  let _ ← deployer.spawn

def upgradeMaster (deployer : Deployer) : Remote Unit := deployer.runSteps upgradeSteps

def upgradeWorker (deployer : Deployer) : Call Unit := do
  match ← (deployer.runSteps upgradeSteps).run with
  | .error err => deployer.setStatus "failed" (some err)
  | .ok () => return

end Deployer

/-- Connect to a host. -/
def getNodeletDeployer (nodeletCfg : NodeletConfig) : Remote Deployer := do
  attempt (ask (.getNodeletDeployer nodeletCfg.hostIp))
  return ⟨nodeletCfg⟩

/-- A deployer for a host whose file has been rendered. -/
def renderedDeployer (nodeletCfg : NodeletConfig) : Remote Deployer := do
  annotate "Failed to generate config: " (attempt (ask (.genNodeletConfigLocal nodeletCfg)))
  annotate "failed to get nodelet deployer: " (getNodeletDeployer nodeletCfg)

end Nodeletctl
