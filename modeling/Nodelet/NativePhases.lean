import Nodelet.BashPhase
import Nodelet.Cordon
import Nodelet.Go.Procedure
import Nodelet.Kubelet.Utils
import Nodelet.LoadImages
import Mathlib.Data.List.Infix

/-! The phases that are implemented in Go: which calls Status, Start and Stop of each one make,
what they return and what they leave in the host phase. An operation makes each of its calls
at most once, so that an outcome is a value. -/
namespace Nodelet
open Constants Sunpike

namespace NativePhase

/-- How a command ended. Its runner returns an error exactly where the exit code is not zero. -/
inductive Ran where
  | exited (stdOut : List String)
  | failed (exitCode : { code : Int // code ≠ 0 }) (err : Go.Error)

/-- The client that a phase keeps. A creation that fails leaves an interface around a nil
pointer, which is not nil itself. -/
inductive Client where
  | unset
  | null
  | ready
  deriving DecidableEq, Repr

structure Taint where
  key : String
  value : String
  effect : String
  deriving DecidableEq, Repr

/-- The outcomes of the calls that an operation makes. -/
structure Calls (Data : Type) where
  runCommand : List String → Ran
  readFile : String → Except Go.Error String
  appendToFile : String → String → Option Go.Error
  writeToFileWithBase64Decoding : String → String → Option Go.Error
  /-- The error of removing the start file marker, and whether it says that there is none. -/
  removeStartFileMarker : Option (Go.Error × Bool)
  /-- Whether there is a start file marker. -/
  statStartFileMarker : Bool
  newClient : Option Go.Error
  getNodeIdentifier : Except Go.Error String
  k8sApiAvailable : Option Go.Error
  getNodeFromK8sApi : String → Except Go.Error Cordon.Node
  addLabelsToNode : String → List (String × String) → Option Go.Error
  addTaintsToNode : String → List Taint → Option Go.Error
  addAnnotationsToNode : String → List (String × String) → Option Go.Error
  removeAnnotationsFromNode : String → List String → Option Go.Error
  drainNodeFromApiServer : String → Option Go.Error
  uncordonNode : String → Option Go.Error
  preventAutoReattach : Option Go.Error
  ensureAppCatalog : Option Go.Error
  ensureDns : Option Go.Error
  kubelet : (request : Kubelet.Request) → request.Answer
  sprintf : String → String
  newContainerUtil : Option Go.Error
  destroyContainersInNamespacesList : List String → Option Go.Error
  imageDirectories : String → Option (LoadImages.Directory Data)
  imageFaults : LoadImages.Faults
  sha256 : Data → String

structure State where
  phase : HostPhase
  client : Client := .unset
  deriving DecidableEq, Repr

abbrev Operation := Go.Procedure State

section Helpers

def setHostStatus (status message : String) : Operation Unit :=
  modify fun s => { s with phase := { s.phase with status, message } }

def orFail (fault : Option Go.Error) : Operation Unit :=
  match fault with
  | some err => throw err
  | none => pure ()

/-- `errors.Wrapf`, of an error. -/
def wrapf (err : Go.Error) (message : String) : Go.Error := message ++ ": " ++ err

/-- An error that the caller gets with one text and the host phase with another. -/
def failWith (message : String) (err : Go.Error) : Operation Unit := do
  setHostStatus failedState message
  throw err

/-- An error is also put into the status of the phase. -/
def reporting (program : Operation α) : Operation α :=
  tryCatch program fun err => do
    setHostStatus failedState err
    throw err

end Helpers

section Phases
variable {Data : Type} (calls : Calls Data) (cfg : Config)

/-- What could not be created is kept all the same. -/
def createClient : Operation Unit :=
  match calls.newClient with
  | some err => do
    modify fun s => { s with client := .null }
    throw err
  | none => modify fun s => { s with client := .ready }

/-- Create a client where the one that is kept is `stale`. -/
def refreshClient (stale : Client → Bool) : Operation Unit := do
  if stale (← get).client then createClient calls

/-- A method of the client that reads it. -/
def onClient (outcome : Except Go.Error α) : Operation α := do
  if (← get).client ≠ .ready then
    liftM (Except.error (Go.Halt.panic .nilDereference) : Except Go.Halt Unit)
  liftM outcome

def onNode (fault : Option Go.Error) : Operation Unit := onClient (fault.elim (.ok ()) .error)

def isInterfaceNil (client : Client) : Bool := client ≠ .ready

/-- The Stop of most phases. -/
def stopped : Operation Unit := setHostStatus stoppedState ""

def running : Operation Unit := setHostStatus runningState ""

def actionCommand (action : String) : List String :=
  ["/usr/bin/sudo", "/usr/bin/systemctl", action, runtimeContainerd]

/-- `ServiceUtility.RunAction`, on containerd. -/
def runAction (action : String) : Operation (List String) :=
  match calls.runCommand (actionCommand action) with
  | .exited stdOut => pure stdOut
  | .failed exitCode err =>
    let message := "could not " ++ action ++ " " ++ runtimeContainerd ++ ". exitcode:"
    throw (wrapf err (message ++ toString exitCode.1))

/-- A function of the kubelet utilities. -/
def kubelet (program : Kubelet.Operation α) : Operation α :=
  match program.run.eval calls.kubelet with
  | .ok value => pure value
  | .error (.error err) => throw err
  | .error (.panic cause) => liftM (Except.error (Go.Halt.panic cause) : Except Go.Halt α)

def versionCommand : List String := [containerdBinPath, "--version"]

namespace ContainerdConfigPhase

def checkInstalled : Operation Unit :=
  match calls.runCommand versionCommand with
  | .failed exitCode err =>
    let message := "containerd not installed command containerd --version exited with code:" ++ toString exitCode.1
    failWith message (wrapf err message)
  | .exited stdOut => do
    -- the first line is read even where nothing was printed
    let _ ← (liftM (Go.index stdOut 0) : Operation String)

def appendata : String :=
  "\n\t[plugins.\"io.containerd.grpc.v1.cri\".containerd.runtimes.runc.options]\n\t\tSystemdCgroup = " ++
    if containerdCgroup = "systemd" then "true" else "false"

def configureCgroup : Operation Unit :=
  match calls.readFile containerdConfigFile with
  | .error err =>
    failWith ("couldn't read containerd config file:" ++ containerdConfigFile ++ " :" ++ err)
      (wrapf err ("couldn't read containerd config file:" ++ containerdConfigFile))
  | .ok fileContent =>
    if cgroupSystemd.toList <:+: fileContent.toList then pure ()
    else
      match calls.appendToFile containerdConfigFile appendata with
      | some err =>
        failWith ("couldn't write to containerd config file:" ++ containerdConfigFile ++ " :" ++ err)
          (wrapf err ("couldn't write to containerd config file:" ++ containerdConfigFile))
      | none => pure ()

def start : Operation Unit := do
  checkInstalled calls
  configureCgroup calls
  running

end ContainerdConfigPhase

namespace ContainerdRunPhase

def ownSocket : Operation Unit :=
  match calls.runCommand ["/usr/bin/sudo", "/usr/bin/chown", pf9User ++ ":" ++ pf9Group,
    containerdSocket] with
  | .exited _ => pure ()
  | .failed _ err =>
    failWith ("couldn't own containerd socket:" ++ containerdSocket ++ " to pf9 user: " ++ err)
      (wrapf err ("couldn't own containerd socket:" ++ containerdSocket ++ " to pf9"))

/-- The first line is the state; whether it was printed is not asked. -/
def status : Operation Unit := do
  let output ← reporting (runAction calls isActiveOp)
  let state ← (liftM (Go.index output 0) : Operation String)
  if state = activeState then running
  else failWith "containerd not running" "containerd is not active"

def start : Operation Unit := do
  let _ ← reporting (runAction calls startOp)
  ownSocket calls
  running

def removeNerdctlDir : Operation Unit :=
  match calls.runCommand ["/usr/bin/sudo", "/usr/bin/rm", "-rf", nerdctlDir] with
  | .exited _ => pure ()
  | .failed _ err =>
    failWith ("couldn't delete " ++ nerdctlDir ++ ": " ++ err)
      (wrapf err ("couldn't delete " ++ nerdctlDir))

/-- Without containerd there are no containers to destroy. -/
def stop : Operation Unit :=
  match calls.runCommand versionCommand with
  | .failed _ _ => stopped
  | .exited _ => do
    reporting (orFail calls.newContainerUtil)
    reporting (orFail (calls.destroyContainersInNamespacesList [k8sNamespace, mobyNamespace]))
    removeNerdctlDir calls
    let _ ← reporting (runAction calls stopOp)
    stopped

end ContainerdRunPhase

namespace LoadImagePhase

def withDirectories (program : LoadImages.Operation Data Unit) : Operation Unit := fun s =>
  let (result, host) := program.result ⟨calls.imageDirectories, s.phase⟩
  .ok (result, { s with phase := host.phase })

def status : Operation Unit :=
  withDirectories calls (LoadImages.status calls.sha256 cfg.userImagesDir calls.imageFaults)

def start : Operation Unit :=
  withDirectories calls (LoadImages.start calls.sha256 cfg.userImagesDir calls.imageFaults)

end LoadImagePhase

def writeCloudProviderConfig : Operation Unit :=
  if cfg.kubeletCloudConfig = "" then pure ()
  else orFail (calls.writeToFileWithBase64Decoding cloudConfigFile cfg.kubeletCloudConfig)

namespace KubeletConfigureStartPhase

def status : Operation Unit := do
  if ← kubelet calls Kubelet.isKubeletRunning then running
  else reporting (throw "pf9-kubelet is not active")

def start : Operation Unit := do
  reporting (kubelet calls (Kubelet.ensureKubeletRunning calls.sprintf cfg))
  running

def stop : Operation Unit := do
  reporting (kubelet calls Kubelet.ensureKubeletStopped)
  stopped

end KubeletConfigureStartPhase

/-- An interface that has lost its address is refused. -/
def getNodeIdentifier : Operation String := do
  let nodeIdentifier ← reporting (liftM calls.getNodeIdentifier)
  if nodeIdentifier = Cordon.loopBackIpString then
    failWith
      "Fetched node endpoint as 127.0.0.1. Node interface might have lost IP address. Failing."
      "node interface might have lost IP address. Failing"
  return nodeIdentifier

namespace MiscPhase

/-- That the node is not up is returned without a word to the host phase. -/
def status : Operation Unit := do
  let nodeIdentifier ← getNodeIdentifier calls
  reporting (refreshClient calls isInterfaceNil)
  reporting (orFail calls.k8sApiAvailable)
  let _ ← onClient (calls.getNodeFromK8sApi nodeIdentifier)
  running

/-- So is an error of the cloud configuration. -/
def start : Operation Unit := do
  reporting (refreshClient calls isInterfaceNil)
  writeCloudProviderConfig calls cfg
  running

end MiscPhase

def LabelTaintNodePhase.start : Operation Unit := do
  reporting (refreshClient calls isInterfaceNil)
  let nodeIdentifier ← getNodeIdentifier calls
  reporting (onNode (calls.addLabelsToNode nodeIdentifier [("node-role.kubernetes.io/" ++ cfg.clusterRole, "")]))
  if ¬ cfg.masterSchedulable ∧ cfg.clusterRole = roleMaster then
    let taintsToAdd := [⟨"node-role.kubernetes.io/master", "true", "NoSchedule"⟩]
    reporting (onNode (calls.addTaintsToNode nodeIdentifier taintsToAdd))
  running

namespace UncordonNodePhase

/-- A node that somebody else has cordoned is marked as such. -/
def mark (nodeIdentifier : String) (node : Cordon.Node) : Operation Unit :=
  if node.kubeStackShutDown then pure ()
  else if node.unschedulable then
    reporting (onNode (calls.addAnnotationsToNode nodeIdentifier [("UserNodeCordon", "true")]))
  else reporting (onNode (calls.removeAnnotationsFromNode nodeIdentifier ["UserNodeCordon"]))

def status : Operation Unit := do
  reporting (refreshClient calls isInterfaceNil)
  let nodeIdentifier ← reporting (liftM calls.getNodeIdentifier)
  if ¬ calls.statStartFileMarker then
    let node ← reporting (onClient (calls.getNodeFromK8sApi nodeIdentifier))
    mark calls nodeIdentifier node
  running

def uncordon (nodeIdentifier : String) : Operation Unit := do
  reporting (onNode (calls.uncordonNode nodeIdentifier))
  reporting (orFail calls.preventAutoReattach)

/-- Here a client that could not be created before is taken for one. -/
def start : Operation Unit := do
  reporting (refreshClient calls (· = .unset))
  let nodeIdentifier ← getNodeIdentifier calls
  reporting (onNode (calls.removeAnnotationsFromNode nodeIdentifier ["KubeStackShutDown"]))
  let node ← reporting (onClient (calls.getNodeFromK8sApi nodeIdentifier))
  -- a node that its user has cordoned stays so
  if ¬ node.userNodeCordon then uncordon calls nodeIdentifier
  running

end UncordonNodePhase

def DeployAppCatalogPhase.start : Operation Unit := do
  reporting (refreshClient calls isInterfaceNil)
  if cfg.appCatalogEnabled then reporting (orFail calls.ensureAppCatalog)
  running

def PF9CoreDNSPhase.start : Operation Unit := do
  reporting (refreshClient calls isInterfaceNil)
  reporting (orFail calls.ensureDns)
  running

namespace DrainNodePhase

def start : Operation Unit := do
  match calls.removeStartFileMarker with
  | some (err, false) => reporting (throw err)
  | _ => running

/-- Every error leaves the host phase stopped; that of the client is not even its message. -/
def reportStopped (message : Go.Error → String) (program : Operation α) : Operation α :=
  tryCatch program fun err => do
    setHostStatus stoppedState (message err)
    throw err

def stop : Operation Unit := do
  reportStopped (fun _ => "") (refreshClient calls isInterfaceNil)
  reportStopped id (orFail calls.k8sApiAvailable)
  let nodeIdentifier ← reportStopped id (liftM calls.getNodeIdentifier)
  reportStopped id (onNode (calls.drainNodeFromApiServer nodeIdentifier))
  reportStopped id
    (onNode (calls.addAnnotationsToNode nodeIdentifier [("KubeStackShutDown", "true")]))
  stopped

end DrainNodePhase
end Phases
end NativePhase

namespace NativePhase

def interface : NativePhase → PhaseInterface
  | containerdConfig => newContainerdConfigPhase
  | containerdRun => newContainerdRunPhase
  | loadImage => newLoadImagePhase
  | misc => newMiscPhase
  | kubeletConfigureStart => newKubeletConfigureStartPhase
  | labelTaintNode => newLabelTaintNodePhase
  | uncordonNode => newUncordonNodePhase
  | deployAppCatalog => newDeployAppCatalogPhase
  | pf9CoreDNS => newPF9CoreDNSPhase
  | drainNode => newDrainNodePhase

variable {Data : Type} (calls : Calls Data) (cfg : Config)

def status : NativePhase → Operation Unit
  | containerdRun => ContainerdRunPhase.status calls
  | loadImage => LoadImagePhase.status calls cfg
  | misc => MiscPhase.status calls
  | kubeletConfigureStart => KubeletConfigureStartPhase.status calls
  | uncordonNode => UncordonNodePhase.status calls
  | _ => running

def start : NativePhase → Operation Unit
  | containerdConfig => ContainerdConfigPhase.start calls
  | containerdRun => ContainerdRunPhase.start calls
  | loadImage => LoadImagePhase.start calls cfg
  | misc => MiscPhase.start calls cfg
  | kubeletConfigureStart => KubeletConfigureStartPhase.start calls cfg
  | labelTaintNode => LabelTaintNodePhase.start calls cfg
  | uncordonNode => UncordonNodePhase.start calls
  | deployAppCatalog => DeployAppCatalogPhase.start calls cfg
  | pf9CoreDNS => PF9CoreDNSPhase.start calls
  | drainNode => DrainNodePhase.start calls

def stop : NativePhase → Operation Unit
  | containerdRun => ContainerdRunPhase.stop calls
  | kubeletConfigureStart => KubeletConfigureStartPhase.stop calls
  | drainNode => DrainNodePhase.stop calls
  | _ => stopped

def operate (phase : NativePhase) : PhaseOp → Operation Unit
  | .status => phase.status calls cfg
  | .start => phase.start calls cfg
  | .stop => phase.stop calls

/-- The answers on a host where the kubelet runs. -/
def runningKubelet : (request : Kubelet.Request) → request.Answer
  | .runCommandWithStdErr _ => (⟨0, [], [], none⟩ : Kubelet.Output)
  | .runCommandWithStdOutStdErr _ => (⟨0, ["active"], [], none⟩ : Kubelet.Output)
  | .mkdirAll _ | .writeFile _ _ => (none : Option Go.Error)
  | .readFile _ | .httpGet _ | .addrConv _ _ | .getNodeIdentifier _ | .getNodeIP _ =>
    (.ok "" : Except Go.Error String)

/-- Calls that all succeed, on a host without images to load. -/
def Calls.succeeding (Data : Type) : Calls Data where
  runCommand _ := .exited ["active"]
  readFile _ := .ok "SystemdCgroup = true"
  appendToFile _ _ := none
  writeToFileWithBase64Decoding _ _ := none
  removeStartFileMarker := none
  statStartFileMarker := false
  newClient := none
  getNodeIdentifier := .ok "10.0.0.1"
  k8sApiAvailable := none
  getNodeFromK8sApi _ := .ok {}
  addLabelsToNode _ _ := none
  addTaintsToNode _ _ := none
  addAnnotationsToNode _ _ := none
  removeAnnotationsFromNode _ _ := none
  drainNodeFromApiServer _ := none
  uncordonNode _ := none
  preventAutoReattach := none
  ensureAppCatalog := none
  ensureDns := none
  kubelet := runningKubelet
  sprintf text := text
  newContainerUtil := none
  destroyContainersInNamespacesList _ := none
  imageDirectories _ := none
  imageFaults := {}
  sha256 _ := ""

end NativePhase
end Nodelet
