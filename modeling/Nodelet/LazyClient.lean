import Nodelet.Go.Faulty
import Nodelet.NativePhases

/-! The phases that create their Kubernetes client when they first need it. A creation that fails
leaves a nil pointer in the interface, which is then not nil itself. What the calls note in the host
phase is left out. -/
namespace Nodelet.LazyClient
open Go (Error Failure Panic)
open Go.Faulty (Panics)
open Go.Resumption (Traces Emits runs_done)
open NativePhase (Client isInterfaceNil)
open Constants

/-- The methods of the client that use its `Clientset`. -/
inductive Method where
  | getNodeFromK8sApi
  | addLabelsToNode
  | addAnnotationsToNode
  | removeAnnotationsFromNode
  | addTaintsToNode
  | drainNodeFromApiServer
  | uncordonNode
  | ensureDns
  deriving DecidableEq, Repr

inductive Request where
  | newClient
  | getNodeIdentifier
  | statStartFileMarker
  | removeStartFileMarker
  | k8sApiAvailable
  | preventAutoReattach
  | ensureAppCatalog
  | writeCloudProviderConfig
  | method (method : Method)
  deriving DecidableEq, Repr

def Method.Answer : Method → Type
  | .getNodeFromK8sApi => Except Error Cordon.Node
  | _ => Option Error

def Request.Answer : Request → Type
  | .getNodeIdentifier => Except Error String
  | .statStartFileMarker => Bool
  -- an error, and whether it says that there is no such file
  | .removeStartFileMarker => Option (Error × Bool)
  | .method name => name.Answer
  | _ => Option Error

abbrev Event := Go.Resumption.Event Request.Answer

/-- An operation keeps the client also where it fails. -/
abbrev Operation := ExceptT Failure (StateT Client (Go.Resumption Request Request.Answer))

section Operations

def perform (request : Request) : Operation request.Answer :=
  ExceptT.mk fun client => .call request fun answer => .done (.ok answer, client)

def fail (err : Error) : Operation α := throw (.error err)

def orFail : Option Error → Operation Unit
  | some err => fail err
  | none => pure ()

/-- Create a client where the one that is kept is `stale`. -/
def refreshClient (stale : Client → Bool) : Operation Unit := do
  if stale (← get) then
    match (← perform .newClient : Option Error) with
    | some err =>
      set Client.null
      fail err
    | none => set Client.ready

/-- Call a method that uses the `Clientset` of the client. -/
def call (method : Method) : Operation method.Answer := do
  if (← get) ≠ .ready then throw (.panic .nilDereference)
  perform (.method method)

def callOrFail (method : Method) (answers : method.Answer = Option Error) : Operation Unit := do
  let err ← call method
  orFail (answers ▸ err)

def getNodeFromK8sApi : Operation Cordon.Node := do
  match (← call .getNodeFromK8sApi : Except Error Cordon.Node) with
  | .error err => fail err
  | .ok node => return node

def getNodeIdentifier : Operation String := do
  match (← perform .getNodeIdentifier : Except Error String) with
  | .error err => fail err
  | .ok nodeIdentifier => return nodeIdentifier

/-- An interface that has lost its address is refused. -/
def getOwnIdentifier : Operation String := do
  let nodeIdentifier ← getNodeIdentifier
  if nodeIdentifier =
    Cordon.loopBackIpString then fail "node interface might have lost IP address. Failing"
  return nodeIdentifier

end Operations

/-! The part of each call after its client was refreshed. -/

section Phases
variable (cfg : Config)

def LabelTaintNodePhase.label : Operation Unit := do
  let _ ← getOwnIdentifier
  callOrFail .addLabelsToNode rfl
  if ¬ cfg.masterSchedulable ∧ cfg.clusterRole = roleMaster then callOrFail .addTaintsToNode rfl

namespace UncordonNodePhase

def notice : Operation Unit := do
  let _ ← getNodeIdentifier
  let booting : Bool ← perform .statStartFileMarker
  if booting then return
  else
    let node ← getNodeFromK8sApi
    if node.kubeStackShutDown then return
    else if node.unschedulable then callOrFail .addAnnotationsToNode rfl
    else callOrFail .removeAnnotationsFromNode rfl

def uncordon : Operation Unit := do
  let _ ← getOwnIdentifier
  callOrFail .removeAnnotationsFromNode rfl
  let node ← getNodeFromK8sApi
  if node.userNodeCordon then return
  else
    callOrFail .uncordonNode rfl
    orFail (← perform .preventAutoReattach)

end UncordonNodePhase

namespace MiscPhase

def look : Operation Unit := do
  orFail (← perform .k8sApiAvailable)
  let _ ← getNodeFromK8sApi

def write : Operation Unit := do orFail (← perform .writeCloudProviderConfig)

end MiscPhase

namespace DrainNodePhase

def start : Operation Unit := do
  match (← perform .removeStartFileMarker : Option (Error × Bool)) with
  | some (err, false) => fail err
  | _ => return

def drain : Operation Unit := do
  orFail (← perform .k8sApiAvailable)
  let _ ← getNodeIdentifier
  callOrFail .drainNodeFromApiServer rfl
  callOrFail .addAnnotationsToNode rfl

end DrainNodePhase

def PF9CoreDNSPhase.ensureDns : Operation Unit := callOrFail .ensureDns rfl

def DeployAppCatalogPhase.deploy : Operation Unit := do
  if cfg.appCatalogEnabled then orFail (← perform .ensureAppCatalog)

end Phases

inductive Phase where
  | labelTaintNode
  | uncordonNode
  | misc
  | drainNode
  | pf9CoreDNS
  | deployAppCatalog
  deriving DecidableEq, Repr

inductive Call where
  | status
  | start
  | stop
  deriving DecidableEq, Repr

/-- The calls of the six phases. Those that need no client only note their state. -/
def operation (cfg : Config) : Phase → Call → Operation Unit
  | .labelTaintNode, .start => do
    refreshClient isInterfaceNil
    LabelTaintNodePhase.label cfg
  | .uncordonNode, .status => do
    refreshClient isInterfaceNil
    UncordonNodePhase.notice
  | .uncordonNode, .start => do
    -- a nil pointer in the interface is taken for a client
    refreshClient (· = .unset)
    UncordonNodePhase.uncordon
  | .misc, .status => do
    let _ ← getOwnIdentifier
    refreshClient isInterfaceNil
    MiscPhase.look
  | .misc, .start => do
    refreshClient isInterfaceNil
    MiscPhase.write
  | .drainNode, .start => DrainNodePhase.start
  | .drainNode, .stop => do
    refreshClient isInterfaceNil
    DrainNodePhase.drain
  | .pf9CoreDNS, .start => do
    refreshClient isInterfaceNil
    PF9CoreDNSPhase.ensureDns
  | .deployAppCatalog, .start => do
    refreshClient isInterfaceNil
    DeployAppCatalogPhase.deploy cfg
  | _, _ => pure ()

end Nodelet.LazyClient
