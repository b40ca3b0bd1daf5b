import Nodelet.Environment
import Nodelet.Sunpike.HostSpec
import Mathlib.Algebra.Group.Nat.Defs

/-! The host object that is sent to Sunpike and how a snapshot of the extension
data is translated into it. -/
namespace Nodelet.Sunpike
open Constants

/-- A phase of the host; orders are its unique identifiers there. -/
structure HostPhase where
  name : String := ""
  order : Int := 0
  startedAt : Int := Go.Time.zero
  operation : Operation := .unset
  status : String := ""
  message : String := ""
  deriving DecidableEq, Repr

inductive HostState where
  | unset
  | ok
  | converging
  | retrying
  | failed
  deriving DecidableEq, Repr

structure HostStatus where
  hostState : HostState := .unset
  clusterRole : String := ""
  clusterID : String := ""
  serviceState : Bool := false
  hostname : String := ""
  nodeletVersion : String := ""
  phases : List HostPhase := []
  /-- The order of the phase until which the chain has been completed. -/
  phaseCompleted : Int := 0
  /-- The order of the phase which failed to start in the last attempt, or -1. -/
  lastFailedPhase : Int := 0
  startAttempts : Int := 0
  /-- The order of the phase which is currently running. -/
  currentPhase : Int := 0
  allStatusChecks : List Int := []
  lastFailedCheck : Int := 0
  lastFailedCheckTime : Int := 0
  currentStatusCheck : Int := 0
  currentStatusCheckTime : Int := 0
  deriving DecidableEq, Repr

structure Host where
  name : String := ""
  spec : HostSpec := {}
  status : HostStatus := {}

/-- The host `InitOrGetSunpikeClient` builds for these phases. -/
def initialHost (cfg : Config) (phases : List HostPhase) (spec : HostSpec)
    (hostname version : String) : Host where
  name := cfg.hostID
  spec := spec
  status := {
    phases := phases
    allStatusChecks := phases.map HostPhase.order
    clusterRole := cfg.clusterRole
    clusterID := cfg.clusterID
    startAttempts := 0
    serviceState := false
    lastFailedCheck := -1
    lastFailedPhase := -1
    phaseCompleted := -1
    hostname := hostname
    nodeletVersion := version }

namespace Host

/-- `GetOrderForPhaseName`: no phase has the order -1. -/
def getOrderForPhaseName (host : Host) (name : String) : Int :=
  if name = "" then -1
  else
    match host.status.phases.find? fun phase => phase.name = name with
    | some phase => phase.order
    | none => -1

def modifyStatus (host : Host) (change : HostStatus → HostStatus) : Host :=
  { host with status := change host.status }

end Host

/-- Where a `*HostPhase` can point: to an element of the host's slice, or to the
variable of a loop over it, which holds a copy of one. -/
inductive PhasePointer where
  | element (i : Nat)
  | loopVariable

/-- What `populatePhaseObj` can reach: the host and its loop variable `p`. -/
structure PhaseMemory where
  host : Host
  p : HostPhase := {}

namespace PhaseMemory

def store (memory : PhaseMemory) (update : HostPhase → HostPhase) : PhasePointer → PhaseMemory
  | .element i => { memory with
      host := memory.host.modifyStatus fun status => { status with phases := status.phases.modify i update } }
  | .loopVariable => { memory with p := update memory.p }

/-- The loop of `populatePhaseObj`: it takes the address of its variable. -/
def findPhase (order : Int) : List HostPhase → PhaseMemory → PhaseMemory × Option PhasePointer
  | [], memory => (memory, none)
  | element :: rest, memory =>
    let memory := { memory with p := element }
    if memory.p.order = order then (memory, some .loopVariable) else findPhase order rest memory

end PhaseMemory

namespace Host

def populatePhaseObj (now : Int) (order : Int) (op : Operation) (status : String) (host : Host) :
    Host :=
  match PhaseMemory.findPhase order host.status.phases { host := host } with
  | (memory, none) => memory.host
  | (memory, some phase) =>
    (memory.store (fun p => { p with operation := op, status := status, startedAt := now })
      phase).host

/-- One iteration of a loop over the phases, which reads the element at the index. -/
def rangeStep (body : HostPhase → Host → Host) (host : Host) (i : Nat) : Host :=
  match host.status.phases[i]? with
  | some p => body p host
  | none => host

def rangePhases (body : HostPhase → Host → Host) (host : Host) : Host :=
  (List.range host.status.phases.length).foldl (rangeStep body) host

def hostStateFor (nodeState : String) : HostState :=
  if nodeState = okState then .ok
  else if nodeState = convergingState then .converging
  else if nodeState = retryingState then .retrying
  else .failed

/-- The last of the completed phases by its order, or -1. -/
def latestCompletedPhaseOrder (host : Host) (completedPhases : List String) : Int :=
  match completedPhases.getLast? with
  | some name => host.getOrderForPhaseName name
  | none => -1

/-- The scalar fields `populateHostObj` sets. No letter outside ASCII is lowered to
one of `true`, so lowering ASCII alone decides the comparison. -/
def populateScalars (d : ExtensionData) (host : Host) : Host :=
  host.modifyStatus fun status => { status with
    startAttempts := d.startAttempts.bmod (2 ^ 32)
    lastFailedCheckTime := d.lastFailedCheckTime
    currentStatusCheckTime := d.currentStatusCheckTime
    serviceState := d.serviceState.toLower = serviceStateTrue
    currentStatusCheck := host.getOrderForPhaseName d.currentStatusCheck
    lastFailedCheck := host.getOrderForPhaseName d.lastFailedCheck
    hostState := hostStateFor d.nodeState }

def populateHostObj (now : Int) (snapshot : Snapshot) (host : Host) : Host :=
  let d := snapshot.data
  let currentPhaseOrder := host.getOrderForPhaseName d.currentPhase
  let failedPhaseOrder := host.getOrderForPhaseName d.lastFailedPhase
  let latestCompletedPhaseOrder := host.latestCompletedPhaseOrder snapshot.completedPhases
  let host := host.populateScalars d
  let host :=
    if currentPhaseOrder ≠ -1 then host.populatePhaseObj now currentPhaseOrder d.operation
      executingState
    else host
  let host :=
    if failedPhaseOrder ≠ -1 then host.populatePhaseObj now failedPhaseOrder d.operation failedState
    else host
  if latestCompletedPhaseOrder ≠ -1 then
    host.rangePhases fun p host =>
      if p.order ≤ latestCompletedPhaseOrder then host.populatePhaseObj now p.order d.operation runningState
      else if p.status ≠ notStartedState then host.populatePhaseObj now p.order d.operation stoppedState
      else host
  else if ¬ host.status.serviceState then
    host.rangePhases fun p host => host.populatePhaseObj now p.order d.operation stoppedState
  else host

end Host
end Nodelet.Sunpike
