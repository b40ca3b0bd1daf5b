import Nodelet.Config
import Nodelet.Go.Slice
import Nodelet.Go.Strconv

/-! The state the agent persists to its extension file and reports to Sunpike.
The slices of phase names keep their headers, since the reconciler reslices and
appends to them; their elements live in a separate heap. -/
namespace Nodelet
open Constants

/-- The operation the agent is executing; `unset` is the zero value. -/
inductive Operation where
  | unset
  | start
  | status
  | stop
  deriving DecidableEq, Repr

structure ExtensionData where
  serviceState : String := ""
  nodeState : String := ""
  startAttempts : Int := 0
  clusterID : String := ""
  clusterRole : String := ""
  allStatusChecks : List String := []
  allPhases : Go.Slice := .empty
  completedPhases : Go.Slice := .empty
  currentStatusCheck : String := ""
  currentPhase : String := ""
  lastFailedCheck : String := ""
  lastFailedCheckTime : Int := 0
  lastFailedPhase : String := ""
  currentStatusCheckTime : Int := 0
  operation : Operation := .unset
  kubeRunning : Bool := false
  /-- Index of the first status check in the chain that failed. -/
  failedStatusCheck : Int := 0
  lastSuccessfulStatus : Int := Go.Time.zero
  /-- Index of the start phase in the chain that failed, or -1. -/
  startFailStep : Int := 0
  deriving DecidableEq, Repr

namespace ExtensionData

/-- `extensionfile.New`. -/
def new : ExtensionData where
  nodeState := convergingState
  startAttempts := 1

def setNodeState (d : ExtensionData) (nodeState : String) : ExtensionData :=
  { d with nodeState := nodeState }

/-- The node state a write records. There is no case for zero start attempts. -/
def nodeStateFor (cfg : Config) (d : ExtensionData) : String :=
  if d.serviceState = serviceStateTrue then okState
  else if cfg.kubeServiceState = serviceStateTrue ∧ ¬ d.kubeRunning ∨
      cfg.kubeServiceState = serviceStateFalse ∧ d.kubeRunning then
    if d.startAttempts = 1 then convergingState
    else if 1 < d.startAttempts ∧ d.startAttempts ≤ numRetriesForErrorState then retryingState
    else if numRetriesForErrorState < d.startAttempts then errorState
    else d.nodeState
  else if cfg.kubeServiceState = serviceStateTrue ∧ d.kubeRunning ∨
      cfg.kubeServiceState = serviceStateFalse ∧ ¬ d.kubeRunning then okState
  else d.nodeState

def reapFailedCheck (d : ExtensionData) : ExtensionData :=
  if Go.wrapInt64 (d.currentStatusCheckTime - d.lastFailedCheckTime) ≥
    failedStatusCheckReapInterval then { d with lastFailedCheckTime := 0, lastFailedCheck := "" }
  else d

def populateExtraFields (cfg : Config) (d : ExtensionData) : ExtensionData :=
  d.reapFailedCheck.setNodeState (d.reapFailedCheck.nodeStateFor cfg)

def convertNodeState (d : ExtensionData) : ExtensionData :=
  if d.nodeState = okState then { d with nodeState := convergingState, startAttempts := 1 } else d

/-- One key of the line format used before the file was JSON. Fields whose
values changed meaning since then are dropped. -/
def convertOldField (d : ExtensionData) : String × String → ExtensionData
  | ("pf9_kube_service_state", value) => { d with serviceState := value }
  | ("pf9_kube_node_state", value) => { d with nodeState := value }
  | ("pf9_kube_start_attempt", value) => { d with startAttempts := (Go.atoi value).getD 0 }
  | ("pf9_cluster_id", value) => { d with clusterID := if value = "\"\"" then "" else value }
  | ("pf9_cluster_role", value) => { d with clusterRole := value }
  | ("all_status_checks", _) => { d with allStatusChecks := [] }
  | ("all_tasks", _) => { d with allPhases := .empty }
  | ("completed_tasks", _) => { d with completedPhases := .empty }
  | ("current_status_check", _) => { d with currentStatusCheck := "" }
  | ("current_task", _) => { d with currentPhase := "" }
  | ("last_failed_status_check", _) => { d with lastFailedCheck := "" }
  | ("last_failed_status_time", _) => { d with currentStatusCheckTime := 0 }
  | ("last_failed_task", _) => { d with lastFailedPhase := "" }
  | ("status_check_timestamp", _) => { d with currentStatusCheckTime := 0 }
  | _ => d

/-- `convertExtnDataToJSON`, up to the fields in memory; it ends with a write. -/
def convertExtnDataToJSON (cfg : Config) (d : ExtensionData) (oldData : List (String × String)) :
    ExtensionData :=
  (oldData.foldl convertOldField d).populateExtraFields cfg

/-- The fields a JSON object sets. Unlisted keys leave the field as it was. -/
structure JSONFields where
  serviceState : Option String := none
  nodeState : Option String := none
  startAttempts : Option Int := none
  clusterID : Option String := none
  clusterRole : Option String := none
  currentStatusCheck : Option String := none
  currentPhase : Option String := none
  lastFailedCheck : Option String := none
  lastFailedCheckTime : Option Int := none
  lastFailedPhase : Option String := none
  currentStatusCheckTime : Option Int := none

def decode (d : ExtensionData) (fields : JSONFields) : ExtensionData :=
  { d with
    serviceState := fields.serviceState.getD d.serviceState
    nodeState := fields.nodeState.getD d.nodeState
    startAttempts := fields.startAttempts.getD d.startAttempts
    clusterID := fields.clusterID.getD d.clusterID
    clusterRole := fields.clusterRole.getD d.clusterRole
    currentStatusCheck := fields.currentStatusCheck.getD d.currentStatusCheck
    currentPhase := fields.currentPhase.getD d.currentPhase
    lastFailedCheck := fields.lastFailedCheck.getD d.lastFailedCheck
    lastFailedCheckTime := fields.lastFailedCheckTime.getD d.lastFailedCheckTime
    lastFailedPhase := fields.lastFailedPhase.getD d.lastFailedPhase
    currentStatusCheckTime := fields.currentStatusCheckTime.getD d.currentStatusCheckTime }

end ExtensionData

/-- What reading the extension file as JSON gives. `Load` decodes through a
pointer to its receiver, which the text `null` sets to nil. A failed decoding
keeps the fields set before the error; `oldData` are then the lines of the old
format, in the order the parsed map is iterated. -/
inductive ExtensionFile where
  | null
  | object (fields : ExtensionData.JSONFields)
  | undecodable (fields : ExtensionData.JSONFields) (oldData : List (String × String))

/-- `ExtensionData.Load`. -/
def ExtensionData.load (cfg : Config) (d : ExtensionData) :
    ExtensionFile → Except Go.Halt ExtensionData
  | .null => .error (.panic .nilDereference)
  | .object fields => .ok (d.decode fields).convertNodeState
  | .undecodable fields oldData =>
      .ok ((d.decode fields).convertExtnDataToJSON cfg oldData).convertNodeState

/-- The fields that only the reconciler's own decisions change: a write or a
phase being started leaves them alone. -/
structure Control where
  serviceState : String
  startAttempts : Int
  clusterID : String
  clusterRole : String
  allPhases : Go.Slice
  operation : Operation
  kubeRunning : Bool
  failedStatusCheck : Int
  lastSuccessfulStatus : Int
  startFailStep : Int
  deriving DecidableEq, Repr

namespace ExtensionData

def control (d : ExtensionData) : Control where
  serviceState := d.serviceState
  startAttempts := d.startAttempts
  clusterID := d.clusterID
  clusterRole := d.clusterRole
  allPhases := d.allPhases
  operation := d.operation
  kubeRunning := d.kubeRunning
  failedStatusCheck := d.failedStatusCheck
  lastSuccessfulStatus := d.lastSuccessfulStatus
  startFailStep := d.startFailStep

@[simp] theorem reapFailedCheck_control (d : ExtensionData) :
    d.reapFailedCheck.control = d.control := by
  unfold reapFailedCheck
  split <;> rfl

@[simp] theorem reapFailedCheck_completedPhases (d : ExtensionData) :
    d.reapFailedCheck.completedPhases = d.completedPhases := by
  unfold reapFailedCheck
  split <;> rfl

@[simp] theorem populateExtraFields_control (cfg : Config) (d : ExtensionData) :
    (d.populateExtraFields cfg).control = d.control :=
  reapFailedCheck_control d

@[simp] theorem populateExtraFields_completedPhases (cfg : Config) (d : ExtensionData) :
    (d.populateExtraFields cfg).completedPhases = d.completedPhases :=
  reapFailedCheck_completedPhases d

end ExtensionData
end Nodelet
