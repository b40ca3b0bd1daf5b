import Nodelet.ExtensionData
import Nodelet.Go.JsonStruct
import Nodelet.Go.Lines
import Nodelet.Go.Map
import Nodelet.KubeEnv

/-! The extension file as `Load` reads and writes it: a JSON object, or lines of a key and a value
that are converted once. Its contents are a text in UTF-8. -/
namespace Nodelet.Extension
open Constants
open Go.JsonStruct (Struct Strings marshal)
open Go.Map (Visits)
open KubeEnvMap (trimSpace)

/-- The data with its slices as the decoder sees them. Those of `data` stay empty. -/
structure Loaded where
  data : ExtensionData
  allStatusChecks : Strings := {}
  allPhases : Strings := {}
  completedPhases : Strings := {}
  deriving DecidableEq, Repr

namespace Loaded

def new : Loaded := { data := .new }

def string (name : String) (get : ExtensionData → String)
    (set : String → ExtensionData → ExtensionData) : Go.JsonStruct.Field Loaded where
  name
  kind := .string
  get l := get l.data
  set v l := { l with data := set v l.data }

def int (name : String) (get : ExtensionData → Int) (set : Int → ExtensionData → ExtensionData) :
    Go.JsonStruct.Field Loaded where
  name
  kind := .int
  get l := get l.data
  set v l := { l with data := set v l.data }

def strings (name : String) (get : Loaded → Strings) (set : Strings → Loaded → Loaded) :
    Go.JsonStruct.Field Loaded where
  name
  kind := .strings
  get
  set

def fields : List (Go.JsonStruct.Field Loaded) :=
  [string "pf9_kube_service_state" (·.serviceState) fun v d => { d with serviceState := v },
   string "pf9_kube_node_state" (·.nodeState) fun v d => { d with nodeState := v },
   int "pf9_kube_start_attempt" (·.startAttempts) fun v d => { d with startAttempts := v },
   string "pf9_cluster_id" (·.clusterID) fun v d => { d with clusterID := v },
   string "pf9_cluster_role" (·.clusterRole) fun v d => { d with clusterRole := v },
   strings "all_status_checks" (·.allStatusChecks) fun v l => { l with allStatusChecks := v },
   strings "all_tasks" (·.allPhases) fun v l => { l with allPhases := v },
   strings "completed_tasks" (·.completedPhases) fun v l => { l with completedPhases := v },
   string "current_status_check" (·.currentStatusCheck) fun v d =>
     { d with currentStatusCheck := v },
   string "current_task" (·.currentPhase) fun v d => { d with currentPhase := v },
   string "last_failed_status_check" (·.lastFailedCheck) fun v d => { d with lastFailedCheck := v },
   int "last_failed_status_time" (·.lastFailedCheckTime) fun v d =>
     { d with lastFailedCheckTime := v },
   string "last_failed_task" (·.lastFailedPhase) fun v d => { d with lastFailedPhase := v },
   int "status_check_timestamp" (·.currentStatusCheckTime) fun v d =>
     { d with currentStatusCheckTime := v }]

/-- The fields that are written to the file. -/
def struct : Struct Loaded where
  fields := fields
  distinct := by decide
  get_set := by simp [fields, string, int, strings]
  independent := by
    repeat' first
      | exact .nil
      | exact List.forall_mem_nil _
      | refine .cons ?_ ?_
      | refine List.forall_mem_cons.mpr ⟨⟨fun _ _ => rfl, fun _ _ => rfl⟩, ?_⟩

/-- One key of the old format. -/
def convertOldField (l : Loaded) (entry : String × String) : Loaded where
  data := l.data.convertOldField entry
  allStatusChecks := if entry.1 = "all_status_checks" then .empty else l.allStatusChecks
  allPhases := if entry.1 = "all_tasks" then .empty else l.allPhases
  completedPhases := if entry.1 = "completed_tasks" then .empty else l.completedPhases

def populateExtraFields (cfg : Config) (l : Loaded) : Loaded :=
    { l with data := l.data.populateExtraFields cfg }

def convertNodeState (l : Loaded) : Loaded := { l with data := l.data.convertNodeState }

/-- `Write` changes the data too. -/
def write (cfg : Config) (l : Loaded) : Loaded × List Char :=
  let l := l.populateExtraFields cfg
  (l, marshal struct l)

/-- The loop over the map, in the order in which it is visited. -/
def convertExtnDataToJSON (cfg : Config) (l : Loaded) (order : List (String × String)) :
    Loaded × List Char :=
  (order.foldl convertOldField l).write cfg

end Loaded

/-- The key and the value of a line; a value that is missing is empty. -/
def oldEntry (line : List Char) : Option (String × String) :=
  let line := (trimSpace (String.ofList line)).toList
  if line = [] ∨ line.head? = some '#' then none
  else
    some (trimSpace (String.ofList (line.takeWhile (· ≠ ' '))),
      trimSpace (String.ofList ((line.dropWhile (· ≠ ' ')).drop 1)))

def getOldExtensionData (lines : List (List Char)) : Go.Map String String :=
  Go.Map.ofEntries (lines.filterMap oldEntry)

/-- The data and the file after `Load` on new data. The pointer to the data is nil after `null`. -/
def load (cfg : Config) (contents : List Char) (order : List (String × String)) :
    Except Go.Halt (Loaded × List Char) :=
  match Go.JsonStruct.unmarshal Loaded.struct contents .new with
  | none => .error (.panic .nilDereference)
  | some (l, false) => .ok (l.convertNodeState, contents)
  | some (l, true) =>
    let (l, contents) := l.convertExtnDataToJSON cfg order
    .ok (l.convertNodeState, contents)

/-- The order is one in which the map of the old format may be visited. -/
def Iterates (contents : List Char) (order : List (String × String)) : Prop :=
  Visits (getOldExtensionData (Go.readLines contents)) order

end Nodelet.Extension
