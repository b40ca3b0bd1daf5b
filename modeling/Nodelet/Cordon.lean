import Nodelet.Go.Program
import Nodelet.Go.Resumption
import Mathlib.Data.List.Induction

/-! The phases that cordon and uncordon the node around a restart of the stack. Who
cordoned the node is not recorded; it is inferred from two annotations. Every call of
the Kubernetes API is a step of its own, in between which the user may act. -/
namespace Nodelet.Cordon

/-- The two annotations; each counts where its value is the text "true". -/
structure Annotations where
  userNodeCordon : Bool := false
  kubeStackShutDown : Bool := false
  deriving DecidableEq, Repr

structure Node where
  unschedulable : Bool := false
  annotations : Option Annotations := none
  resourceVersion : Nat := 0
  deriving DecidableEq, Repr

namespace Node

def userNodeCordon (node : Node) : Bool := (node.annotations.getD {}).userNodeCordon
def kubeStackShutDown (node : Node) : Bool := (node.annotations.getD {}).kubeStackShutDown

/-- The API server numbers every change. -/
def touched (node : Node) : Node := { node with resourceVersion := node.resourceVersion + 1 }

end Node

/-- What the phases ask for. An update carries the version it was read at. -/
inductive Request where
  | newClient
  | getNodeIdentifier
  | k8sApiAvailable
  | statStartFileMarker
  | getNode
  | updateNode (node : Node)
  | patchUnschedulable (desired : Bool)
  | runNodeDrain
  | preventAutoReattach
  deriving DecidableEq, Repr

@[reducible] def Request.Answer : Request → Type
  | .getNodeIdentifier => String
  | .statStartFileMarker => Bool
  | .getNode => Node
  | _ => Unit

abbrev Api := Go.Resumption Request Request.Answer

/-- How an operation of a phase ended; `looked` says whether it went as far as the cordon. -/
inductive Outcome where
  | returned (looked : Bool)
  | failed (err : Go.Error)
  deriving DecidableEq, Repr

abbrev ask (request : Request) : Api request.Answer := Go.Resumption.perform request

section Operations

def addAnnotationsToNode (add : Annotations → Annotations) : Api Unit := do
  let node ← ask .getNode
  ask (.updateNode { node with annotations := some (add (node.annotations.getD {})) })

def removeAnnotationsFromNode (remove : Annotations → Annotations) : Api Unit := do
  let node ← ask .getNode
  match node.annotations with
  | none => pure ()
  | some annotations => ask (.updateNode { node with annotations := some (remove annotations) })

/-- `drain.RunCordonOrUncordon`: a patch of this one field, unless the node that was
read has it already. -/
def runCordonOrUncordon (node : Node) (desired : Bool) : Api Unit :=
  if node.unschedulable = desired then pure () else ask (.patchUnschedulable desired)

/-- Read the node, and cordon or uncordon it. -/
def cordonOrUncordonNode (desired : Bool) : Api Unit := do
  let node ← ask .getNode
  runCordonOrUncordon node desired

def drainNodeFromApiServer : Api Unit := do
  cordonOrUncordonNode true
  ask .runNodeDrain

def uncordonNode : Api Unit := cordonOrUncordonNode false

def loopBackIpString := "127.0.0.1"

namespace UncordonNodePhase

def status : Api Outcome := do
  ask .newClient
  let _ ← ask .getNodeIdentifier
  let booting ← ask .statStartFileMarker
  if booting then return .returned false
  let node ← ask .getNode
  -- the node was cordoned by the agent
  if node.kubeStackShutDown then return .returned false
  if node.unschedulable then
    addAnnotationsToNode fun annotations => { annotations with userNodeCordon := true }
  else
    removeAnnotationsFromNode fun annotations => { annotations with userNodeCordon := false }
  return .returned true

def start : Api Outcome := do
  ask .newClient
  let nodeIdentifier ← ask .getNodeIdentifier
  if nodeIdentifier = loopBackIpString then
    return .failed "node interface might have lost IP address. Failing"
  removeAnnotationsFromNode fun annotations => { annotations with kubeStackShutDown := false }
  let node ← ask .getNode
  if node.userNodeCordon then return .returned true
  uncordonNode
  ask .preventAutoReattach
  return .returned true

end UncordonNodePhase

def DrainNodePhase.stop : Api Outcome := do
  ask .newClient
  ask .k8sApiAvailable
  let _ ← ask .getNodeIdentifier
  drainNodeFromApiServer
  addAnnotationsToNode fun annotations => { annotations with kubeStackShutDown := true }
  return .returned true

end Operations

/-- The operations that touch the cordon. -/
inductive Operation where
  | status
  | stop
  | start
  deriving DecidableEq, Repr

def Operation.program : Operation → Api Outcome
  | .status => UncordonNodePhase.status
  | .stop => DrainNodePhase.stop
  | .start => UncordonNodePhase.start

inductive UserAction where
  | cordon
  | uncordon
  deriving DecidableEq, Repr

/-- The node, and what the user did last. A Status that ran from its beginning to its end after
that, and went as far as the cordon, has noticed it. -/
structure Cluster where
  node : Node := {}
  lastAction : Option UserAction := none
  noticed : Bool := true
  /-- The user has not acted since the current operation began. -/
  undisturbed : Bool := true
  deriving DecidableEq, Repr

namespace Cluster

def act (c : Cluster) (action : UserAction) : Cluster where
  node := { c.node with unschedulable := action = UserAction.cordon }.touched
  lastAction := some action
  noticed := false
  undisturbed := false

/-- The user wants the node cordoned. -/
def cordoned (c : Cluster) : Prop := c.lastAction = some .cordon

/-- A Status that looked at the cordon has noticed the user's last action. -/
def finish (c : Cluster) : Operation → Outcome → Cluster
  | .status, .returned true => { c with noticed := c.noticed || c.undisturbed }
  | _, _ => c

end Cluster

/-- What a successful answer leaves open. -/
structure Reply where
  nodeIdentifier : String := ""
  booting : Bool := false
  deriving DecidableEq, Repr

/-- The answer of a service that does not fail, and the node after it. An update of an old
version is refused. -/
def serve (reply : Reply) : (request : Request) → Node → Option (request.Answer × Node)
  | .newClient, node => some ((), node)
  | .getNodeIdentifier, node => some (reply.nodeIdentifier, node)
  | .k8sApiAvailable, node => some ((), node)
  | .statStartFileMarker, node => some (reply.booting, node)
  | .getNode, node => some (node, node)
  | .updateNode changed, node =>
    if changed.resourceVersion = node.resourceVersion then some ((), changed.touched) else none
  | .patchUnschedulable desired, node => some ((), { node with unschedulable := desired }.touched)
  | .runNodeDrain, node => some ((), node)
  | .preventAutoReattach, node => some ((), node)

/-- The cluster, and the operation that is under way. -/
structure System where
  cluster : Cluster := {}
  running : Option (Operation × Api Outcome) := none

/-- What happens next. A call that fails may have taken effect all the same. -/
inductive Choice where
  | user (action : UserAction)
  | begin (operation : Operation)
  | answer (reply : Reply)
  | fail (effect : Option Reply)
  | finish
  deriving DecidableEq, Repr

def step : Choice → System → Option System
  | .user action, s => some { s with cluster := s.cluster.act action }
  | .begin operation, s =>
    match s.running with
    | none => some ⟨{ s.cluster with undisturbed := true }, some (operation, operation.program)⟩
    | some _ => none
  | .answer reply, s =>
    match s.running with
    | some (operation, .call request next) =>
      (serve reply request s.cluster.node).map fun served =>
        ⟨{ s.cluster with node := served.2 }, some (operation, next served.1)⟩
    | _ => none
  | .fail effect, s =>
    match s.running with
    | some (_, .call request _) =>
      match effect with
      | none => some ⟨s.cluster, none⟩
      | some reply =>
        (serve reply request s.cluster.node).map fun served => ⟨{ s.cluster with node := served.2 }, none⟩
    | _ => none
  | .finish, s =>
    match s.running with
    | some (operation, .done outcome) => some ⟨s.cluster.finish operation outcome, none⟩
    | _ => none

/-- The states that are reached by steps which are all allowed where they are taken. -/
inductive Run (allowed : Choice → System → Prop) (s : System) : System → Prop where
  | refl : Run allowed s s
  | next : Run allowed s t → allowed choice t → step choice t = some u → Run allowed s u

/-- Take these steps in turn, each only where it is allowed. -/
def runChoices (allowed : Choice → System → Prop) [∀ choice s, Decidable (allowed choice s)]
    (choices : List Choice) (s : System) : Option System :=
  choices.foldlM (fun s choice => if allowed choice s then step choice s else none) s

theorem runChoices_run {allowed : Choice → System → Prop} [∀ choice s, Decidable (allowed choice s)]
    {s t : System} (ran : runChoices allowed choices s = some t) : Run allowed s t := by
  induction choices using List.reverseRecOn generalizing t with
  | nil =>
    cases ran
    exact .refl
  | append_singleton earlier choice ih =>
    rw [runChoices, List.foldlM_append] at ran
    obtain ⟨middle, before, last⟩ := Option.bind_eq_some_iff.mp ran
    simp only [List.foldlM_cons, List.foldlM_nil, bind_pure] at last
    split_ifs at last with permitted
    exact .next (ih before) permitted last

inductive Stepped : Choice → System → System → Prop where
  | user (action : UserAction) : Stepped (.user action) ⟨c, running⟩ ⟨c.act action, running⟩
  | begin (operation : Operation) :
      Stepped (.begin operation) ⟨c, none⟩ ⟨{ c with undisturbed := true }, some (operation, operation.program)⟩
  | answered (served : serve reply request c.node = some (answer, node)) :
      Stepped (.answer reply) ⟨c, some (operation, .call request next)⟩
        ⟨{ c with node := node }, some (operation, next answer)⟩
  | failed : Stepped (.fail none) ⟨c, some (operation, .call request next)⟩ ⟨c, none⟩
  | failedLate (served : serve reply request c.node = some (answer, node)) :
      Stepped (.fail (some reply)) ⟨c, some (operation, .call request next)⟩ ⟨{ c with node := node }, none⟩
  | finished :
    Stepped .finish ⟨c, some (operation, .done outcome)⟩ ⟨c.finish operation outcome, none⟩

theorem step_stepped {s t : System} (taken : step choice s = some t) : Stepped choice s t := by
  obtain ⟨c, running⟩ := s
  cases choice with
  | user action =>
    cases taken
    exact .user action
  | begin operation =>
    cases running with
    | none =>
      cases taken
      exact .begin operation
    | some current => contradiction
  | answer reply =>
    match running with
    | some (operation, .call request next) =>
      obtain ⟨⟨answer, node⟩, served, rfl⟩ := Option.map_eq_some_iff.mp taken
      exact .answered served
  | fail effect =>
    match running, effect with
    | some (operation, .call request next), none =>
      cases taken
      exact .failed
    | some (operation, .call request next), some reply =>
      obtain ⟨⟨answer, node⟩, served, rfl⟩ := Option.map_eq_some_iff.mp taken
      exact .failedLate served
  | finish =>
    match running with
    | some (operation, .done outcome) =>
      cases taken
      exact .finished

end Nodelet.Cordon
