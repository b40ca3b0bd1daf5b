import Nodelet.ContainerRuntime.Utils
import Nodelet.Go.Wlp

/-! The container of one name, from its creation to its removal. Its process may end at any time,
and every call to containerd may fail. -/
namespace Nodelet.ContainerRuntime
open Go (Error Remote)

def getContainerWithGivenName (ns containerName : String) : Operation (Option Container) := do
  return (← getContainersInNamespace ns).find? (·.id = containerName)

def ensureContainerDestroyed (ns containerName : String) (seconds : Int) : Operation Unit := do
  match ← getContainerWithGivenName ns containerName with
  | none => return
  | some container =>
    Remote.annotate ("couldn't stop the container: " ++ container.id ++ ": ")
      (stopContainer container seconds)
    Remote.annotate ("couldn't remove the container: " ++ container.id ++ ": ")
      (removeContainer container true)

def ensureContainerStoppedOrNonExistent (ns containerName : String) : Operation Unit := do
  match ← getContainerWithGivenName ns containerName with
  | none => return
  | some container =>
    Remote.annotate ("couldn't stop the container: " ++ container.id ++ ": ")
      (stopContainer container 10)

namespace Lifecycle

/-- The requests that create a container and run it, beside the others. -/
inductive Request where
  | other (request : ContainerRuntime.Request)
  | getImage (containerImage : String)
  | pull (containerImage : String)
  | newContainer (container : Container) (image : String)
  | newTask (container : Container)
  | taskStart (container : Container)
  /-- The receive from the channel that `task.Wait` returned, with the code of the exit. -/
  | exitStatus (container : Container)
  deriving DecidableEq, Repr

def Request.Answer : Request → Type
  | .other request => request.Answer
  | .exitStatus _ => Except Error Nat
  | .getImage _ | .pull _ | .newContainer _ _ | .newTask _ | .taskStart _ => Option Error

abbrev Operation := Remote Request Request.Answer

def perform (request : Request) : Operation request.Answer :=
    ExceptT.lift (Go.Resumption.perform request)

def lift (operation : ContainerRuntime.Operation α) : Operation α :=
  ExceptT.mk (operation.run.translate fun request => Go.Resumption.perform (.other request))

def orFail : Option Error → Operation Unit
  | some err => throw err
  | none => pure ()

def createContainer (container : Container) (containerImage : String) : Operation Unit := do
  match (← perform (.getImage containerImage) : Option Error) with
  | none => orFail (← perform (.newContainer container containerImage))
  | some _ =>
    match (← perform (.pull containerImage) : Option Error) with
    | some err => throw ("couldn't pull image:" ++ containerImage ++ ": " ++ err)
    | none => orFail (← perform (.newContainer container containerImage))

/-- The function waits until the container that it has started ends. -/
def ensureFreshContainerRunning (ns containerName containerImage : String) : Operation Unit := do
  let container : Container := ⟨ns, containerName⟩
  lift (ensureContainerDestroyed ns containerName timeOut)
  Remote.annotate ("failed to create container:" ++ containerName ++ ": ")
    (createContainer container containerImage)
  orFail (← perform (.newTask container))
  lift (ContainerRuntime.orFail (← perform (.other (.taskWait container))))
  orFail (← perform (.taskStart container))
  match (← perform (.exitStatus container) : Except Error Nat) with
  | .error err => throw err
  | .ok code => if code ≠ 0 then throw ("task creation process exited with status code: " ++ toString code) else pure ()

end Lifecycle

section Daemon

structure Task where
  status : Status
  exitCode : Nat
  deriving DecidableEq, Repr

/-- A container; those that have the name one after the other are told apart by their number. -/
structure Incarnation where
  number : Nat
  image : String
  task : Option Task
  deriving DecidableEq, Repr

structure Daemon where
  /-- The number of the next container that is created. -/
  next : Nat
  container : Container → Option Incarnation

def Daemon.set (s : Daemon) (container : Container) (incarnation : Option Incarnation) : Daemon :=
  { s with container := Function.update s.container container incarnation }

/-- The process of a task may have ended. -/
def Drift (before after : Option Incarnation) : Prop :=
  after = before ∨ ∃ incarnation task code, before = some incarnation ∧
    incarnation.task = some task ∧
    task.status ≠ .stopped ∧ after = some { incarnation with task := some ⟨.stopped, code⟩ }

def HasTask (incarnation : Option Incarnation) : Prop :=
    ∃ i task, incarnation = some i ∧ i.task = some task

/-- No process of the container runs. -/
def Idle (incarnation : Option Incarnation) : Prop :=
  ∀ i task, incarnation = some i → i.task = some task → task.status = .created ∨
    task.status = .stopped

def resumed (task : Task) : Task :=
  if task.status = .paused ∨ task.status = .pausing then { task with status := .running } else task

/-- A request that changes the container, and that may have been carried out although it failed. -/
def Attempts (err : Option Error) (s : Daemon) (done : Daemon → Prop) (t : Daemon) : Prop :=
  done t ∨ err ≠ none ∧ t = s

/-- The same, where an error may say that there is no such thing. -/
def AttemptsUnless (absent : Prop) (answer : Option Fault) (s : Daemon) (done : Daemon → Prop)
    (t : Daemon) : Prop :=
  Attempts (answer.map Fault.err) s done t ∧ ∀ fault, answer = some fault →
    fault.isNotFound = true → absent ∧ t = s

/-- What containerd does on a request. -/
def Handles (s : Daemon) : Go.Resumption.Event Lifecycle.Request.Answer → Daemon → Prop
  | ⟨.other (.containers ns), answer⟩, t =>
    t = s ∧ ∀ ids, (answer : Except Error (List String)) = .ok ids → ∀ id, id ∈ ids ↔
      s.container ⟨ns, id⟩ ≠ none
  | ⟨.other (.task c), answer⟩, t => t = s ∧
    ((answer : Option Fault) = none → HasTask (s.container c)) ∧
      ∀ fault, (answer : Option Fault) = some fault → fault.isNotFound = true → ¬ HasTask (s.container c)
  | ⟨.other (.taskStatus c), answer⟩, t => t = s ∧
      (∀ status, (answer : Except Fault Status) = .ok status →
        ∃ i code, s.container c = some i ∧ i.task = some ⟨status, code⟩) ∧
      ∀ fault, (answer : Except Fault Status) = .error fault → fault.isNotFound = true → ¬ HasTask (s.container c)
  | ⟨.other (.taskResume c), answer⟩, t =>
    Attempts ((answer : Option Fault).map Fault.err) s (fun t =>
      t = s.set c ((s.container c).map fun i => { i with task := i.task.map resumed })) t
  | ⟨.other (.taskDelete c _), answer⟩, t => AttemptsUnless (¬ HasTask (s.container c)) answer s
      (fun t => t = s.set c ((s.container c).map fun i => { i with task := none })) t
  | ⟨.other (.select c _ exitCh), answer⟩, t => t = s ∧ (answer : Selected) ≠ .done none ∧
      (exitCh = .pending → (answer : Selected) = .received none →
        ∀ i task, s.container c = some i → i.task = some task → task.status = .stopped)
  | ⟨.other (.delete c _), answer⟩, t => AttemptsUnless (s.container c = none) answer s
      (fun t => ¬ HasTask (s.container c) ∧ t = s.set c none) t
  | ⟨.newContainer c image, err⟩, t => Attempts err s
      (fun t => s.container c = none ∧ t = { s.set c (some ⟨s.next, image, none⟩) with next := s.next + 1 }) t
  | ⟨.newTask c, err⟩, t => Attempts err s (fun t => ∃ i, s.container c = some i ∧ i.task = none ∧
      t = s.set c (some { i with task := some ⟨.created, 0⟩ })) t
  | ⟨.taskStart c, err⟩, t => Attempts err s (fun t => ∃ i code, s.container c = some i ∧
      i.task = some ⟨.created, code⟩ ∧ t = s.set c (some { i with task := some ⟨.running, 0⟩ })) t
  | ⟨.exitStatus c, answer⟩, t => t = s ∧ ∀ code, (answer : Except Error Nat) = .ok code →
      ∃ i, s.container c = some i ∧ i.task = some ⟨.stopped, code⟩
  | _, t => t = s

/-- Before a request is handled, processes may have ended. -/
def Serves (s : Daemon) (event : Go.Resumption.Event Lifecycle.Request.Answer) (t : Daemon) :
    Prop :=
  ∃ middle : Daemon, middle.next = s.next ∧ (∀ c, Drift (s.container c) (middle.container c)) ∧
    Handles middle event t

end Daemon
end Nodelet.ContainerRuntime
