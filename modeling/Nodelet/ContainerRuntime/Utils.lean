import Nodelet.Go.Remote
import Nodelet.Go.Time

/-! Stopping and removing the containers of containerd. A container is looked at through its task,
which may be gone by the next call; every call may fail. -/
namespace Nodelet.ContainerRuntime
open Go (Error Remote)

/-- An error of containerd, and what `errdefs.IsNotFound` says about it. -/
structure Fault where
  err : Error
  isNotFound : Bool
  deriving DecidableEq, Repr

/-- The `ProcessStatus` of a task. -/
inductive Status where
  | created
  | running
  | stopped
  | paused
  | pausing
  | unknown
  deriving DecidableEq, Repr

def Status.text : Status → String
  | created => "created"
  | running => "running"
  | stopped => "stopped"
  | paused => "paused"
  | pausing => "pausing"
  | unknown => "unknown"

inductive Signal where
  | sigterm
  | sigkill
  deriving DecidableEq, Repr

/-- A container in the namespace of the context that its methods are called with. -/
structure Container where
  ns : String
  id : String
  deriving DecidableEq, Repr

/-- The channel that `task.Wait` returns: one status is sent to it, and then it is closed. -/
inductive ExitChannel where
  | pending
  | closed
  deriving DecidableEq, Repr

/-- The case that a `select` takes: the context is done, with what `ctx.Err` then returns, or a
status with this error was received. -/
inductive Selected where
  | done (err : Option Error)
  | received (status : Option Error)
  deriving DecidableEq, Repr

inductive Request where
  | containers (ns : String)
  | task (container : Container)
  | taskStatus (container : Container)
  | taskWait (container : Container)
  | taskKill (container : Container) (signal : Signal)
  | taskResume (container : Container)
  | taskDelete (container : Container) (withProcessKill : Bool)
  /-- The receive from the channel that `task.Wait` returned. -/
  | exit (container : Container)
  | select (container : Container) (withTimeout : Bool) (exitCh : ExitChannel)
  | ctxErr
  | image (container : Container)
  | delete (container : Container) (withSnapshotCleanup : Bool)
  deriving DecidableEq, Repr

def Request.Answer : Request → Type
  | .containers _ => Except Error (List String)
  | .taskStatus _ => Except Fault Status
  | .exit _ => Unit
  | .select _ _ _ => Selected
  | .ctxErr => Option Error
  | _ => Option Fault

abbrev Operation := Remote Request Request.Answer
abbrev Event := Go.Resumption.Event Request.Answer

def perform (request : Request) : Operation request.Answer :=
    ExceptT.lift (Go.Resumption.perform request)

def orFail : Option Fault → Operation Unit
  | some fault => throw fault.err
  | none => pure ()

def orFailWith : Option Error → Operation Unit
  | some err => throw err
  | none => pure ()

def getContainersInNamespace (ns : String) : Operation (List Container) := do
  match (← perform (.containers ns) : Except Error (List String)) with
  | .error err => throw err
  | .ok ids => return ids.map (Container.mk ns)

/-- What is returned, and what is left of the channel. A closed one gives the zero status, which has
no error. -/
def Selected.result (id : String) (exitCh : ExitChannel) : Selected → Option Error × ExitChannel
  | .done err => (err.map (("wait container " ++ id ++ ": ") ++ ·), exitCh)
  | .received status => (if exitCh = .closed then none else status, .closed)

def waitContainerStop (container : Container) (withTimeout : Bool) (exitCh : ExitChannel) :
    Operation (Option Error × ExitChannel) := do
  let selected : Selected ← perform (.select container withTimeout exitCh)
  return selected.result container.id exitCh

namespace StopContainer

/-- From SIGKILL on. -/
def kill (container : Container) (paused : Bool) (exitCh : ExitChannel) : Operation Unit := do
  orFail (← perform (.taskKill container .sigkill))
  -- a task that cannot be resumed is waited for all the same
  if paused then let _ ← perform (.taskResume container)
  let (err, _) ← waitContainerStop container false exitCh
  orFailWith err

def terminate (container : Container) (timeout : Int) (paused : Bool) : Operation Unit := do
  orFail (← perform (.taskWait container))
  if timeout > 0 then
    orFail (← perform (.taskKill container .sigterm))
    let refused : Option Fault ← if paused then perform (.taskResume container) else pure none
    let (err, exitCh) ← waitContainerStop container true .pending
    match err with
    | none => return
    | some _ =>
      orFailWith (← perform .ctxErr)
      kill container refused.isSome exitCh
  else kill container paused .pending

end StopContainer

/-- The timeout is a text of whole seconds. -/
def stopContainer (container : Container) (seconds : Int) : Operation Unit := do
  match Go.Time.parseSeconds seconds with
  | .error err => throw err
  | .ok timeout =>
    match (← perform (.task container) : Option Fault) with
    | some fault => if fault.isNotFound then return else throw fault.err
    | none =>
      match (← perform (.taskStatus container) : Except Fault Status) with
      | .error fault => throw fault.err
      | .ok .created | .ok .stopped => return
      | .ok .paused | .ok .pausing => StopContainer.terminate container timeout true
      | .ok .running | .ok .unknown => StopContainer.terminate container timeout false

namespace RemoveContainer

/-- A container without a task. -/
def deleteDirectly (container : Container) : Operation Unit := do
  match (← perform (.delete container true) : Option Fault) with
  | none => return
  | some _ =>
    match (← perform (.delete container false) : Option Fault) with
    | none => return
    | some fault => if fault.isNotFound then return else throw fault.err

def deleteTask (container : Container) (withProcessKill : Bool) : Operation Unit := do
  match (← perform (.taskDelete container withProcessKill) : Option Fault) with
  | none => return
  | some fault =>
    if fault.isNotFound then return
      else throw ("failed to delete task " ++ container.id ++ ": " ++ fault.err)

def unforced (container : Container) (status : Status) (advice : String) : Operation Unit :=
  throw ("you cannot remove a " ++ status.text ++ " container " ++ container.id ++ ". " ++ advice ++
    " the container before attempting removal or force remove")

def endTask (container : Container) (force : Bool) : Status → Operation Unit
  | .created | .stopped => deleteTask container false
  | .paused => do
    if ¬ force then unforced container .paused "Unpause"
    deleteTask container true
  | status => do
    if ¬ force then unforced container status "Stop"
    match (← perform (.taskKill container .sigkill) : Option Fault) with
    | some _ => throw "failed to send SIGKILL"
    | none =>
      match (← perform (.taskWait container) : Option Fault) with
      | none => perform (.exit container)
      | some _ => pure ()
      deleteTask container true

end RemoveContainer

def removeContainer (container : Container) (force : Bool) : Operation Unit := do
  match (← perform (.task container) : Option Fault) with
  | some fault => if fault.isNotFound then RemoveContainer.deleteDirectly container else throw fault.err
  | none =>
    match (← perform (.taskStatus container) : Except Fault Status) with
    -- the container of a task that has just gone is left
    | .error fault => if fault.isNotFound then return else throw fault.err
    | .ok status =>
      RemoveContainer.endTask container force status
      let image : Option Fault ← perform (.image container)
      orFail (← perform (.delete container image.isNone))

/-- What fails for one container is logged, and the next one is taken. -/
def ensureContainersDestroyed (seconds : Int) : List Container → Operation Unit
  | [] => pure ()
  | container :: rest => do
    let _ ← ExceptT.lift (ExceptT.run do
      stopContainer container seconds
      removeContainer container true)
    ensureContainersDestroyed seconds rest

/-- The constant `TimeOut`, in seconds. -/
def timeOut : Int := 10

def destroyContainersInNamespace (ns : String) : Operation Unit := do
  let containers ← Remote.annotate ("error getting containers in namespace: " ++ ns ++ " : ")
    (getContainersInNamespace ns)
  Remote.annotate ("could not destroy containers in namespace: " ++ ns ++ ": ")
    (ensureContainersDestroyed timeOut containers)

/-- The loop returns in its first round. -/
def destroyContainersInNamespacesList : List String → Operation Unit
  | [] => pure ()
  | ns :: _ => destroyContainersInNamespace ns

end Nodelet.ContainerRuntime
