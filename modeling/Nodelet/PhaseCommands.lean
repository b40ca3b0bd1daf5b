import Nodelet.PanicFree
import Nodelet.Reconcile.PhaseCalls

/-! `nodeletd phases`: the commands that start, stop, restart or check the stack by hand, from or
down to a phase. Each makes a process of its own, with a configuration that keeps it to itself. -/
namespace Nodelet
open Constants Sunpike
open Go (Returns)

/-- The flags of the commands. A phase is counted from one; zero stands for all of them. -/
structure PhasesOpts where
  phase : Int := 0
  verbose : Bool := false
  single : Bool := false
  force : Bool := false
  regenCerts : Bool := false

inductive PhasesCommand where
  | start
  | stop
  | restart
  | status
  deriving DecidableEq, Repr

/-- The surroundings of a command, which also runs others for their exit codes. -/
structure Terminal (W : Type) extends Outside W where
  exitCode : List String → W → Int × W

abbrev Table := List (List String)

/-- What a command leaves: its error, the table that it has displayed, and what it has done. -/
structure Displayed where
  err : Option Go.Error
  table : Option Table
  trace : List Event

/-- `phasesOpts.complete` up to the creation of the process. The error of `GetConfigFromDir` is
dropped, and the configuration that comes with it is a nil pointer where a file could not be
read. -/
def PhasesOpts.complete (o : PhasesOpts) (loaded : Option Config) : Except Go.Halt Config :=
  match loaded with
  | none => .error (.panic .nilDereference)
  | some cfg =>
    let own : Config := { cfg with
      debug := toString o.verbose
      disableConfigUpdate := true
      disableExtFile := true
      disableSunpike := true
      disableLoop := true
      pf9StatusThresholdSeconds := 0
      phaseRetry := 1 }
    .ok (own.merge defaultConfig)

/-- A phase index that is counted from zero, if there is such a phase. -/
def PhasesOpts.index (o : PhasesOpts) (numPhases : Nat) : Except Go.Error Int :=
  if o.phase > numPhases ∨
    o.phase < 0 then .error ("Invalid phase index number: " ++ toString o.phase)
  else .ok (if o.phase > 0 then o.phase - 1 else o.phase)

section Commands
variable {W : Type} (terminal : Terminal W)

def arePF9AgentsRunning (w : W) : Bool × W :=
  let (nodeletCheck, w) := terminal.exitCode ["systemctl", "status", "pf9-nodeletd"] w
  let (hostagentCheck, w) := terminal.exitCode ["systemctl", "status", "pf9-hostagent"] w
  (nodeletCheck = 0 ∨ hostagentCheck = 0, w)

def PhasesOpts.validate (o : PhasesOpts) (checkAgents : Bool) (numPhases : Nat)
    (m : Machine terminal.toOutside) : Except Go.Error Int × Machine terminal.toOutside :=
  if checkAgents then
    let (running, w) := arePF9AgentsRunning terminal m.outside
    if running then
      (.error ("cannot run this command while hostagent and/or nodeletd is running. " ++
        "Stop pf9-hostagent and pf9-nodeletd before retrying"), { m with outside := w })
    else (o.index numPhases, { m with outside := w })
  else (o.index numPhases, m)

/-- `SkipGenCertsPhase`: the stop chain takes itself for that of a restart, with no failed check. -/
def skipGenCertsPhase (s : State W) : State W :=
  { s with data := { s.data with operation := .start, failedStatusCheck := -1 } }

section Process
variable {outside : Outside W} (env : Env (Machine outside)) (cfg : Config) (phases : List Phase)

def startSinglePhase (idx : Int) : Go.Program (State (Machine outside)) (Option Go.Error) := do
  let phase ← Go.index phases idx
  let _ ← env.callStart cfg idx.toNat
  let s ← get
  let hostPhase ← Go.index s.world.hostPhases idx
  pure (if hostPhase.status = failedState then some ("failed to start phase " ++ phase.name)
    else none)

def stopSinglePhase (idx : Int) : Go.Program (State (Machine outside)) (Option Go.Error) := do
  let phase ← Go.index phases idx
  let _ ← env.callStop cfg idx.toNat
  let s ← get
  let hostPhase ← Go.index s.world.hostPhases idx
  pure (if hostPhase.status ≠
    stoppedState then some ("failed to cleanly stop phase: " ++ phase.name) else none)

def phasesStatus (s : State (Machine outside)) : Table :=
  (phases.zip s.world.hostPhases).zipIdx.map fun ((phase, hostPhase), i) =>
    [toString (i + 1), phase.name, hostPhase.status]

def PhasesOpts.start (o : PhasesOpts) (idx : Int) :
    Go.Program (State (Machine outside)) (Option Go.Error × Option Table) := do
  let err ←
    if o.single then startSinglePhase env cfg phases idx
    else do
      let (_, err) ← Nodelet.start env cfg phases idx
      pure err
  match err with
  | some err => pure (some ("Error starting phase: " ++ err), none)
  | none =>
    let s ← get
    pure (none, some (phasesStatus phases s))

def PhasesOpts.stop (o : PhasesOpts) (idx : Int) (isRestart : Bool) :
    Go.Program (State (Machine outside)) (Option Go.Error × Option Table) := do
  let err ← if o.single then stopSinglePhase env cfg phases idx
    else Nodelet.stop env cfg phases idx o.force
  let s ← get
  pure (err, if isRestart then none else some (phasesStatus phases s))

/-- A stop that fails does not keep the restart from starting. -/
def PhasesOpts.restart (o : PhasesOpts) (idx : Int) :
    Go.Program (State (Machine outside)) (Option Go.Error × Option Table) := do
  let _ ← o.stop env cfg phases idx true
  o.start env cfg phases idx

def statusCommand : Go.Program (State (Machine outside)) (Option Go.Error × Option Table) := do
  Nodelet.status env cfg phases
  let s ← get
  pure (if s.data.kubeRunning then none else some "Platform9 Kubernetes stack is not running",
    some (phasesStatus phases s))

/-- What a command does after its flags have been checked; the errors of start and stop are
dropped. -/
def PhasesOpts.perform (o : PhasesOpts) (idx : Int) :
    PhasesCommand → Go.Program (State (Machine outside)) (Option Go.Error × Option Table)
  | .start => do
    let (_, table) ← o.start env cfg phases idx
    pure (none, table)
  | .stop => do
    let (_, table) ← o.stop env cfg phases idx false
    pure (none, table)
  | .restart => o.restart env cfg phases idx
  | .status => statusCommand env cfg phases

end Process

/-- A restart leaves the certificates alone unless they are to be generated again. -/
def PhasesOpts.prepare (o : PhasesOpts) (command : PhasesCommand) (s : State W) : State W :=
  if command = .restart ∧ !o.regenCerts then skipGenCertsPhase s else s

/-- A command of a process that has been created. -/
def PhasesOpts.run (o : PhasesOpts) (codec : Codec) (cfg : Config) (command : PhasesCommand)
    (n : Nodeletd terminal.toOutside) : Except Go.Halt Displayed := do
  let env := terminal.toOutside.env codec n.phases
  let s := o.prepare command n.state
  let (checked, m) := o.validate terminal (command ≠ .status) n.phases.length s.world
  match checked with
  | .error err => return ⟨some err, none, s.trace⟩
  | .ok idx =>
    let ((err, table), t) ← o.perform env cfg n.hostPhases idx command { s with world := m }
    return ⟨err, table, t.trace⟩

def phasesCommand (codec : Codec) (files : StartFiles) (o : PhasesOpts) (loaded : Option Config)
    (command : PhasesCommand) (w : W) : Except Go.Halt Displayed := do
  let cfg ← o.complete loaded
  match ← createNodeletFromConfig terminal.toOutside codec cfg files w with
  | .error err => return ⟨some ("Error initializing nodelet instance: " ++ err), none, []⟩
  | .ok n => o.run terminal codec cfg command n

end Commands
end Nodelet
