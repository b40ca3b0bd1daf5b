import Nodelet.Environment

/-! The reconciler: the status chain, the start and stop chains over the phases,
and the handlers that bring the service to its expected state. Every indexing,
slicing and remainder expression keeps its run-time check. -/
namespace Nodelet
open Constants

/-- `getStatusFailureToleration`: a threshold that is not a duration tolerates nothing. -/
def getStatusFailureToleration (cfg : Config) : Int :=
  match Go.Time.parseSeconds cfg.pf9StatusThresholdSeconds with
  | .ok duration => duration
  | .error _ => 0

/-- The phase whose check the index variable of `Status` names, if any. -/
def failedPhase (failedStatusCheck : Int) : Option Nat :=
  if failedStatusCheck = -1 then none else some failedStatusCheck.toNat

section
variable {W : Type} (env : Env W) (cfg : Config) (phases : List Phase)

/-- `ExtensionData.Write`. -/
def write : Go.Program (State W) Unit := do
  modifyData (ExtensionData.populateExtraFields cfg)
  emit fun s => .write s.snapshot

def tryToPersistStatus : Go.Program (State W) Unit := do
  emit fun s => .persist s.snapshot
  if cfg.disableExtFile then pure () else write cfg
  if cfg.disableSunpike then pure () else env.submit

/-- The loop of `Status` from index `i` on; the index of a failing check, or -1. -/
def statusChecks : Nat → List Phase → Go.Program (State W) Int
  | _, [] => pure (-1)
  | i, phase :: rest =>
    if cfg.disableScripts then pure (-1)
    else do
      modifyData fun d => { d with currentStatusCheck := phase.name }
      match ← env.callStatus cfg i with
      | none => statusChecks (i + 1) rest
      | some _ =>
        let failedAt ← env.time
        modifyData fun d => { d with
          lastFailedCheck := phase.name
          lastFailedCheckTime := Go.Time.unix failedAt }
        pure i

/-- What `Status` makes of the chain's outcome. -/
def settleStatus (failedStatusCheck : Int) : Go.Program (State W) Unit := do
  let now ← env.time
  let s ← get
  if failedStatusCheck = -1 then
    modifyData fun d => { d with
      kubeRunning := true
      lastSuccessfulStatus := now
      failedStatusCheck := 0 }
  else if s.data.serviceState = serviceStateTrue then
    if Go.Time.sub now s.data.lastSuccessfulStatus < getStatusFailureToleration cfg then
      modifyData fun d => { d with kubeRunning := true, failedStatusCheck := 0 }
    else
      modifyData fun d => { d with failedStatusCheck := failedStatusCheck }
  else
    -- the service is not expected to run, so its failing counts as a success
    modifyData fun d => { d with failedStatusCheck := 0, lastSuccessfulStatus := now }
  emit fun s => .statusCall {
    time := now
    serviceState := s.data.serviceState
    checked := true
    failed := failedPhase failedStatusCheck
    kubeRunning := s.data.kubeRunning }

def status : Go.Program (State W) Unit := do
  let now ← env.time
  modifyData fun d => { d with
    currentStatusCheckTime := Go.Time.unix now
    operation := .status
    kubeRunning := false }
  let s ← get
  if s.data.startFailStep ≠ -1 then
    modifyData fun d => { d with currentStatusCheck := "" }
    tryToPersistStatus env cfg
    modifyData fun d => { d with failedStatusCheck := d.startFailStep }
    emit fun s => .statusCall {
      time := now
      serviceState := s.data.serviceState
      checked := false
      failed := none
      kubeRunning := s.data.kubeRunning }
  else
    let failedStatusCheck ← statusChecks env cfg 0 phases
    modifyData fun d => { d with currentStatusCheck := "" }
    tryToPersistStatus env cfg
    settleStatus env cfg failedStatusCheck

/-- `CompletedPhases = append(CompletedPhases, name)`. -/
def appendCompleted (name : String) : Go.Program (State W) Unit :=
  modify fun s =>
    let appended := s.heap.append env.grow s.data.completedPhases name
    { s with heap := appended.1, data := { s.data with completedPhases := appended.2 } }

/-- The loop of `Start` with at most `fuel` phases left. -/
def startLoop : Nat → Nat → Go.Program (State W) (Nat × Option Go.Error)
  | 0, i => pure (i, none)
  | fuel + 1, i =>
    if i < phases.length then do
      let phase ← Go.index phases i
      modifyData fun d => { d with currentPhase := phase.name }
      tryToPersistStatus env cfg
      match ← env.callStart cfg i with
      | some err =>
        modifyData fun d => { d with lastFailedPhase := phase.name }
        tryToPersistStatus env cfg
        pure (i, some err)
      | none =>
        appendCompleted env phase.name
        tryToPersistStatus env cfg
        startLoop fuel (i + 1)
    else pure (i, none)

def start (startPhaseIndex : Int) : Go.Program (State W) (Nat × Option Go.Error) := do
  let s ← get
  let completed ← s.data.allPhases.reslice 0 startPhaseIndex
  modifyData fun d => { d with completedPhases := completed }
  let _ ← Go.index phases startPhaseIndex
  let result ← startLoop env cfg phases (phases.length - startPhaseIndex.toNat)
    startPhaseIndex.toNat
  modifyData fun d => { d with currentPhase := "" }
  tryToPersistStatus env cfg
  pure result

/-- How the loop of `Stop` ends: by the return that keeps the certificates, or
by running out of phases or breaking off, with the last error. -/
inductive StopLoop where
  | skipped
  | finished (err : Option Go.Error)
  deriving DecidableEq, Repr

/-- The restart of the stack leaves the certificates alone unless their own check failed. -/
def Control.keepsCerts (c : Control) (phase : Phase) (idx : Nat) : Prop :=
  c.operation = .start ∧ phase.order = genCertsPhaseOrder ∧ c.failedStatusCheck ≠ idx

instance (c : Control) (phase : Phase) (idx : Nat) : Decidable (c.keepsCerts phase idx) :=
  inferInstanceAs (Decidable (_ ∧ _ ∧ _))

/-- The loop of `Stop`, downwards from the phase before `remaining`. -/
def stopLoop (stopPhaseIndex : Int) (force : Bool) :
    Nat → Option Go.Error → Go.Program (State W) StopLoop
  | 0, err => pure (.finished err)
  | idx + 1, err =>
    if (idx : Int) < stopPhaseIndex then pure (.finished err)
    else do
      let phase ← Go.index phases idx
      let s ← get
      if s.data.control.keepsCerts phase idx then pure .skipped
      else
        match ← env.callStop cfg idx with
        | none => stopLoop stopPhaseIndex force idx none
        | some err =>
          if force then stopLoop stopPhaseIndex force idx (some err)
          else pure (.finished (some err))

/-- The bookkeeping at the end of `Stop`. -/
def recordStopped (stopPhaseIndex : Int) : Go.Program (State W) Unit := do
  modifyData fun d => { d with serviceState := serviceStateFalse }
  let s ← get
  let completed ← s.data.allPhases.reslice 0 stopPhaseIndex
  modifyData fun d => { d with completedPhases := completed }
  if stopPhaseIndex = 0 then
    modifyData fun d => { d with
      startAttempts := 0
      completedPhases := .empty
      clusterID := ""
      clusterRole := ""
      currentPhase := ""
      lastFailedPhase := "" }
  else pure ()
  tryToPersistStatus env cfg

def stop (stopPhaseIndex : Int) (force : Bool) : Go.Program (State W) (Option Go.Error) := do
  let _ ← Go.index phases stopPhaseIndex
  match ← stopLoop env cfg phases stopPhaseIndex force phases.length none with
  | .skipped => pure none
  | .finished err =>
    recordStopped env cfg stopPhaseIndex
    pure err

/-- The service runs for the configured cluster, or the node never had one. -/
def Control.alreadyRunning (c : Control) : Prop :=
  c.kubeRunning ∧ (c.clusterID = cfg.clusterID ∧ c.clusterRole = cfg.clusterRole ∨
    c.clusterRole = roleNone ∧ c.clusterID = "")

instance (c : Control) : Decidable (c.alreadyRunning cfg) :=
  inferInstanceAs (Decidable (_ ∧ (_ ∨ _)))

/-- Stop down to a phase and start from it again. -/
def restartFrom (failedCheck : Int) : Go.Program (State W) Unit := do
  let _ ← stop env cfg phases failedCheck false
  modifyData fun d => { d with clusterID := cfg.clusterID, clusterRole := cfg.clusterRole }
  let (failedStep, err) ← start env cfg phases failedCheck
  match err with
  | some _ =>
    let _ ← Go.index phases failedStep
    modifyData fun d => { d with serviceState := serviceStateFalse, startFailStep := failedStep }
  | none =>
    modifyData fun d => { d with
      startAttempts := 0
      serviceState := serviceStateTrue
      lastFailedPhase := ""
      startFailStep := -1 }

/-- The restart inside `handleServiceStartState`, complete on every full retry. -/
def restart (failedCheck : Int) : Go.Program (State W) Unit := do
  modifyData fun d => { d with startAttempts := Go.wrapInt64 (d.startAttempts + 1) }
  let s ← get
  let attempt ← Go.remainder s.data.startAttempts cfg.fullRetryCount
  restartFrom env cfg phases (if attempt = 0 then 0 else failedCheck)

def handleServiceStartState : Go.Program (State W) Unit := do
  let s ← get
  let failedCheck := s.data.failedStatusCheck
  if cfg.disableScripts then pure ()
  else
    modifyData fun d => { d with operation := .start }
    let s ← get
    if s.data.control.alreadyRunning cfg then
      modifyData fun d => { d with
        startAttempts := 0
        serviceState := serviceStateTrue
        startFailStep := -1
        completedPhases := d.allPhases }
    else restart env cfg phases failedCheck
    tryToPersistStatus env cfg

def handleServiceStopState : Go.Program (State W) Unit := do
  modifyData fun d => { d with operation := .stop }
  let s ← get
  if cfg.disableScripts then pure ()
  else if ¬ s.data.kubeRunning then pure ()
  else
    let _ ← stop env cfg phases 0 false
    modifyData fun d => { d with startFailStep := -1 }

/-- `persistStatusAndUpdateConfigIfChanged`. -/
def persistStatusAndUpdateConfigIfChanged : Go.Program (State W) (Option Go.Error) := do
  if cfg.disableExtFile then pure () else write cfg
  env.exchangeConfig cfg

/-- `Reconcile` up to the service having been brought towards its expected state. -/
def serve : Go.Program (State W) Unit := do
  status env cfg phases
  if cfg.kubeServiceState = serviceStateTrue then handleServiceStartState env cfg phases
  else if cfg.kubeServiceState = serviceStateFalse then handleServiceStopState env cfg phases
  else pure ()

/-- The end of `Reconcile`, with its result. -/
def conclude : Go.Program (State W) (Option Go.Error) := do
  if cfg.disableConfigUpdate then
    tryToPersistStatus env cfg
    pure none
  else persistStatusAndUpdateConfigIfChanged env cfg

/-- One `Reconcile` with the configuration `cfg`. -/
def reconcile : Go.Program (State W) (Option Go.Error) := do
  serve env cfg phases
  conclude env cfg

def reconcileStep (cfg : Config) (s : State W) : Except Go.Halt (State W) :=
  Prod.snd <$> reconcile env cfg phases s

/-- The extension data a process starts with, before its phases are known. -/
def loadState (file : ExtensionFile) : Except Go.Halt ExtensionData :=
  if cfg.disableExtFile then pure .new else ExtensionData.load cfg .new file

/-- `constructInitialCurrentState`, with what the extension file holds. -/
def constructInitialCurrentState (grow : Nat → Nat) (file : ExtensionFile) :
    Except Go.Halt (Go.Heap String × ExtensionData) := do
  let d ← loadState cfg file
  let (heap, allPhases) :=
    phases.foldl (fun (names : Go.Heap String × Go.Slice) phase =>
      names.1.append grow names.2 phase.name) ([], .empty)
  pure (heap, { d with
    completedPhases := .empty
    startFailStep := -1
    allPhases := allPhases
    allStatusChecks := phases.map Phase.name
    operation := .stop
    serviceState := serviceStateFalse })

/-- The state of a process that has just started. -/
def initial (file : ExtensionFile) (w : W) : Except Go.Halt (State W) := do
  let (heap, d) ← constructInitialCurrentState cfg phases env.grow file
  pure { world := w, heap := heap, data := d, trace := [] }

end
end Nodelet
