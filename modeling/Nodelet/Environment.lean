import Nodelet.ExtensionData
import Mathlib.Logic.Relation

/-! What surrounds the reconciler: the phases it drives, the clock, Sunpike and
the configuration files. All of it is an arbitrary state `W` with operations on
it, so every outcome of a phase, at every call, is covered. The trace records
what an observer outside the process sees; the reconciler never reads it. -/
namespace Nodelet

/-- A phase as the reconciler sees it: its name and the order of its host phase. -/
structure Phase where
  name : String
  order : Int
  deriving DecidableEq, Repr

/-- The state at one moment, with the phase names its slices hold then. -/
structure Snapshot where
  data : ExtensionData
  allPhases : List String
  completedPhases : List String
  deriving DecidableEq, Repr

/-- One completed call of `Status`: its clock reading, the service state it was
made in, whether the chain was run, the index of a failing check, and whether
the service was then taken to be running. -/
structure StatusCall where
  time : Int
  serviceState : String
  checked : Bool
  failed : Option Nat
  kubeRunning : Bool
  deriving DecidableEq, Repr

inductive Event where
  | status (phase : Nat) (err : Option Go.Error)
  | start (phase : Nat) (err : Option Go.Error)
  | stop (phase : Nat) (err : Option Go.Error)
  | persist (snapshot : Snapshot)
  | write (snapshot : Snapshot)
  | update (snapshot : Snapshot)
  | exchange (snapshot : Snapshot)
  | statusCall (call : StatusCall)
  deriving DecidableEq, Repr

/-- Operations of the surroundings that may halt the process. `update` submits a
status; `exchange` also fetches the configuration and acts on it. -/
structure Env (W : Type) where
  status : Config → Nat → W → Except Go.Halt (Option Go.Error × W)
  start : Config → Nat → W → Except Go.Halt (Option Go.Error × W)
  stop : Config → Nat → W → Except Go.Halt (Option Go.Error × W)
  now : W → Nat × W
  update : Snapshot → W → W
  exchange : Config → Snapshot → W → Except Go.Halt (Option Go.Error × W)
  grow : Nat → Nat

namespace Env
variable {W : Type} (env : Env W)

/-- With this configuration no operation of the first `count` phases halts the process. -/
structure Returning (cfg : Config) (count : Nat) : Prop where
  status : ∀ i < count, ∀ w, ∃ reply, env.status cfg i w = .ok reply
  start : ∀ i < count, ∀ w, ∃ reply, env.start cfg i w = .ok reply
  stop : ∀ i < count, ∀ w, ∃ reply, env.stop cfg i w = .ok reply

/-- Operations that only look at the surroundings, as `Status` makes them. -/
inductive Observe : W → W → Prop where
  | status : env.status cfg i w = .ok (err, w') → Observe w w'
  | now : env.now w = (t, w') → Observe w w'
  | update : Observe w (env.update snapshot w)

/-- One operation takes the surroundings from a state to the next. -/
inductive Step : W → W → Prop where
  | observe : Observe env w w' → Step w w'
  | start : env.start cfg i w = .ok (err, w') → Step w w'
  | stop : env.stop cfg i w = .ok (err, w') → Step w w'
  | exchange : env.exchange cfg snapshot w = .ok (err, w') → Step w w'

end Env

/-- Surroundings whose operations all return, with nil or an error. A process that
exits while it applies a new configuration has a run that ends there. -/
structure Calls (W : Type) where
  status : Config → Nat → W → Option Go.Error × W
  start : Config → Nat → W → Option Go.Error × W
  stop : Config → Nat → W → Option Go.Error × W
  now : W → Nat × W
  update : Snapshot → W → W
  exchange : Config → Snapshot → W → Option Go.Error × W
  grow : Nat → Nat

def Calls.env (calls : Calls W) : Env W where
  status cfg i w := .ok (calls.status cfg i w)
  start cfg i w := .ok (calls.start cfg i w)
  stop cfg i w := .ok (calls.stop cfg i w)
  now := calls.now
  update := calls.update
  exchange cfg snapshot w := .ok (calls.exchange cfg snapshot w)
  grow := calls.grow

theorem Calls.returning (calls : Calls W) (cfg : Config) (count : Nat) :
    calls.env.Returning cfg count where
  status _ _ _ := ⟨_, rfl⟩
  start _ _ _ := ⟨_, rfl⟩
  stop _ _ _ := ⟨_, rfl⟩

structure State (W : Type) where
  world : W
  heap : Go.Heap String
  data : ExtensionData
  trace : List Event

def State.snapshot (s : State W) : Snapshot :=
  ⟨s.data, s.heap.read s.data.allPhases, s.heap.read s.data.completedPhases⟩

section Primitives
variable {W : Type}

def modifyData (change : ExtensionData → ExtensionData) : Go.Program (State W) Unit :=
  modify fun s => { s with data := change s.data }

def emit (event : State W → Event) : Go.Program (State W) Unit :=
  modify fun s => { s with trace := s.trace ++ [event s] }

/-- `time.Now()`. -/
def Env.time (env : Env W) : Go.Program (State W) Int := fun s =>
  .ok ((env.now s.world).1, { s with world := (env.now s.world).2 })

/-- Call one operation of the phase at index `i`. -/
def callPhase (operation : Nat → W → Except Go.Halt (Option Go.Error × W))
    (event : Nat → Option Go.Error → Event) (i : Nat) :
    Go.Program (State W) (Option Go.Error) := fun s =>
  match operation i s.world with
  | .ok (err, world) => .ok (err, { s with world := world, trace := s.trace ++ [event i err] })
  | .error halt => .error halt

def Env.callStatus (env : Env W) (cfg : Config) := callPhase (env.status cfg) Event.status
def Env.callStart (env : Env W) (cfg : Config) := callPhase (env.start cfg) Event.start
def Env.callStop (env : Env W) (cfg : Config) := callPhase (env.stop cfg) Event.stop

/-- `sunpike.Update`, whose reply `tryToPersistStatus` only logs. -/
def Env.submit (env : Env W) : Go.Program (State W) Unit :=
  modify fun s => { s with
    world := env.update s.snapshot s.world
    trace := s.trace ++ [.update s.snapshot] }

/-- The exchange that ends a `Reconcile`: report the status, fetch and apply the configuration. -/
def Env.exchangeConfig (env : Env W) (cfg : Config) : Go.Program (State W) (Option Go.Error) :=
    fun s =>
  match env.exchange cfg s.snapshot s.world with
  | .ok (err, world) =>
      .ok (err, { s with world := world, trace := s.trace ++ [.exchange s.snapshot] })
  | .error halt => .error halt

end Primitives

/-- What a snapshot says about the decisions made so far and the phases behind them. -/
structure View where
  control : Control
  allPhases : List String
  completedPhases : List String

def Snapshot.view (snapshot : Snapshot) : View :=
  ⟨snapshot.data.control, snapshot.allPhases, snapshot.completedPhases⟩

def State.view (s : State W) : View := s.snapshot.view

theorem State.view_frame {s t : State W} (heap : t.heap = s.heap)
    (control : t.data.control = c) (all : c.allPhases = s.data.allPhases)
    (completed : t.data.completedPhases = s.data.completedPhases) :
    t.view = { s.view with control := c } := by
  have sameAll : t.data.allPhases = s.data.allPhases :=
    (congrArg Control.allPhases control).trans all
  simp only [State.view, State.snapshot, Snapshot.view, heap, control, sameAll, completed]

/-- The event passes a snapshot with this view on; a written one has its node state. -/
def Event.Reports (cfg : Config) (view : View) : Event → Prop
  | .persist snapshot | .update snapshot | .exchange snapshot => snapshot.view = view
  | .write snapshot =>
      snapshot.view = view ∧ snapshot.data.nodeState = snapshot.data.nodeStateFor cfg
  | _ => False

theorem Event.Reports.snapshot {e : Event} (report : e.Reports cfg view) :
    ∃ snapshot, snapshot.view = view ∧
    (e = .persist snapshot ∨ e = .write snapshot ∨ e = .update snapshot ∨
      e = .exchange snapshot) := by
  cases e with
  | persist snapshot => exact ⟨snapshot, report, .inl rfl⟩
  | write snapshot => exact ⟨snapshot, report.1, .inr (.inl rfl)⟩
  | update snapshot => exact ⟨snapshot, report, .inr (.inr (.inl rfl))⟩
  | exchange snapshot => exact ⟨snapshot, report, .inr (.inr (.inr rfl))⟩
  | status | start | stop | statusCall => exact report.elim

/-- From `s` to `s'` the surroundings advanced by steps, the trace grew by
`events`, and no backing array of a slice changed. -/
structure Advances (step : W → W → Prop) (s s' : State W) (events : List Event) : Prop where
  world : Relation.ReflTransGen step s.world s'.world
  trace : s'.trace = s.trace ++ events
  heap : s'.heap = s.heap

namespace Advances
variable {W : Type} {step larger : W → W → Prop} {s t u : State W} {first second : List Event}

theorem refl (s : State W) : Advances step s s [] :=
  ⟨.refl, (List.append_nil _).symm, rfl⟩

theorem trans (a : Advances step s t first) (b : Advances step t u second) :
    Advances step s u (first ++ second) :=
  ⟨a.world.trans b.world, by rw [b.trace, a.trace, List.append_assoc], b.heap.trans a.heap⟩

theorem mono (a : Advances step s t first) (included : ∀ w w', step w w' → larger w w') :
    Advances larger s t first :=
  ⟨Relation.ReflTransGen.mono included _ _ a.world, a.trace, a.heap⟩

theorem call {world : W} (moved : step s.world world)
    (rest : Advances step ⟨world, s.heap, d, s.trace ++ [e]⟩ u second) :
    Advances step s u (e :: second) :=
  ⟨.head moved rest.world, by rw [rest.trace, List.append_assoc]; rfl, rest.heap⟩

theorem data (a : Advances step s t first) (d : ExtensionData) :
    Advances step s { t with data := d } first :=
  ⟨a.world, a.trace, a.heap⟩

theorem of_data (a : Advances step { s with data := d } t first) : Advances step s t first :=
  ⟨a.world, a.trace, a.heap⟩

end Advances

end Nodelet
