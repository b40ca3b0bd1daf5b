import Nodelet.BashPhase
import Nodelet.ConfigUpdate
import Nodelet.NativeSafe
import Nodelet.Reconcile.Runs

/-! How a process is created from its configuration and what it then runs in: the
host's commands and files, the calls of the phases implemented in Go and the Sunpike
server are arbitrary operations on a state `W`. -/
namespace Nodelet
open Constants Sunpike

/-- What the process calls. A reply of the Sunpike server may lack the host. -/
structure Outside (W : Type) extends Commands W where
  /-- What an operation of a phase implemented in Go finds, and what it leaves. -/
  calls : PhaseOp → Config → NativePhase → W → NativePhase.Calls (List UInt8) × W
  now : W → Nat × W
  connect : W → Option Go.Error × W
  updateHostStatus : Host → W → Except Go.Error (Option UpdateCall) × W
  files : W → Files
  store : Files → W → W
  /-- The error of reading the file at `SunpikeConfigPath`. -/
  read : W → Option Go.Error
  /-- Remove the file at `ResmgrKubeEnvPath` and write these entries to it. -/
  rewriteKubeEnv : List String → W → Option Go.Error × W
  grow : Nat → Nat
  hostname : String
  version : String

/-- Somewhere the client of this phase cannot be created. -/
def Outside.ClientFails {W : Type} (outside : Outside W) (phase : NativePhase) : Prop :=
  ∃ op cfg w, (outside.calls op cfg phase w).1.newClient ≠ none

/-- The surroundings together with what the process keeps outside its extension
data: the host phases of its phases, the Kubernetes clients of those implemented in Go,
and the host it sends to Sunpike. A client is a nil pointer only where its creation failed. -/
structure Machine {W : Type} (host : Outside W) where
  outside : W
  hostPhases : List HostPhase
  clients : NativePhase → NativePhase.Client
  sunpike : Host
  failed : ∀ phase, clients phase = .null → host.ClientFails phase

section Env
variable {W : Type} (outside : Outside W) (codec : Codec)

def setHostStatus (reply : PhaseReply) (phase : HostPhase) : HostPhase :=
  { phase with status := reply.status, message := reply.message }

/-- The machine after an operation of a phase implemented in Go left this state. -/
def Machine.left {outside : Outside W} (m : Machine outside) (i : Nat) (phase : NativePhase)
    (t : NativePhase.State) (w : W)
    (kept : t.client = .null → m.clients phase = .null ∨ outside.ClientFails phase) :
    Machine outside where
  outside := w
  hostPhases := m.hostPhases.set i t.phase
  clients := Function.update m.clients phase t.client
  sunpike := m.sunpike
  failed other null := by
    by_cases same : other = phase
    · subst same
      rw [Function.update_self] at null
      exact (kept null).elim (m.failed other) id
    · rw [Function.update_of_ne same] at null
      exact m.failed other null

def Machine.phase {outside : Outside W} (m : Machine outside) (i : Nat) (phase : NativePhase) :
    NativePhase.State :=
  ⟨m.hostPhases.getD i {}, m.clients phase⟩

def operateNative (op : PhaseOp) (cfg : Config) (phase : NativePhase) (i : Nat)
    (m : Machine outside) : Except Go.Halt (Option Go.Error × Machine outside) :=
  let found := outside.calls op cfg phase m.outside
  match ran : (phase.operate found.1 cfg op).result (m.phase i phase) with
  | .error halt => .error halt
  | .ok (returned, t) =>
    have kept (null : t.client = .null) : m.clients phase = .null ∨ outside.ClientFails phase :=
      (NativePhase.operate_kept found.1 cfg ran null).imp_right fun fails => ⟨op, cfg, m.outside, fails⟩
    .ok (Go.errorOf returned, m.left i phase t found.2 kept)

def operateAt (phases : List PhaseInterface) (op : PhaseOp) (cfg : Config) (i : Nat)
    (m : Machine outside) : Except Go.Halt (Option Go.Error × Machine outside) := do
  let phase ← Go.index phases i
  match phase.implementation with
  | .native implemented => operateNative outside op cfg implemented i m
  | .bash filename retry =>
    let (reply, w) ←
      BashPhase.operate outside.toCommands cfg phase.hostPhase.name filename retry op m.outside
    let hostPhases := m.hostPhases.modify i (setHostStatus reply)
    return (reply.err, { m with outside := w, hostPhases })

/-- `Wrapper.Update`. -/
def update (snapshot : Snapshot) (m : Machine outside) :
    Except Go.Error (Option UpdateCall) × Machine outside :=
  match outside.connect m.outside with
  | (some err, w) =>
    (.error ("skipping update to sunpike as client could not be initialized: " ++ err),
      { m with outside := w })
  | (none, w) =>
    let (time, w) := outside.now w
    let host := m.sunpike.populateHostObj time snapshot
    let (reply, w) := outside.updateHostStatus host w
    (reply.mapError ("error sending status update to sunpike: " ++ ·),
      { m with outside := w, sunpike := host })

/-- Without Sunpike the configuration file is turned into the kube.env of the resource manager. -/
def regenerateKubeEnv (m : Machine outside) : Option Go.Error × Machine outside :=
  match fetchKubeEnvMapFromConfigFile codec (outside.read m.outside)
    (outside.files m.outside).config with
  | .error err => (some ("failed to fetch nodelet config from file: " ++ err), m)
  | .ok kubeEnvCfg =>
    let (err, w) := outside.rewriteKubeEnv (KubeEnvMap.toKubeEnv (kubeEnvCfg.getD ∅)) m.outside
    (err.map ("failed to write to updated config to kube.env: " ++ ·), { m with outside := w })

def exchange (cfg : Config) (snapshot : Snapshot) (m : Machine outside) :
    Except Go.Halt (Option Go.Error × Machine outside) :=
  if cfg.disableSunpike then .ok (regenerateKubeEnv outside codec m)
  else
    match update outside snapshot m with
    | (.error err, m) => .ok (some err, m)
    -- the specification of the host is read without asking whether there is one
    | (.ok none, _) => .error (.panic .nilDereference)
    | (.ok (some call), m) => do
      let (branch, files) := handleConfigUpdate codec call (outside.files m.outside)
      let err ← branch.result cfg
      return (err, { m with outside := outside.store files m.outside })

def Outside.env (phases : List PhaseInterface) : Env (Machine outside) where
  status := operateAt outside phases .status
  start := operateAt outside phases .start
  stop := operateAt outside phases .stop
  now m := ((outside.now m.outside).1, { m with outside := (outside.now m.outside).2 })
  update snapshot m := (Nodelet.update outside snapshot m).2
  exchange := exchange outside codec
  grow := outside.grow

end Env

/-- What a process finds when it starts: its extension file, and the file at
`SunpikeConfigPath` with the error of reading it. -/
structure StartFiles where
  extension : ExtensionFile
  config : Option String
  read : Option Go.Error

/-- The specification that is sent to Sunpike. Where the file could not be fetched the
host is still nil when its specification is read. -/
def initialSpec (codec : Codec) (files : StartFiles) : Except Go.Halt HostSpec :=
  match fetchKubeEnvMapFromConfigFile codec files.read files.config with
  | .error _ => .error (.panic .nilDereference)
  | .ok kubeEnvCfg =>
    match codec.toHost kubeEnvCfg with
    | .ok spec => .ok spec
    | .error _ => .ok {}

def PhaseInterface.getHostPhase (phase : PhaseInterface) : HostPhase :=
  { name := phase.hostPhase.name, order := phase.hostPhase.order }

/-- A created process. -/
structure Nodeletd {W : Type} (outside : Outside W) where
  phases : List PhaseInterface
  state : State (Machine outside)

def Nodeletd.hostPhases {W : Type} {outside : Outside W} (n : Nodeletd outside) : List Phase :=
    n.phases.map PhaseInterface.hostPhase

section Create
variable {W : Type} (outside : Outside W) (codec : Codec) (cfg : Config) (files : StartFiles)

/-- The process with these phases; an error of the Sunpike client is only logged. -/
def createWithPhases (phases : List PhaseInterface) (w : W) :
    Except Go.Halt (Nodeletd outside) := do
  let (heap, d) ← constructInitialCurrentState cfg (phases.map PhaseInterface.hostPhase)
    outside.grow files.extension
  let spec ← initialSpec codec files
  let hostPhases := phases.map PhaseInterface.getHostPhase
  let sunpike := initialHost cfg hostPhases spec outside.hostname outside.version
  let w := if cfg.disableSunpike then w else (outside.connect w).2
  let world : Machine outside := ⟨w, hostPhases, fun _ => .unset, sunpike, nofun⟩
  return ⟨phases, { world, heap, data := d, trace := [] }⟩

def createNodeletFromConfig (w : W) : Except Go.Halt (Except Go.Error (Nodeletd outside)) :=
  match initAndLoadRolePhases outside.toCommands cfg w with
  | (.error err, _) => .ok (.error ("could not load phases: " ++ err))
  | (.ok phases, w) => .ok <$> createWithPhases outside codec cfg files phases w

end Create

/-- What creation needs of the files: no extension file whose text is `null`, and a
configuration file that is absent or can be read and decoded. -/
structure StartFiles.Usable (codec : Codec) (cfg : Config) (files : StartFiles) : Prop where
  extension : cfg.disableExtFile = true ∨ files.extension ≠ .null
  config : ∀ contents, files.config = some contents →
    files.read = none ∧ ∃ kubeEnv, codec.unmarshal contents = .ok kubeEnv

section Created
variable {W : Type} {outside : Outside W} {codec : Codec} {cfg : Config} {files : StartFiles}
  {phases : List PhaseInterface} {w : W} {n : Nodeletd outside}

theorem loadState_returns_iff (cfg : Config) (file : ExtensionFile) :
    (∃ d, loadState cfg file = .ok d) ↔ cfg.disableExtFile = true ∨ file ≠ .null := by
  unfold loadState
  by_cases disabled : cfg.disableExtFile = true
  · simp [disabled, pure, Except.pure]
  · cases file with
    | null => simp [disabled, ExtensionData.load]
    | object fields => simp [disabled, ExtensionData.load]
    | undecodable fields oldData => simp [disabled, ExtensionData.load]

theorem initialSpec_returns_iff (codec : Codec) (files : StartFiles) :
    (∃ spec, initialSpec codec files = .ok spec) ↔ ∀ contents, files.config = some contents →
      files.read = none ∧ ∃ kubeEnv, codec.unmarshal contents = .ok kubeEnv := by
  have decoded (kubeEnv : Option KubeEnvMap) : ∃ spec, (match codec.toHost kubeEnv with
      | .ok spec => .ok spec
      | .error _ => .ok {} : Except Go.Halt HostSpec) = .ok spec := by
    cases codec.toHost kubeEnv with
    | ok spec => exact ⟨spec, rfl⟩
    | error err => exact ⟨{}, rfl⟩
  unfold initialSpec fetchKubeEnvMapFromConfigFile
  cases files.config with
  | none => simpa using decoded (some ∅)
  | some contents =>
    cases files.read with
    | some err => simp
    | none =>
      cases unmarshalled : codec.unmarshal contents with
      | error err => simp [unmarshalled]
      | ok kubeEnv => simpa [unmarshalled] using decoded kubeEnv

/-- A created process is in its initial state and has the cluster of its extension file. -/
structure Created (outside : Outside W) (codec : Codec) (cfg : Config) (files : StartFiles)
    (phases : List PhaseInterface) (n : Nodeletd outside) : Prop where
  phases : n.phases = phases
  initial : Initial n.hostPhases n.state
  recorded : ∃ d, loadState cfg files.extension = .ok d ∧ n.state.data.clusterID = d.clusterID ∧
    n.state.data.clusterRole = d.clusterRole

theorem createWithPhases_created
    (created : createWithPhases outside codec cfg files phases w = .ok n) :
    Created outside codec cfg files phases n := by
  obtain ⟨⟨heap, d⟩, constructed, rest⟩ := Go.bind_ok created
  obtain ⟨spec, _, finished⟩ := Go.bind_ok rest
  have started (world : Machine outside) : initial (outside.env codec phases) cfg
      (phases.map PhaseInterface.hostPhase) files.extension world = .ok ⟨world, heap, d, []⟩ := by
    unfold initial
    rw [show (outside.env codec phases).grow = outside.grow from rfl, constructed]
    rfl
  obtain ⟨loaded, load, built⟩ := Go.bind_ok constructed
  cases finished
  cases built
  exact ⟨rfl, initial_spec (started _), loaded, load, rfl, rfl⟩

theorem createWithPhases_returns_iff (outside : Outside W) (codec : Codec) (cfg : Config)
    (files : StartFiles) (phases : List PhaseInterface) (w : W) :
    (∃ n, createWithPhases outside codec cfg files phases w = .ok n) ↔ files.Usable codec cfg := by
  constructor
  · rintro ⟨n, created⟩
    obtain ⟨_, constructed, rest⟩ := Go.bind_ok created
    obtain ⟨spec, inferred, _⟩ := Go.bind_ok rest
    obtain ⟨d, loaded, _⟩ := Go.bind_ok constructed
    exact ⟨(loadState_returns_iff cfg _).mp ⟨d, loaded⟩,
      (initialSpec_returns_iff codec files).mp ⟨spec, inferred⟩⟩
  · intro usable
    obtain ⟨d, loaded⟩ := (loadState_returns_iff cfg _).mpr usable.extension
    obtain ⟨spec, inferred⟩ := (initialSpec_returns_iff codec files).mpr usable.config
    unfold createWithPhases constructInitialCurrentState
    rw [loaded, inferred]
    exact ⟨_, rfl⟩

end Created
end Nodelet
