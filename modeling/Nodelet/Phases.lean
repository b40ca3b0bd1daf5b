import Nodelet.Reconcile.Stop
import Mathlib.Data.List.Chain

/-! The phases of each role, and how a process loads those of its own. A role that
is none of the three known ones has no phases at all, and that is not an error. -/
namespace Nodelet
open Constants

/-- The phases that are implemented in Go. -/
inductive NativePhase where
  | containerdConfig
  | containerdRun
  | loadImage
  | misc
  | kubeletConfigureStart
  | labelTaintNode
  | uncordonNode
  | deployAppCatalog
  | pf9CoreDNS
  | drainNode
  deriving DecidableEq, Repr

/-- How a phase carries out its operations: by its script, or in Go. -/
inductive Implementation where
  | bash (filename : String) (retry : Int)
  | native (phase : NativePhase)
  deriving DecidableEq, Repr

structure PhaseInterface where
  hostPhase : Phase
  implementation : Implementation
  deriving DecidableEq, Repr

section Constructors

/-- A phase made of a script in the base directory; none of them sets its retries. -/
def bashPhase (name : String) (order : Int) (script baseDir : String) : PhaseInterface :=
  ⟨⟨name, order⟩, .bash (baseDir ++ "/" ++ script) 0⟩

def nativePhase (phase : NativePhase) (name : String) (order : Int) : PhaseInterface :=
  ⟨⟨name, order⟩, .native phase⟩

def newNoRolePhase :=
  bashPhase "No role assigned. (Cleanup scripts only)" noRolePhaseOrder "all-none-scripts.sh"
def newGenCertsPhase :=
  bashPhase "Generate certs / Send signing request to CA" genCertsPhaseOrder "gen_certs.sh"
def newPrepareKubeconfigsPhase :=
  bashPhase "Prepare configuration" kubeconfigPhaseOrder "prepare_kube_configs.sh"
def newConfigureEtcdPhase := bashPhase "Configure etcd" configureEtcdPhaseOrder "etcd_configure.sh"
def newStartEtcdPhase := bashPhase "Start etcd" startEtcdPhaseOrder "etcd_run.sh"
def newConfigureNetworkPhase :=
  bashPhase "Network configuration" configureNetworkPhaseOrder "network_configure.sh"
def newConfigureCNIPhase :=
    bashPhase "Configure CNI plugin" configureCNIPhaseOrder "cni_configure.sh"
def newAuthWebhookPhase :=
  bashPhase "Configure and start pf9-bouncer" authWebHookPhaseOrder "auth_webhook.sh"
def newKubeProxyStartPhase :=
  bashPhase "Configure and start kube-proxy" kubeProxyPhaseOrder "kube_proxy_start.sh"
def newWaitForK8sSvcPhase :=
  bashPhase "Wait for k8s services and network to be up" waitForK8sSvcPhaseOrder
    "wait_for_k8s_services.sh"
def newDynamicKubeletConfigPhase :=
  bashPhase "Apply dynamic kubelet configuration" dynamicKubeletConfigPhaseOrder
    "dynamic_kubelet_config.sh"
def newConfigureStartKeepalivedPhase :=
  bashPhase "Configure and start Keepalived" configureStartKeepalivedPhaseOrder
    "configure_start_keepalived.sh"

def newContainerdConfigPhase :=
  nativePhase .containerdConfig "Configure Container Runtime" configureRuntimePhaseOrder
def newContainerdRunPhase :=
    nativePhase .containerdRun "Start Container Runtime" startRuntimePhaseOrder
def newLoadImagePhase :=
  nativePhase .loadImage "Load user images to container runtime" loadImagePhaseOrder
def newMiscPhase := nativePhase .misc "Miscellaneous scripts and checks" miscPhaseOrder
def newKubeletConfigureStartPhase :=
  nativePhase .kubeletConfigureStart "Configure and Start kubelet" configureKubeletPhaseOrder
def newLabelTaintNodePhase :=
  nativePhase .labelTaintNode "Apply and validate node taints" labelTaintNodePhaseOrder
def newUncordonNodePhase := nativePhase .uncordonNode "Uncordon node" uncordonNodePhaseOrder
def newDeployAppCatalogPhase :=
    nativePhase .deployAppCatalog "Deploy app catalog" deployAppCatalogPhaseOrder
def newPF9CoreDNSPhase := nativePhase .pf9CoreDNS "Configure and start coredns" pf9CoreDNSPhaseOrder
def newDrainNodePhase :=
    nativePhase .drainNode "Drain all pods (stop only operation)" drainPodsPhaseOrder

end Constructors

/-- The first two adjacent phases that are not in increasing order make an error. -/
def validatePhaseOrdering : List PhaseInterface → Option Go.Error
  | currPhase :: nextPhase :: rest =>
    if currPhase.hostPhase.order ≥ nextPhase.hostPhase.order then
      some ("found 2 phases with same or incorrect order : " ++
        currPhase.hostPhase.name ++ " " ++ nextPhase.hostPhase.name)
    else validatePhaseOrdering (nextPhase :: rest)
  | _ => none

def masterPhaseList : List PhaseInterface :=
  [newGenCertsPhase phaseBaseDir, newPrepareKubeconfigsPhase phaseBaseDir, newContainerdConfigPhase,
    newContainerdRunPhase, newLoadImagePhase, newConfigureEtcdPhase phaseBaseDir,
    newStartEtcdPhase phaseBaseDir, newConfigureNetworkPhase phaseBaseDir,
      newConfigureCNIPhase phaseBaseDir,
    newAuthWebhookPhase phaseBaseDir, newMiscPhase, newKubeletConfigureStartPhase,
    newKubeProxyStartPhase phaseBaseDir, newWaitForK8sSvcPhase phaseBaseDir, newLabelTaintNodePhase,
    newDynamicKubeletConfigPhase phaseBaseDir, newUncordonNodePhase, newDeployAppCatalogPhase,
    newConfigureStartKeepalivedPhase phaseBaseDir, newPF9CoreDNSPhase, newDrainNodePhase]

def workerPhaseList : List PhaseInterface :=
  [newGenCertsPhase phaseBaseDir, newPrepareKubeconfigsPhase phaseBaseDir, newContainerdConfigPhase,
    newContainerdRunPhase, newLoadImagePhase, newConfigureNetworkPhase phaseBaseDir,
    newConfigureCNIPhase phaseBaseDir, newMiscPhase, newKubeletConfigureStartPhase,
    newKubeProxyStartPhase phaseBaseDir, newWaitForK8sSvcPhase phaseBaseDir, newLabelTaintNodePhase,
    newDynamicKubeletConfigPhase phaseBaseDir, newUncordonNodePhase, newDrainNodePhase]

def validated (phaseList : List PhaseInterface) : Except Go.Error (List PhaseInterface) :=
  match validatePhaseOrdering phaseList with
  | some err => .error err
  | none => .ok phaseList

def getMasterPhases := validated masterPhaseList
def getWorkerPhases := validated workerPhaseList
def getNoRolePhases : Except Go.Error (List PhaseInterface) := .ok [newNoRolePhase phaseBaseDir]

/-- Commands on the host. The retries of the backoff package end early once its
time is up. -/
structure Commands (W : Type) where
  runCommand : List String → W → Option Go.Error × W
  /-- The exit code and the lines of the output. -/
  runCommandWithStdOut : List String → W → (Int × List String) × W
  expired : W → Bool
  /-- The text of a `float64` printed with `%v`. -/
  formatFloat : Rat → String

section Loading
variable {W : Type} (commands : Commands W) (cfg : Config)

/-- Run the commands in turn until one fails. -/
def runCommands : List (List String) → W → Option Go.Error × W
  | [], w => (none, w)
  | command :: rest, w =>
    match commands.runCommand command w with
    | (some err, w) => (some err, w)
    | (none, w) => runCommands rest w

/-- The CPU limit is not a percentage. -/
def Config.InvalidCPULimit (cfg : Config) : Prop := cfg.cpuLimit ≤ 0 ∨ 100 < cfg.cpuLimit

instance (cfg : Config) : Decidable cfg.InvalidCPULimit := inferInstanceAs (Decidable (_ ∨ _))

def setupCgroup (w : W) : Option Go.Error × W :=
  if cfg.InvalidCPULimit then (some "invalid value for CPU_LIMIT", w)
  else
    let cpuQuota := cfg.cpuLimit / 100 * 1000000
    let cpuQuotaCmd :=
      cgroupQuotaCmd ++ [cgroupQuotaParam ++ commands.formatFloat cpuQuota, cgroupName]
    runCommands commands [cgroupCreateCmd, cgroupPeriodCmd, cpuQuotaCmd] w

/-- The setup that comes before the phases are chosen. -/
def trySetupCgroup (w : W) : Option Go.Error × W :=
  if cfg.useCgroups ∧ ¬ cfg.disableScripts then setupCgroup commands cfg w else (none, w)

/-- The error of the setup is only overwritten where a role has phases. -/
def initAndLoadRolePhases (w : W) : Except Go.Error (List PhaseInterface) × W :=
  let (err, w) := trySetupCgroup commands cfg w
  if cfg.clusterRole = roleNone then (getNoRolePhases, w)
  else if cfg.clusterRole = roleWorker then (getWorkerPhases, w)
  else if cfg.clusterRole = roleMaster then (getMasterPhases, w)
  else
    match err with
    | some err => (.error err, w)
    | none => (.ok [], w)

end Loading

theorem getMasterPhases_eq : getMasterPhases = .ok masterPhaseList := by decide

theorem getWorkerPhases_eq : getWorkerPhases = .ok workerPhaseList := by decide

def Config.KnownRole (cfg : Config) : Prop :=
  cfg.clusterRole = roleNone ∨ cfg.clusterRole = roleWorker ∨ cfg.clusterRole = roleMaster

instance (cfg : Config) : Decidable cfg.KnownRole := inferInstanceAs (Decidable (_ ∨ _ ∨ _))

section Roles
variable {W : Type} (commands : Commands W) (w : W)

theorem initAndLoadRolePhases_master (role : cfg.clusterRole = roleMaster) :
    initAndLoadRolePhases commands cfg w =
      (.ok masterPhaseList, (trySetupCgroup commands cfg w).2) := by
  unfold initAndLoadRolePhases
  simp [role, roleMaster, roleWorker, roleNone, getMasterPhases_eq]

end Roles

theorem initAndLoadRolePhases_unknown (commands : Commands W) (unknown : ¬ cfg.KnownRole) (w : W) :
    initAndLoadRolePhases commands cfg w =
      ((trySetupCgroup commands cfg w).1.elim (.ok []) .error,
      (trySetupCgroup commands cfg w).2) := by
  obtain ⟨notNone, notWorker, notMaster⟩ : cfg.clusterRole ≠ roleNone ∧
    cfg.clusterRole ≠ roleWorker ∧
      cfg.clusterRole ≠ roleMaster := by simpa [Config.KnownRole] using unknown
  unfold initAndLoadRolePhases
  simp only [if_neg notNone, if_neg notWorker, if_neg notMaster]
  cases (trySetupCgroup commands cfg w).1 with
  | some err => rfl
  | none => rfl

end Nodelet
