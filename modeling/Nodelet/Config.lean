import Nodelet.Constants
import Nodelet.Go.Time
import Nodelet.Go.Viper

/-! The agent's configuration and how the command line builds it. Flags come
first, then the configuration files, then the defaults; each source only fills
fields that are still zero. -/
namespace Nodelet
open Constants
open Go.Viper (Kind)

/-- Fields in the order of the source. The CPU limit is a finite float, kept as
the rational it denotes. -/
structure Config where
  debug : String := ""
  useHostname : String := ""
  clusterRole : String := ""
  clusterID : String := ""
  hostID : String := ""
  transportURL : String := ""
  connectTimeout : Int := 0
  kubeServiceState : String := ""
  fullRetryCount : Int := 0
  useCgroups : Bool := false
  phaseRetry : Int := 0
  cpuLimit : Rat := 0
  pf9StatusThresholdSeconds : Int := 0
  loopInterval : Int := 0
  phaseScriptsDir : String := ""
  extensionOutputFile : String := ""
  kubeEnvPath : String := ""
  resmgrKubeEnvPath : String := ""
  sunpikeConfigPath : String := ""
  sunpikeKubeEnvPath : String := ""
  disableSunpike : Bool := false
  disableLoop : Bool := false
  disableExtFile : Bool := false
  disableScripts : Bool := false
  disableConfigUpdate : Bool := false
  disableExitOnUpdate : Bool := false
  grpcRetryMax : Nat := 0
  grpcRetryTimeoutSeconds : Int := 0
  numCmdOutputLinesToLog : Int := 0
  cloudProviderType : String := ""
  masterIp : String := ""
  k8sApiPort : String := ""
  masterSchedulable : Bool := false
  userImagesDir : String := ""
  k8sPrivateRegistry : String := ""
  servicesCIDR : String := ""
  appCatalogEnabled : Bool := false
  kubeletCloudConfig : String := ""
  coreDNSHostsFile : String := ""
  runtime : String := ""
  dockerLogMaxFile : String := ""
  containerLogMaxFiles : String := ""
  containerLogMaxSize : String := ""
  enableCAS : Bool := false
  containerdCgroup : String := ""
  allowSwap : Bool := false
  cpuManagerPolicy : String := ""
  topologyManagerPolicy : String := ""
  reservedCPUs : String := ""
  ipv6Enabled : Bool := false
  deriving DecidableEq, Repr

/-- `DefaultConfig`: sane defaults for the nodelet service. -/
def defaultConfig : Config where
  debug := "false"
  useHostname := "false"
  clusterRole := roleNone
  kubeServiceState := serviceStateIgnore
  transportURL := "localhost:8111"
  connectTimeout := 20
  fullRetryCount := 10
  useCgroups := true
  phaseRetry := 3
  cpuLimit := 40
  loopInterval := defaultLoopInterval
  phaseScriptsDir := "/opt/pf9/pf9-kube/"
  extensionOutputFile := "/var/opt/pf9/kube_status"
  kubeEnvPath := "/etc/pf9/kube.env"
  resmgrKubeEnvPath := "/etc/pf9/kube_resmgr.env"
  sunpikeConfigPath := "/etc/pf9/nodelet/config_sunpike.yaml"
  sunpikeKubeEnvPath := "/etc/pf9/kube_sunpike.env"
  grpcRetryMax := 3
  grpcRetryTimeoutSeconds := 5
  numCmdOutputLinesToLog := 10
  userImagesDir := "/var/opt/pf9/images"
  coreDNSHostsFile := "/etc/hosts"
  k8sPrivateRegistry := "registry.k8s.io"
  runtime := "containerd"
  dockerLogMaxFile := "10"
  containerLogMaxFiles := "10"
  containerLogMaxSize := "10Mi"
  containerdCgroup := "systemd"
  cpuManagerPolicy := "none"
  topologyManagerPolicy := "none"
  servicesCIDR := "10.21.0.0/22"

/-- A field of the configuration. -/
inductive Key
  | debug | useHostname | clusterRole | clusterID | hostID | transportURL | connectTimeout
  | kubeServiceState | fullRetryCount | useCgroups | phaseRetry | cpuLimit |
    pf9StatusThresholdSeconds
  | loopInterval | phaseScriptsDir | extensionOutputFile | kubeEnvPath | resmgrKubeEnvPath
  | sunpikeConfigPath | sunpikeKubeEnvPath | disableSunpike | disableLoop | disableExtFile |
    disableScripts
  | disableConfigUpdate | disableExitOnUpdate | grpcRetryMax | grpcRetryTimeoutSeconds
  | numCmdOutputLinesToLog | cloudProviderType | masterIp | k8sApiPort | masterSchedulable |
    userImagesDir
  | k8sPrivateRegistry | servicesCIDR | appCatalogEnabled | kubeletCloudConfig | coreDNSHostsFile |
    runtime
  | dockerLogMaxFile | containerLogMaxFiles | containerLogMaxSize | enableCAS | containerdCgroup
  | allowSwap | cpuManagerPolicy | topologyManagerPolicy | reservedCPUs | ipv6Enabled
  deriving DecidableEq

namespace Key

/-- The `mapstructure` tag. The one of `DockerLogMaxFile` is misspelt, so it has none. -/
def tag : Key → String
  | .debug => "DEBUG"
  | .useHostname => "USE_HOSTNAME"
  | .clusterRole => "ROLE"
  | .clusterID => "CLUSTER_ID"
  | .hostID => "HOSTID"
  | .transportURL => "TRANSPORT_URL"
  | .connectTimeout => "CONNECTION_TIMEOUT"
  | .kubeServiceState => "KUBE_SERVICE_STATE"
  | .fullRetryCount => "FULL_RETRY_COUNT"
  | .useCgroups => "USE_CGROUPS"
  | .phaseRetry => "PHASE_RETRY"
  | .cpuLimit => "CPU_LIMIT"
  | .pf9StatusThresholdSeconds => "PF9_STATUS_THRESHOLD_SECONDS"
  | .loopInterval => "LOOP_INTERVAL"
  | .phaseScriptsDir => "PHASE_SCRIPTS_DIR"
  | .extensionOutputFile => "EXTENSION_OUTPUT_FILE"
  | .kubeEnvPath => "KUBE_ENV_PATH"
  | .resmgrKubeEnvPath => "RESMGR_KUBE_ENV_PATH"
  | .sunpikeConfigPath => "SUNPIKE_CONFIG_PATH"
  | .sunpikeKubeEnvPath => "SUNPIKE_KUBE_ENV_PATH"
  | .disableSunpike => "DISABLE_SUNPIKE"
  | .disableLoop => "DISABLE_LOOP"
  | .disableExtFile => "DISABLE_EXTFILE"
  | .disableScripts => "DISABLE_SCRIPTS"
  | .disableConfigUpdate => "DISABLE_CONFIGUPDATE"
  | .disableExitOnUpdate => "DISABLE_EXITONUPDATE"
  | .grpcRetryMax => "GRPC_RETRY_MAX"
  | .grpcRetryTimeoutSeconds => "GRPC_RETRY_TIMEOUT_SECONDS"
  | .numCmdOutputLinesToLog => "NUM_CMD_OP_LINES_TO_LOG"
  | .cloudProviderType => "CLOUD_PROVIDER_TYPE"
  | .masterIp => "MASTER_IP"
  | .k8sApiPort => "K8S_API_PORT"
  | .masterSchedulable => "ALLOW_WORKLOADS_ON_MASTER"
  | .userImagesDir => "USER_IMAGES_DIR"
  | .k8sPrivateRegistry => "K8S_PRIVATE_REGISTRY"
  | .servicesCIDR => "SERVICES_CIDR"
  | .appCatalogEnabled => "APP_CATALOG_ENABLED"
  | .kubeletCloudConfig => "KUBELET_CLOUD_CONFIG"
  | .coreDNSHostsFile => "COREDNS_HOSTS_FILE"
  | .runtime => "RUNTIME"
  | .dockerLogMaxFile => ""
  | .containerLogMaxFiles => "CONTAINER_LOG_MAX_FILES"
  | .containerLogMaxSize => "CONTAINER_LOG_MAX_SIZE"
  | .enableCAS => "ENABLE_CAS"
  | .containerdCgroup => "CONTAINERD_CGROUP"
  | .allowSwap => "ALLOW_SWAP"
  | .cpuManagerPolicy => "CPU_MANAGER_POLICY"
  | .topologyManagerPolicy => "TOPOLOGY_MANAGER_POLICY"
  | .reservedCPUs => "RESERVED_CPUS"
  | .ipv6Enabled => "IPV6_ENABLED"

/-- What the field is called in a file; without a tag, it is the name of the field. -/
def name (key : Key) : String := if key.tag = "" then "DockerLogMaxFile" else key.tag

def kind : Key → Kind
  | .connectTimeout | .fullRetryCount | .phaseRetry | .pf9StatusThresholdSeconds | .loopInterval |
    .grpcRetryTimeoutSeconds | .numCmdOutputLinesToLog => .int
  | .useCgroups | .disableSunpike | .disableLoop | .disableExtFile | .disableScripts |
    .disableConfigUpdate | .disableExitOnUpdate | .masterSchedulable | .appCatalogEnabled |
      .enableCAS |
    .allowSwap | .ipv6Enabled => .bool
  | .grpcRetryMax => .uint
  | .cpuLimit => .float
  | _ => .string

abbrev Value (key : Key) : Type := key.kind.Value

def all : List Key :=
  [.debug, .useHostname, .clusterRole, .clusterID, .hostID, .transportURL, .connectTimeout,
   .kubeServiceState, .fullRetryCount, .useCgroups, .phaseRetry, .cpuLimit,
     .pf9StatusThresholdSeconds,
   .loopInterval, .phaseScriptsDir, .extensionOutputFile, .kubeEnvPath, .resmgrKubeEnvPath,
   .sunpikeConfigPath, .sunpikeKubeEnvPath, .disableSunpike, .disableLoop, .disableExtFile,
   .disableScripts, .disableConfigUpdate, .disableExitOnUpdate, .grpcRetryMax,
     .grpcRetryTimeoutSeconds,
   .numCmdOutputLinesToLog, .cloudProviderType, .masterIp, .k8sApiPort, .masterSchedulable,
     .userImagesDir,
   .k8sPrivateRegistry, .servicesCIDR, .appCatalogEnabled, .kubeletCloudConfig, .coreDNSHostsFile,
   .runtime, .dockerLogMaxFile, .containerLogMaxFiles, .containerLogMaxSize, .enableCAS,
     .containerdCgroup,
   .allowSwap, .cpuManagerPolicy, .topologyManagerPolicy, .reservedCPUs, .ipv6Enabled]

theorem mem_all (key : Key) : key ∈ all := by
  cases key <;> decide

end Key

/-- The value a merge leaves in a field: the destination's unless it is zero. -/
def fill [DecidableEq α] (zero dst src : α) : α := if dst = zero then src else dst

namespace Config

def get (c : Config) : (key : Key) → key.Value
  | .debug => c.debug
  | .useHostname => c.useHostname
  | .clusterRole => c.clusterRole
  | .clusterID => c.clusterID
  | .hostID => c.hostID
  | .transportURL => c.transportURL
  | .connectTimeout => c.connectTimeout
  | .kubeServiceState => c.kubeServiceState
  | .fullRetryCount => c.fullRetryCount
  | .useCgroups => c.useCgroups
  | .phaseRetry => c.phaseRetry
  | .cpuLimit => c.cpuLimit
  | .pf9StatusThresholdSeconds => c.pf9StatusThresholdSeconds
  | .loopInterval => c.loopInterval
  | .phaseScriptsDir => c.phaseScriptsDir
  | .extensionOutputFile => c.extensionOutputFile
  | .kubeEnvPath => c.kubeEnvPath
  | .resmgrKubeEnvPath => c.resmgrKubeEnvPath
  | .sunpikeConfigPath => c.sunpikeConfigPath
  | .sunpikeKubeEnvPath => c.sunpikeKubeEnvPath
  | .disableSunpike => c.disableSunpike
  | .disableLoop => c.disableLoop
  | .disableExtFile => c.disableExtFile
  | .disableScripts => c.disableScripts
  | .disableConfigUpdate => c.disableConfigUpdate
  | .disableExitOnUpdate => c.disableExitOnUpdate
  | .grpcRetryMax => c.grpcRetryMax
  | .grpcRetryTimeoutSeconds => c.grpcRetryTimeoutSeconds
  | .numCmdOutputLinesToLog => c.numCmdOutputLinesToLog
  | .cloudProviderType => c.cloudProviderType
  | .masterIp => c.masterIp
  | .k8sApiPort => c.k8sApiPort
  | .masterSchedulable => c.masterSchedulable
  | .userImagesDir => c.userImagesDir
  | .k8sPrivateRegistry => c.k8sPrivateRegistry
  | .servicesCIDR => c.servicesCIDR
  | .appCatalogEnabled => c.appCatalogEnabled
  | .kubeletCloudConfig => c.kubeletCloudConfig
  | .coreDNSHostsFile => c.coreDNSHostsFile
  | .runtime => c.runtime
  | .dockerLogMaxFile => c.dockerLogMaxFile
  | .containerLogMaxFiles => c.containerLogMaxFiles
  | .containerLogMaxSize => c.containerLogMaxSize
  | .enableCAS => c.enableCAS
  | .containerdCgroup => c.containerdCgroup
  | .allowSwap => c.allowSwap
  | .cpuManagerPolicy => c.cpuManagerPolicy
  | .topologyManagerPolicy => c.topologyManagerPolicy
  | .reservedCPUs => c.reservedCPUs
  | .ipv6Enabled => c.ipv6Enabled

/-- The configuration with these fields. -/
def ofFields (value : (key : Key) → key.Value) : Config where
  debug := value .debug
  useHostname := value .useHostname
  clusterRole := value .clusterRole
  clusterID := value .clusterID
  hostID := value .hostID
  transportURL := value .transportURL
  connectTimeout := value .connectTimeout
  kubeServiceState := value .kubeServiceState
  fullRetryCount := value .fullRetryCount
  useCgroups := value .useCgroups
  phaseRetry := value .phaseRetry
  cpuLimit := value .cpuLimit
  pf9StatusThresholdSeconds := value .pf9StatusThresholdSeconds
  loopInterval := value .loopInterval
  phaseScriptsDir := value .phaseScriptsDir
  extensionOutputFile := value .extensionOutputFile
  kubeEnvPath := value .kubeEnvPath
  resmgrKubeEnvPath := value .resmgrKubeEnvPath
  sunpikeConfigPath := value .sunpikeConfigPath
  sunpikeKubeEnvPath := value .sunpikeKubeEnvPath
  disableSunpike := value .disableSunpike
  disableLoop := value .disableLoop
  disableExtFile := value .disableExtFile
  disableScripts := value .disableScripts
  disableConfigUpdate := value .disableConfigUpdate
  disableExitOnUpdate := value .disableExitOnUpdate
  grpcRetryMax := value .grpcRetryMax
  grpcRetryTimeoutSeconds := value .grpcRetryTimeoutSeconds
  numCmdOutputLinesToLog := value .numCmdOutputLinesToLog
  cloudProviderType := value .cloudProviderType
  masterIp := value .masterIp
  k8sApiPort := value .k8sApiPort
  masterSchedulable := value .masterSchedulable
  userImagesDir := value .userImagesDir
  k8sPrivateRegistry := value .k8sPrivateRegistry
  servicesCIDR := value .servicesCIDR
  appCatalogEnabled := value .appCatalogEnabled
  kubeletCloudConfig := value .kubeletCloudConfig
  coreDNSHostsFile := value .coreDNSHostsFile
  runtime := value .runtime
  dockerLogMaxFile := value .dockerLogMaxFile
  containerLogMaxFiles := value .containerLogMaxFiles
  containerLogMaxSize := value .containerLogMaxSize
  enableCAS := value .enableCAS
  containerdCgroup := value .containerdCgroup
  allowSwap := value .allowSwap
  cpuManagerPolicy := value .cpuManagerPolicy
  topologyManagerPolicy := value .topologyManagerPolicy
  reservedCPUs := value .reservedCPUs
  ipv6Enabled := value .ipv6Enabled

theorem get_ofFields (value : (key : Key) → key.Value) (key : Key) :
    (ofFields value).get key = value key := by
  cases key <;> rfl

/-- `mergo.Merge(&dst, src)`. -/
def merge (dst src : Config) : Config :=
  .ofFields fun key => fill key.kind.zero (dst.get key) (src.get key)

theorem get_merge (dst src : Config) (key : Key) :
    (dst.merge src).get key = fill key.kind.zero (dst.get key) (src.get key) :=
  get_ofFields _ key

theorem get_empty (key : Key) : ({} : Config).get key = key.kind.zero := by
  cases key <;> rfl

end Config

structure RootOptions where
  debug : Bool
  configFileOrDirPath : String
  nodeletConfig : Config
  loopInterval : Int

/-- The flag-filled part of the configuration. -/
def RootOptions.flagConfig (o : RootOptions) : Config :=
  let flags := if o.debug then { o.nodeletConfig with debug := "true" } else o.nodeletConfig
  if o.loopInterval > 0 then { flags with loopInterval := o.loopInterval / 1000000000 } else flags

/-- `RootOptions.Complete`. `load` is what reading the configuration file or
directory at the given path yields. -/
def RootOptions.complete (o : RootOptions) (load : String → Except Go.Error Config) :
    Except Go.Error RootOptions := do
  let merged ←
    if o.configFileOrDirPath = "" then pure o.flagConfig
    else o.flagConfig.merge <$> load o.configFileOrDirPath
  return { o with nodeletConfig := merged.merge defaultConfig }

/-- `RootOptions.Validate`. -/
def RootOptions.validate (o : RootOptions) : Option Go.Error :=
  if o.nodeletConfig.loopInterval < 30 then some "loop interval cannot be lower then 30 seconds"
  else none

/-- The configurations `Run` is started with. -/
def Accepted (cfg : Config) : Prop :=
  ∃ (o completed : RootOptions) (load : String → Except Go.Error Config),
    o.complete load = .ok completed ∧ completed.validate = none ∧ completed.nodeletConfig = cfg

end Nodelet
