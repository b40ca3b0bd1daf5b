import Mathlib.Data.List.Nodup

/-! The specification of a host as Sunpike sends it, and its fields as reflection
shows them: each scalar with its `kube.env` tag, nested structures, and the
free-form map, whose entries have no tag. -/
namespace Nodelet.Sunpike

/-- A `map[string]string`: its entries, in no particular order. -/
structure ExtraCfg where
  entries : List (String × String)
  distinct : (entries.map Prod.fst).Nodup
  deriving DecidableEq

/-- A field of a structure by its kind. -/
inductive Field where
  | string (tag : String) (value : String)
  | int32 (tag : String) (value : Int32)
  | bool (tag : String) (value : Bool)
  | struct (fields : List Field)
  | map

structure KeepalivedOpts where
  enabled : Bool := false
  masterVIPInterface : String := ""
  masterVIPPriority : String := ""
  masterVIPRouterID : String := ""
  deriving DecidableEq

def KeepalivedOpts.fields (o : KeepalivedOpts) : List Field :=
  [.bool "MASTER_VIP_ENABLED" o.enabled, .string "MASTER_VIP_IFACE" o.masterVIPInterface,
    .string "MASTER_VIP_PRIORITY" o.masterVIPPriority, .string "MASTER_VIP_VROUTER_ID"
      o.masterVIPRouterID]

structure KeystoneOpts where
  enabled : Bool := false
  domain : String := ""
  authURL : String := ""
  password : String := ""
  username : String := ""
  projectDomainName : String := ""
  projectName : String := ""
  region : String := ""
  userDomainName : String := ""
  deriving DecidableEq

def KeystoneOpts.fields (o : KeystoneOpts) : List Field :=
  [.bool "KEYSTONE_ENABLED" o.enabled, .string "KEYSTONE_DOMAIN" o.domain,
    .string "OS_AUTH_URL" o.authURL,
    .string "OS_PASSWORD" o.password, .string "OS_USERNAME" o.username,
    .string "OS_PROJECT_DOMAIN_NAME" o.projectDomainName, .string "OS_PROJECT_NAME" o.projectName,
    .string "OS_REGION" o.region, .string "OS_USER_DOMAIN_NAME" o.userDomainName]

/-- Miscellaneous configuration related to PF9 services. -/
structure PF9Opts where
  vaultToken : String := ""
  masterless : Bool := false
  bouncerSlowReqWebhook : String := ""
  cloudProviderType : String := ""
  clusterID : String := ""
  clusterProjectID : String := ""
  debug : Bool := false
  kubeServiceState : String := ""
  externalDNSName : String := ""
  clusterRole : String := ""
  keepalived : KeepalivedOpts := {}
  keystone : KeystoneOpts := {}
  masterIP : String := ""
  deriving DecidableEq

def PF9Opts.fields (o : PF9Opts) : List Field :=
  [.string "VAULT_TOKEN" o.vaultToken, .bool "MASTERLESS_ENABLED" o.masterless,
    .string "BOUNCER_SLOW_REQUEST_WEBHOOK" o.bouncerSlowReqWebhook,
    .string "CLOUD_PROVIDER_TYPE" o.cloudProviderType, .string "CLUSTER_ID" o.clusterID,
    .string "CLUSTER_PROJECT_ID" o.clusterProjectID, .bool "DEBUG" o.debug,
    .string "KUBE_SERVICE_STATE" o.kubeServiceState, .string "EXTERNAL_DNS_NAME" o.externalDNSName,
    .string "ROLE" o.clusterRole, .struct o.keepalived.fields, .struct o.keystone.fields,
    .string "MASTER_IP" o.masterIP]

structure KubeSchedulerOpts where
  extraArgs : String := ""
  deriving DecidableEq

def KubeSchedulerOpts.fields (o : KubeSchedulerOpts) : List Field :=
  [.string "SCHEDULER_FLAGS" o.extraArgs]

structure KubeControllerManagerOpts where
  extraArgs : String := ""
  deriving DecidableEq

def KubeControllerManagerOpts.fields (o : KubeControllerManagerOpts) : List Field :=
  [.string "CONTROLLER_MANAGER_FLAGS" o.extraArgs]

structure KubeApiserverOpts where
  storageBackend : String := ""
  privileged : Bool := false
  port : Int32 := 0
  authz : Bool := false
  runtimeConfig : String := ""
  extraArgs : String := ""
  deriving DecidableEq

def KubeApiserverOpts.fields (o : KubeApiserverOpts) : List Field :=
  [.string "APISERVER_STORAGE_BACKEND" o.storageBackend, .bool "PRIVILEGED" o.privileged,
    .int32 "K8S_API_PORT" o.port, .bool "AUTHZ_ENABLED" o.authz,
      .string "RUNTIME_CONFIG" o.runtimeConfig,
    .string "API_SERVER_FLAGS" o.extraArgs]

structure CalicoOpts where
  ipipMode : String := ""
  ipv4BlkSize : Int32 := 0
  natOutgoing : Bool := false
  ipv4Mode : String := ""
  ipv4DetectionMethod : String := ""
  ipv6Mode : String := ""
  ipv6BlkSize : Int32 := 0
  ipv6PoolCIDR : String := ""
  ipv6PoolNAT : Bool := false
  ipv6DetectionMethod : String := ""
  routerID : String := ""
  felixIPv6Support : Bool := false
  deriving DecidableEq

def CalicoOpts.fields (o : CalicoOpts) : List Field :=
  [.string "CALICO_IPIP_MODE" o.ipipMode, .int32 "CALICO_IPV4_BLOCK_SIZE" o.ipv4BlkSize,
    .bool "CALICO_NAT_OUTGOING" o.natOutgoing, .string "CALICO_IPV4" o.ipv4Mode,
    .string "CALICO_IPV4_DETECTION_METHOD" o.ipv4DetectionMethod, .string "CALICO_IPV6" o.ipv6Mode,
    .int32 "CALICO_IPV6POOL_BLOCK_SIZE" o.ipv6BlkSize, .string "CALICO_IPV6POOL_CIDR"
      o.ipv6PoolCIDR,
    .bool "CALICO_IPV6POOL_NAT_OUTGOING" o.ipv6PoolNAT,
    .string "CALICO_IPV6_DETECTION_METHOD" o.ipv6DetectionMethod,
      .string "CALICO_ROUTER_ID" o.routerID,
    .bool "FELIX_IPV6SUPPORT" o.felixIPv6Support]

structure FlannelOpts where
  interfaceLabel : String := ""
  publicInterfaceLabel : String := ""
  deriving DecidableEq

def FlannelOpts.fields (o : FlannelOpts) : List Field :=
  [.string "FLANNEL_IFACE_LABEL" o.interfaceLabel,
    .string "FLANNEL_PUBLIC_IFACE_LABEL" o.publicInterfaceLabel]

structure CNIOpts where
  bridge : String := ""
  mtuSize : Int32 := 0
  ipv6 : Bool := false
  networkPlugin : String := ""
  calico : CalicoOpts := {}
  flannel : FlannelOpts := {}
  deriving DecidableEq

def CNIOpts.fields (o : CNIOpts) : List Field :=
  [.string "CNI_BRIDGE" o.bridge, .int32 "MTU_SIZE" o.mtuSize, .bool "IPV6_ENABLED" o.ipv6,
    .string "PF9_NETWORK_PLUGIN" o.networkPlugin, .struct o.calico.fields, .struct o.flannel.fields]

structure AppCatalogOpts where
  enabled : Bool := false
  deriving DecidableEq

def AppCatalogOpts.fields (o : AppCatalogOpts) : List Field :=
  [.bool "APP_CATALOG_ENABLED" o.enabled]

structure ClusterAutoScalerOpts where
  enabled : Bool := false
  minWorkers : Int32 := 0
  maxWorkers : Int32 := 0
  deriving DecidableEq

def ClusterAutoScalerOpts.fields (o : ClusterAutoScalerOpts) : List Field :=
  [.bool "ENABLE_CAS" o.enabled, .int32 "MIN_NUM_WORKERS" o.minWorkers,
    .int32 "MAX_NUM_WORKERS" o.maxWorkers]

structure LuigiOpts where
  enabled : Bool := false
  deriving DecidableEq

def LuigiOpts.fields (o : LuigiOpts) : List Field :=
  [.bool "DEPLOY_LUIGI_OPERATOR" o.enabled]

structure KubeVirtOpts where
  enabled : Bool := false
  deriving DecidableEq

def KubeVirtOpts.fields (o : KubeVirtOpts) : List Field :=
  [.bool "DEPLOY_KUBEVIRT" o.enabled]

structure CPUManagerOpts where
  cpuManagerPolicy : String := ""
  topologyManagerPolicy : String := ""
  reservedCPUs : String := ""
  deriving DecidableEq

def CPUManagerOpts.fields (o : CPUManagerOpts) : List Field :=
  [.string "CPU_MANAGER_POLICY" o.cpuManagerPolicy,
    .string "TOPOLOGY_MANAGER_POLICY" o.topologyManagerPolicy, .string "RESERVED_CPUS" o.reservedCPUs]

structure ProfileAgentOpts where
  enabled : Bool := false
  deriving DecidableEq

def ProfileAgentOpts.fields (o : ProfileAgentOpts) : List Field :=
  [.bool "ENABLE_PROFILE_AGENT" o.enabled]

structure AddonsOpts where
  appCatalog : AppCatalogOpts := {}
  cas : ClusterAutoScalerOpts := {}
  luigi : LuigiOpts := {}
  kubevirt : KubeVirtOpts := {}
  cpuManager : CPUManagerOpts := {}
  profileAgent : ProfileAgentOpts := {}
  deriving DecidableEq

def AddonsOpts.fields (o : AddonsOpts) : List Field :=
  [.struct o.appCatalog.fields, .struct o.cas.fields, .struct o.luigi.fields,
    .struct o.kubevirt.fields, .struct o.cpuManager.fields, .struct o.profileAgent.fields]

structure KubeProxyOpts where
  mode : String := ""
  deriving DecidableEq

def KubeProxyOpts.fields (o : KubeProxyOpts) : List Field :=
  [.string "KUBE_PROXY_MODE" o.mode]

structure MetalLBOpts where
  cidr : String := ""
  enabled : Bool := false
  deriving DecidableEq

def MetalLBOpts.fields (o : MetalLBOpts) : List Field :=
  [.string "METALLB_CIDR" o.cidr, .bool "METALLB_ENABLED" o.enabled]

/-- Cluster-wide configuration. -/
structure KubeClusterOpts where
  scheduler : KubeSchedulerOpts := {}
  controllerManager : KubeControllerManagerOpts := {}
  apiserver : KubeApiserverOpts := {}
  cni : CNIOpts := {}
  addons : AddonsOpts := {}
  kubeProxy : KubeProxyOpts := {}
  metalLB : MetalLBOpts := {}
  useHostname : Bool := false
  deriving DecidableEq

def KubeClusterOpts.fields (o : KubeClusterOpts) : List Field :=
  [.struct o.scheduler.fields, .struct o.controllerManager.fields, .struct o.apiserver.fields,
    .struct o.cni.fields, .struct o.addons.fields, .struct o.kubeProxy.fields, .struct o.metalLB.fields,
    .bool "USE_HOSTNAME" o.useHostname]

/-- Configuration of the etcd cluster. -/
structure EtcdOpts where
  dataDir : String := ""
  discoveryURL : String := ""
  electionTimeout : Int32 := 0
  env : String := ""
  heartbeatIntervalMs : Int32 := 0
  version : String := ""
  deriving DecidableEq

def EtcdOpts.fields (o : EtcdOpts) : List Field :=
  [.string "ETCD_DATA_DIR" o.dataDir, .string "ETCD_DISCOVERY_URL" o.discoveryURL,
    .int32 "ETCD_ELECTION_TIMEOUT" o.electionTimeout, .string "ETCD_ENV" o.env,
    .int32 "ETCD_HEARTBEAT_INTERVAL" o.heartbeatIntervalMs, .string "ETCD_VERSION" o.version]

structure KubeletOpts where
  cloudCfg : String := ""
  deriving DecidableEq

def KubeletOpts.fields (o : KubeletOpts) : List Field :=
  [.string "KUBELET_CLOUD_CONFIG" o.cloudCfg]

structure DockerOpts where
  liveRestore : Bool := false
  rootDir : String := ""
  dockerhubID : String := ""
  dockerhubPassword : String := ""
  registryMirrors : String := ""
  dockerCentosPackageRepoUrl : String := ""
  dockerUbuntuPackageRepoUrl : String := ""
  deriving DecidableEq

def DockerOpts.fields (o : DockerOpts) : List Field :=
  [.bool "DOCKER_LIVE_RESTORE_ENABLED" o.liveRestore, .string "DOCKER_ROOT" o.rootDir,
    .string "DOCKERHUB_ID" o.dockerhubID, .string "DOCKERHUB_PASSWORD" o.dockerhubPassword,
    .string "REGISTRY_MIRRORS" o.registryMirrors,
    .string "DOCKER_CENTOS_REPO_URL" o.dockerCentosPackageRepoUrl,
    .string "DOCKER_UBUNTU_REPO_URL" o.dockerUbuntuPackageRepoUrl]

/-- The desired behaviour of the host. A nil `ExtraCfg` differs from an empty one. -/
structure HostSpec where
  extraCfg : Option ExtraCfg := none
  pf9Cfg : PF9Opts := {}
  clusterCfg : KubeClusterOpts := {}
  etcd : EtcdOpts := {}
  extraOpts : String := ""
  servicesCIDR : String := ""
  containersCIDR : String := ""
  allowWorkloadsOnMaster : Bool := false
  kubelet : KubeletOpts := {}
  docker : DockerOpts := {}
  dockerPrivateRegistry : String := ""
  quayPrivateRegistry : String := ""
  gcrPrivateRegistry : String := ""
  k8sPrivateRegistry : String := ""
  containerRuntime : String := ""
  deriving DecidableEq

def HostSpec.fields (o : HostSpec) : List Field :=
  [.map, .struct o.pf9Cfg.fields, .struct o.clusterCfg.fields, .struct o.etcd.fields,
    .string "EXTRA_OPTS" o.extraOpts, .string "SERVICES_CIDR" o.servicesCIDR,
    .string "CONTAINERS_CIDR" o.containersCIDR, .bool "ALLOW_WORKLOADS_ON_MASTER" o.allowWorkloadsOnMaster,
    .struct o.kubelet.fields, .struct o.docker.fields,
    .string "DOCKER_PRIVATE_REGISTRY" o.dockerPrivateRegistry,
    .string "QUAY_PRIVATE_REGISTRY" o.quayPrivateRegistry,
    .string "GCR_PRIVATE_REGISTRY" o.gcrPrivateRegistry,
    .string "K8S_PRIVATE_REGISTRY" o.k8sPrivateRegistry, .string "RUNTIME" o.containerRuntime]

end Nodelet.Sunpike
