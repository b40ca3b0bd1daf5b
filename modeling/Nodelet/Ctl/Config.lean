import Nodelet.Go.Program
import Nodelet.Go.Filepath

/-! The configuration of a cluster, as the command-line tool reads it, and the configuration
of the agent on each node that is derived from it. -/
namespace Nodeletctl

def defaultClusterName := "airctl-mgmt"
def clusterStateDir := "/etc/nodelet/"
def nodeletTarSrc := "/opt/pf9/airctl/nodelet/nodelet.tar.gz"
def nodeHealthy := "ok"
def defaultCalicoV4Cidr := "10.20.0.0/22"
def defaultCalicoV6Cidr := "fd00:101::/116"
def defaultV4ServicesCidr := "10.21.0.0/22"
def defaultV6ServicesCidr := "fd00:102::/116"

/-- Where the certificates of a cluster are kept. -/
def clusterCertsDir (clusterId : String) : String :=
    Go.Filepath.join [clusterStateDir, clusterId, "certs"]

/-- A Go slice, which is nil or has elements. -/
abbrev Slice (α : Type) := Option (List α)

def Slice.elements (slice : Slice α) : List α := slice.getD []

structure CalicoConfig where
  v4Interface : String := ""
  v6Interface : String := ""
  v4ContainersCidr : String := ""
  v6ContainersCidr : String := ""
  v4BlockSize : Int := 0
  v6BlockSize : Int := 0
  v4NATOutgoing : Bool := false
  v6NATOutgoing : Bool := false
  v4IpIpMode : String := ""
  deriving DecidableEq, Repr

structure CoreDNSConfig where
  hostsFile : String := ""
  inlineHosts : Slice String := none
  deriving DecidableEq, Repr

structure ContainerRuntimeConfig where
  name : String := ""
  cgroupDriver : String := ""
  deriving DecidableEq, Repr

structure HostConfig where
  nodeName : String
  nodeIP : Option String := none
  v4InterfaceOverride : Option String := none
  v6InterfaceOverride : Option String := none
  deriving DecidableEq, Repr

/-- The address of a host: its name where none is given. -/
def HostConfig.hostIp (host : HostConfig) : String := host.nodeIP.getD host.nodeName

structure BootstrapConfig where
  sshUser : String := ""
  sshPrivateKeyFile : String := ""
  certsDir : String := ""
  kubeConfig : String := ""
  pf9KubePkg : String := ""
  clusterId : String := ""
  allowWorkloadsOnMaster : Bool := false
  k8sApiPort : String := ""
  masterIp : String := ""
  masterVipEnabled : Bool := false
  masterVipInterface : String := ""
  masterVipVrouterId : Int := 0
  mtu : String := ""
  privileged : String := ""
  containerRuntime : ContainerRuntimeConfig := {}
  userImages : Slice String := none
  dns : CoreDNSConfig := {}
  useHostname : Bool := false
  ipv6Enabled : Bool := false
  calico : CalicoConfig := {}
  servicesCidr : String := ""
  masterNodes : Slice HostConfig := none
  workerNodes : Slice HostConfig := none
  deriving DecidableEq, Repr

namespace BootstrapConfig

def masters (cfg : BootstrapConfig) : List HostConfig := cfg.masterNodes.elements
def workers (cfg : BootstrapConfig) : List HostConfig := cfg.workerNodes.elements

/-- `append(clusterCfg.WorkerNodes, clusterCfg.MasterNodes...)`. -/
def allNodes (cfg : BootstrapConfig) : List HostConfig := cfg.workers ++ cfg.masters

/-- The directory of the certificates that are used: that of the cluster where none is given. -/
def trustedDir (cfg : BootstrapConfig) : String :=
  if cfg.certsDir = "" then clusterCertsDir cfg.clusterId else cfg.certsDir

end BootstrapConfig

def initBootstrapConfig : BootstrapConfig where
  allowWorkloadsOnMaster := false
  clusterId := defaultClusterName
  containerRuntime := ⟨"containerd", "systemd"⟩
  sshUser := "root"
  sshPrivateKeyFile := "/root/.ssh/id_rsa"
  pf9KubePkg := nodeletTarSrc
  privileged := "true"
  k8sApiPort := "443"
  masterVipEnabled := false
  mtu := "1440"
  ipv6Enabled := false
  useHostname := false
  calico :=
    { v4BlockSize := 26
      v6BlockSize := 122
      v4ContainersCidr := defaultCalicoV4Cidr
      v6ContainersCidr := defaultCalicoV6Cidr
      v4NATOutgoing := true
      v6NATOutgoing := false
      v4IpIpMode := "Always"
      v4Interface := "first-found"
      v6Interface := "first-found" }

def isClusterCfgValid (cfg : BootstrapConfig) : Except Go.Error Unit :=
  if cfg.masters.length = 0 then .error "Number of master nodes cannot be zero"
  else if cfg.masters.length % 2 = 0 then .error "Number of master nodes cannot be even"
  else if !cfg.allowWorkloadsOnMaster && cfg.workers.length == 0 then
    .error "Number of worker nodes cannot be zero when no workloads are allowed on masters"
  else if cfg.masterVipEnabled && cfg.masterVipInterface == "" then
    .error "MasterVipInterface cannot be empty when MasterVip is enabled"
  else if cfg.masterVipEnabled && (cfg.masterVipVrouterId < 1 || 255 < cfg.masterVipVrouterId) then
    .error "MasterVipVrouterId should be in the range 1-255 when MasterVip is enabled"
  else .ok ()

/-- The configuration has passed the check. -/
def BootstrapConfig.Accepted (cfg : BootstrapConfig) : Prop := isClusterCfgValid cfg = .ok ()

theorem BootstrapConfig.Accepted.masters_ne_nil {cfg : BootstrapConfig} (accepted : cfg.Accepted) :
    cfg.masters ≠ [] := by
  intro none
  simp [Accepted, isClusterCfgValid, none] at accepted

inductive Role where
  | master
  | worker
  deriving DecidableEq, Repr

structure NodeletConfig where
  allowWorkloadsOnMaster : Bool := false
  calicoV4Interface : String := ""
  calicoV6Interface : String := ""
  clusterId : String := ""
  containerRuntime : ContainerRuntimeConfig := {}
  etcdClusterState : String := ""
  hostId : String := ""
  hostIp : String := ""
  k8sApiPort : String := ""
  /-- Name and address of each master. -/
  masterList : List (String × String) := []
  masterIp : String := ""
  masterVipEnabled : Bool := false
  masterVipInterface : String := ""
  masterVipVrouterId : Int := 0
  mtu : String := ""
  privileged : String := ""
  nodeletRole : Option Role := none
  userImages : Slice String := none
  coreDNSHostsFile : String := ""
  ipv6Enabled : Bool := false
  useHostname : Bool := false
  calicoIP4 : String := ""
  calicoIP6 : String := ""
  calicoV4BlockSize : Int := 0
  calicoV6BlockSize : Int := 0
  calicoV6ContainersCidr : String := ""
  calicoV4NATOutgoing : Bool := false
  calicoV6NATOutgoing : Bool := false
  calicoV4IpIpMode : String := ""
  containersCidr : String := ""
  servicesCidr : String := ""
  deriving DecidableEq, Repr

/-- The services network, with its default for the address family. -/
def BootstrapConfig.effectiveServicesCidr (cfg : BootstrapConfig) : String :=
  if cfg.servicesCidr = "" then
    if cfg.ipv6Enabled then defaultV6ServicesCidr else defaultV4ServicesCidr
  else cfg.servicesCidr

/-- What every node takes from the cluster. An empty services network is filled in for both. -/
def setNodeletClusterCfg (cfg : BootstrapConfig) : BootstrapConfig × NodeletConfig :=
  ({ cfg with servicesCidr := cfg.effectiveServicesCidr },
   { allowWorkloadsOnMaster := cfg.allowWorkloadsOnMaster
     clusterId := cfg.clusterId
     containerRuntime := cfg.containerRuntime
     k8sApiPort := cfg.k8sApiPort
     masterIp := cfg.masterIp
     masterVipEnabled := cfg.masterVipEnabled
     masterVipInterface := cfg.masterVipInterface
     masterVipVrouterId := cfg.masterVipVrouterId
     mtu := cfg.mtu
     privileged := cfg.privileged
     userImages := cfg.userImages
     coreDNSHostsFile := cfg.dns.hostsFile
     ipv6Enabled := cfg.ipv6Enabled
     calicoV4Interface := cfg.calico.v4Interface
     calicoV4BlockSize := cfg.calico.v4BlockSize
     calicoV4IpIpMode := cfg.calico.v4IpIpMode
     calicoV4NATOutgoing := cfg.calico.v4NATOutgoing
     containersCidr := if cfg.ipv6Enabled then cfg.calico.v6ContainersCidr else cfg.calico.v4ContainersCidr
     calicoV6Interface := cfg.calico.v6Interface
     calicoV6BlockSize := cfg.calico.v6BlockSize
     calicoV6NATOutgoing := cfg.calico.v6NATOutgoing
     calicoV6ContainersCidr := cfg.calico.v6ContainersCidr
     useHostname := if cfg.ipv6Enabled then true else cfg.useHostname
     calicoIP4 := if cfg.ipv6Enabled then "none" else "autodetect"
     calicoIP6 := if cfg.ipv6Enabled then "autodetect" else "none"
     servicesCidr := cfg.effectiveServicesCidr })

/-- The configuration of one host. -/
def nodeletConfig (cfg : BootstrapConfig) (host : HostConfig) : NodeletConfig :=
  { (setNodeletClusterCfg cfg).2 with hostId := host.nodeName, hostIp := host.hostIp }

end Nodeletctl
