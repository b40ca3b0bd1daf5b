import Nodelet.Shape

/-! How a host is read back from the mapping behind `kube.env`. -/
namespace Nodelet
open Sunpike

section Shapes
open Shape (string bool int32 struct map both)

def keepalivedShape : Shape KeepalivedOpts :=
  Shape.via (both (bool "MASTER_VIP_ENABLED") <| both (string "MASTER_VIP_IFACE") <|
      both (string "MASTER_VIP_PRIORITY") <| string "MASTER_VIP_VROUTER_ID")
    (fun ⟨a, b, c, d⟩ => (a, b, c, d)) (fun (a, b, c, d) => ⟨a, b, c, d⟩) fun _ => rfl

def keystoneShape : Shape KeystoneOpts :=
  Shape.via (both (bool "KEYSTONE_ENABLED") <| both (string "KEYSTONE_DOMAIN") <|
    both (string "OS_AUTH_URL") <|
      both (string "OS_PASSWORD") <| both (string "OS_USERNAME") <| both (string "OS_PROJECT_DOMAIN_NAME") <|
      both (string "OS_PROJECT_NAME") <| both (string "OS_REGION") <| string "OS_USER_DOMAIN_NAME")
    (fun ⟨a, b, c, d, e, f, g, h, i⟩ => (a, b, c, d, e, f, g, h, i))
    (fun (a, b, c, d, e, f, g, h, i) => ⟨a, b, c, d, e, f, g, h, i⟩) fun _ => rfl

def pf9Shape : Shape PF9Opts :=
  Shape.via (both (string "VAULT_TOKEN") <| both (bool "MASTERLESS_ENABLED") <|
      both (string "BOUNCER_SLOW_REQUEST_WEBHOOK") <| both (string "CLOUD_PROVIDER_TYPE") <|
      both (string "CLUSTER_ID") <| both (string "CLUSTER_PROJECT_ID") <| both (bool "DEBUG") <|
      both (string "KUBE_SERVICE_STATE") <| both (string "EXTERNAL_DNS_NAME") <| both (string "ROLE") <|
      both (struct "Keepalived" keepalivedShape) <| both (struct "Keystone" keystoneShape) <|
      string "MASTER_IP")
    (fun ⟨a, b, c, d, e, f, g, h, i, j, k, l, m⟩ => (a, b, c, d, e, f, g, h, i, j, k, l, m))
    (fun (a, b, c, d, e, f, g, h, i, j, k, l, m) => ⟨a, b, c, d, e, f, g, h, i, j, k, l, m⟩) fun _ => rfl

def kubeSchedulerShape : Shape KubeSchedulerOpts :=
  (string "SCHEDULER_FLAGS").via (·.extraArgs) (⟨·⟩) fun _ => rfl

def kubeControllerManagerShape : Shape KubeControllerManagerOpts :=
  (string "CONTROLLER_MANAGER_FLAGS").via (·.extraArgs) (⟨·⟩) fun _ => rfl

def kubeApiserverShape : Shape KubeApiserverOpts :=
  Shape.via (both (string "APISERVER_STORAGE_BACKEND") <| both (bool "PRIVILEGED") <|
      both (int32 "K8S_API_PORT") <| both (bool "AUTHZ_ENABLED") <| both (string "RUNTIME_CONFIG") <|
      string "API_SERVER_FLAGS")
    (fun ⟨a, b, c, d, e, f⟩ => (a, b, c, d, e, f)) (fun (a, b, c, d, e, f) => ⟨a, b, c, d, e, f⟩) fun _ => rfl

def calicoShape : Shape CalicoOpts :=
  Shape.via (both (string "CALICO_IPIP_MODE") <| both (int32 "CALICO_IPV4_BLOCK_SIZE") <|
      both (bool "CALICO_NAT_OUTGOING") <| both (string "CALICO_IPV4") <|
      both (string "CALICO_IPV4_DETECTION_METHOD") <| both (string "CALICO_IPV6") <|
      both (int32 "CALICO_IPV6POOL_BLOCK_SIZE") <| both (string "CALICO_IPV6POOL_CIDR") <|
      both (bool "CALICO_IPV6POOL_NAT_OUTGOING") <| both (string "CALICO_IPV6_DETECTION_METHOD") <|
      both (string "CALICO_ROUTER_ID") <| bool "FELIX_IPV6SUPPORT")
    (fun ⟨a, b, c, d, e, f, g, h, i, j, k, l⟩ => (a, b, c, d, e, f, g, h, i, j, k, l))
    (fun (a, b, c, d, e, f, g, h, i, j, k, l) => ⟨a, b, c, d, e, f, g, h, i, j, k, l⟩) fun _ => rfl

def flannelShape : Shape FlannelOpts :=
  Shape.via (both (string "FLANNEL_IFACE_LABEL") <| string "FLANNEL_PUBLIC_IFACE_LABEL")
    (fun ⟨a, b⟩ => (a, b)) (fun (a, b) => ⟨a, b⟩) fun _ => rfl

def cniShape : Shape CNIOpts :=
  Shape.via (both (string "CNI_BRIDGE") <| both (int32 "MTU_SIZE") <| both (bool "IPV6_ENABLED") <|
      both (string "PF9_NETWORK_PLUGIN") <| both (struct "Calico" calicoShape) <| struct "Flannel" flannelShape)
    (fun ⟨a, b, c, d, e, f⟩ => (a, b, c, d, e, f)) (fun (a, b, c, d, e, f) => ⟨a, b, c, d, e, f⟩) fun _ => rfl

def appCatalogShape : Shape AppCatalogOpts :=
    (bool "APP_CATALOG_ENABLED").via (·.enabled) (⟨·⟩) fun _ => rfl

def clusterAutoScalerShape : Shape ClusterAutoScalerOpts :=
  Shape.via (both (bool "ENABLE_CAS") <| both (int32 "MIN_NUM_WORKERS") <| int32 "MAX_NUM_WORKERS")
    (fun ⟨a, b, c⟩ => (a, b, c)) (fun (a, b, c) => ⟨a, b, c⟩) fun _ => rfl

def luigiShape : Shape LuigiOpts :=
    (bool "DEPLOY_LUIGI_OPERATOR").via (·.enabled) (⟨·⟩) fun _ => rfl

def kubeVirtShape : Shape KubeVirtOpts :=
    (bool "DEPLOY_KUBEVIRT").via (·.enabled) (⟨·⟩) fun _ => rfl

def cpuManagerShape : Shape CPUManagerOpts :=
  Shape.via (both (string "CPU_MANAGER_POLICY") <| both (string "TOPOLOGY_MANAGER_POLICY") <|
      string "RESERVED_CPUS")
    (fun ⟨a, b, c⟩ => (a, b, c)) (fun (a, b, c) => ⟨a, b, c⟩) fun _ => rfl

def profileAgentShape : Shape ProfileAgentOpts :=
  (bool "ENABLE_PROFILE_AGENT").via (·.enabled) (⟨·⟩) fun _ => rfl

def addonsShape : Shape AddonsOpts :=
  Shape.via (both (struct "AppCatalog" appCatalogShape) <|
    both (struct "CAS" clusterAutoScalerShape) <|
      both (struct "Luigi" luigiShape) <| both (struct "Kubevirt" kubeVirtShape) <|
      both (struct "CPUManager" cpuManagerShape) <| struct "ProfileAgent" profileAgentShape)
    (fun ⟨a, b, c, d, e, f⟩ => (a, b, c, d, e, f)) (fun (a, b, c, d, e, f) => ⟨a, b, c, d, e, f⟩) fun _ => rfl

def kubeProxyShape : Shape KubeProxyOpts :=
    (string "KUBE_PROXY_MODE").via (·.mode) (⟨·⟩) fun _ => rfl

def metalLBShape : Shape MetalLBOpts :=
  Shape.via (both (string "METALLB_CIDR") <| bool "METALLB_ENABLED")
    (fun ⟨a, b⟩ => (a, b)) (fun (a, b) => ⟨a, b⟩) fun _ => rfl

def kubeClusterShape : Shape KubeClusterOpts :=
  Shape.via (both (struct "Scheduler" kubeSchedulerShape) <|
      both (struct "ControllerManager" kubeControllerManagerShape) <|
      both (struct "Apiserver" kubeApiserverShape) <| both (struct "CNI" cniShape) <|
      both (struct "Addons" addonsShape) <| both (struct "KubeProxy" kubeProxyShape) <|
      both (struct "MetalLB" metalLBShape) <| bool "USE_HOSTNAME")
    (fun ⟨a, b, c, d, e, f, g, h⟩ => (a, b, c, d, e, f, g, h))
    (fun (a, b, c, d, e, f, g, h) => ⟨a, b, c, d, e, f, g, h⟩) fun _ => rfl

def etcdShape : Shape EtcdOpts :=
  Shape.via (both (string "ETCD_DATA_DIR") <| both (string "ETCD_DISCOVERY_URL") <|
      both (int32 "ETCD_ELECTION_TIMEOUT") <| both (string "ETCD_ENV") <|
      both (int32 "ETCD_HEARTBEAT_INTERVAL") <| string "ETCD_VERSION")
    (fun ⟨a, b, c, d, e, f⟩ => (a, b, c, d, e, f)) (fun (a, b, c, d, e, f) => ⟨a, b, c, d, e, f⟩) fun _ => rfl

def kubeletShape : Shape KubeletOpts :=
    (string "KUBELET_CLOUD_CONFIG").via (·.cloudCfg) (⟨·⟩) fun _ => rfl

def dockerShape : Shape DockerOpts :=
  Shape.via (both (bool "DOCKER_LIVE_RESTORE_ENABLED") <| both (string "DOCKER_ROOT") <|
      both (string "DOCKERHUB_ID") <| both (string "DOCKERHUB_PASSWORD") <| both (string "REGISTRY_MIRRORS") <|
      both (string "DOCKER_CENTOS_REPO_URL") <| string "DOCKER_UBUNTU_REPO_URL")
    (fun ⟨a, b, c, d, e, f, g⟩ => (a, b, c, d, e, f, g))
    (fun (a, b, c, d, e, f, g) => ⟨a, b, c, d, e, f, g⟩) fun _ => rfl

def hostSpecShape : Shape HostSpec :=
  Shape.via (both (map "ExtraCfg") <| both (struct "PF9Cfg" pf9Shape) <|
      both (struct "ClusterCfg" kubeClusterShape) <| both (struct "Etcd" etcdShape) <|
      both (string "EXTRA_OPTS") <| both (string "SERVICES_CIDR") <| both (string "CONTAINERS_CIDR") <|
      both (bool "ALLOW_WORKLOADS_ON_MASTER") <| both (struct "Kubelet" kubeletShape) <|
      both (struct "Docker" dockerShape) <| both (string "DOCKER_PRIVATE_REGISTRY") <|
      both (string "QUAY_PRIVATE_REGISTRY") <| both (string "GCR_PRIVATE_REGISTRY") <|
      both (string "K8S_PRIVATE_REGISTRY") <| string "RUNTIME")
    (fun ⟨a, b, c, d, e, f, g, h, i, j, k, l, m, n, o⟩ => (a, b, c, d, e, f, g, h, i, j, k, l, m, n, o))
    (fun (a, b, c, d, e, f, g, h, i, j, k, l, m, n, o) => ⟨a, b, c, d, e, f, g, h, i, j, k, l, m, n, o⟩) fun _ => rfl

/-- The fields are those that reflection shows. -/
theorem hostSpecShape_fields (spec : HostSpec) : hostSpecShape.fields spec = spec.fields := rfl

end Shapes

section Decoding

/-- Simple case folding, for comparisons with ASCII: outside of it only the Kelvin sign and the long
s fold to a letter. -/
def foldChar (c : Char) : Char :=
  if c = '\u212A' then 'k' else if c = '\u017F' then 's' else c.toLower

def equalFold (s t : String) : Bool := s.toList.map foldChar = t.toList.map foldChar

/-- The text for a field: that of its name, or else of the first key that is its name up to case. A
loop over the map may visit the keys in any order. -/
def rawMapVal (k : KubeEnvMap) (visits : String → List String) : RawMapVal := fun fieldName =>
  match k.lookup fieldName with
  | some raw => some raw
  | none => ((visits fieldName).find? (equalFold · fieldName)).bind k.lookup

/-- `readKubeEnvKeysFromHostTags`. -/
def knownKubeEnvKeys : List String := (structLeaves (HostSpec.fields {})).map Prod.fst

/-- The keys that are left for `ExtraCfg`. -/
def extraKeys (k : KubeEnvMap) : List String :=
  (KubeEnvMap.keys k).filter fun key => key ∉ knownKubeEnvKeys ∧ key ≠ hostIDKey

def extraCfgOf (k : KubeEnvMap) : ExtraCfg where
  entries := (extraKeys k).map fun key => (key, (k.lookup key).getD "")
  distinct := by
    rw [List.map_map]
    exact ((Finset.sort_nodup _ _).filter _).map fun _ _ => id

def toHost (visits : String → List String) (k : KubeEnvMap) : Except Go.Error Host := do
  let spec ← (hostSpecShape.decode (rawMapVal k visits)).mapError
    ("failed to decode kubeEnvMap to Host: " ++ ·)
  return { name := (k.lookup hostIDKey).getD "", spec := { spec with extraCfg := some (extraCfgOf k) } }

end Decoding
end Nodelet
