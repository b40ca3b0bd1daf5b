import Nodelet.Ctl.Config
import Nodelet.Go.Json

/-! The configuration of a cluster on disk. It is read onto the defaults, and is written when the
cluster has been deployed. A field that is zero is not written, so it comes back as its default. -/
namespace Nodeletctl

open Go (bind_eq_ok mapError_eq_ok)
open Go.Json (Codec Struct)

section Fields

def stringField (name : String) (get : σ → String) (set : String → σ → σ) : Go.Json.Field σ :=
  { Value := String, name, codec := Go.Json.string, get, set }

def boolField (name : String) (get : σ → Bool) (set : Bool → σ → σ) : Go.Json.Field σ :=
  { Value := Bool, name, codec := Go.Json.boolean, get, set }

def intField (name : String) (get : σ → Int) (set : Int → σ → σ) : Go.Json.Field σ :=
  { Value := Int, name, codec := Go.Json.int, get, set }

def pointerField (name : String) (get : σ → Option String) (set : Option String → σ → σ) :
    Go.Json.Field σ :=
  { Value := Option String, name, codec := Go.Json.pointer Go.Json.string "", get, set }

def stringsField (name : String) (get : σ → Slice String) (set : Slice String → σ → σ) :
    Go.Json.Field σ :=
  { Value := Slice String, name, codec := Go.Json.slice Go.Json.string "", get, set }

def structField (name : String) (struct : Struct α) (get : σ → α) (set : α → σ → σ) :
    Go.Json.Field σ :=
  { Value := α, name, codec := struct.codec, get, set }

end Fields

attribute [local simp] stringField boolField intField pointerField stringsField structField
  Go.Json.Field.Independent

section Structs

def containerRuntimeFields : List (Go.Json.Field ContainerRuntimeConfig) :=
  [stringField "name" (·.name) fun v s => { s with name := v },
   stringField "cgroupDriver" (·.cgroupDriver) fun v s => { s with cgroupDriver := v }]

def containerRuntimeStruct : Struct ContainerRuntimeConfig where
  fields := containerRuntimeFields
  distinct := by decide
  get_set := by simp [containerRuntimeFields]
  independent := by simp [containerRuntimeFields]
  ext s t same := by
    cases s
    simp_all [containerRuntimeFields]

def coreDNSFields : List (Go.Json.Field CoreDNSConfig) :=
  [stringField "hostsFile" (·.hostsFile) fun v s => { s with hostsFile := v },
   stringsField "corednsHosts" (·.inlineHosts) fun v s => { s with inlineHosts := v }]

def coreDNSStruct : Struct CoreDNSConfig where
  fields := coreDNSFields
  distinct := by decide
  get_set := by simp [coreDNSFields]
  independent := by simp [coreDNSFields]
  ext s t same := by
    cases s
    simp_all [coreDNSFields]

def calicoFields : List (Go.Json.Field CalicoConfig) :=
  [stringField "v4Interface" (·.v4Interface) fun v s => { s with v4Interface := v },
   stringField "v6Interface" (·.v6Interface) fun v s => { s with v6Interface := v },
   stringField "v4ContainersCidr" (·.v4ContainersCidr) fun v s => { s with v4ContainersCidr := v },
   stringField "v6ContainersCidr" (·.v6ContainersCidr) fun v s => { s with v6ContainersCidr := v },
   intField "v4BlockSize" (·.v4BlockSize) fun v s => { s with v4BlockSize := v },
   intField "v6BlockSize" (·.v6BlockSize) fun v s => { s with v6BlockSize := v },
   boolField "v4NATOutgoing" (·.v4NATOutgoing) fun v s => { s with v4NATOutgoing := v },
   boolField "v6NATOutgoing" (·.v6NATOutgoing) fun v s => { s with v6NATOutgoing := v },
   stringField "v4IpIpMode" (·.v4IpIpMode) fun v s => { s with v4IpIpMode := v }]

def calicoStruct : Struct CalicoConfig where
  fields := calicoFields
  distinct := by decide
  get_set := by simp [calicoFields]
  independent := by simp [calicoFields]
  ext s t same := by
    cases s
    simp_all [calicoFields]

def hostFields : List (Go.Json.Field HostConfig) :=
  [{ stringField "nodeName" (·.nodeName) (fun v s =>
    { s with nodeName := v }) with omitempty := false },
   pointerField "nodeIP" (·.nodeIP) fun v s => { s with nodeIP := v },
   pointerField "calicoV4Interface" (·.v4InterfaceOverride) fun v s =>
     { s with v4InterfaceOverride := v },
   pointerField "calicoV6Interface" (·.v6InterfaceOverride) fun v s =>
     { s with v6InterfaceOverride := v }]

def hostStruct : Struct HostConfig where
  fields := hostFields
  distinct := by decide
  get_set := by simp [hostFields]
  independent := by simp [hostFields]
  ext s t same := by
    cases s
    simp_all [hostFields]

def hostsField (name : String) (get : σ → Slice HostConfig) (set : Slice HostConfig → σ → σ) :
    Go.Json.Field σ :=
  { Value := Slice HostConfig, name, omitempty := false, codec := Go.Json.slice hostStruct.codec { nodeName := "" }
    get, set }

def bootstrapFields : List (Go.Json.Field BootstrapConfig) :=
  [stringField "sshUser" (·.sshUser) fun v s => { s with sshUser := v },
   stringField "sshPrivateKeyFile" (·.sshPrivateKeyFile) fun v s =>
     { s with sshPrivateKeyFile := v },
   stringField "certsDir" (·.certsDir) fun v s => { s with certsDir := v },
   stringField "kubeconfig" (·.kubeConfig) fun v s => { s with kubeConfig := v },
   stringField "nodeletPkg" (·.pf9KubePkg) fun v s => { s with pf9KubePkg := v },
   stringField "clusterName" (·.clusterId) fun v s => { s with clusterId := v },
   boolField "allowWorkloadsOnMaster" (·.allowWorkloadsOnMaster) fun v s =>
     { s with allowWorkloadsOnMaster := v },
   stringField "k8sApiPort" (·.k8sApiPort) fun v s => { s with k8sApiPort := v },
   stringField "masterIp" (·.masterIp) fun v s => { s with masterIp := v },
   boolField "masterVipEnabled" (·.masterVipEnabled) fun v s => { s with masterVipEnabled := v },
   stringField "masterVipInterface" (·.masterVipInterface) fun v s =>
     { s with masterVipInterface := v },
   intField "masterVipVrouterId" (·.masterVipVrouterId) fun v s =>
     { s with masterVipVrouterId := v },
   stringField "mtu" (·.mtu) fun v s => { s with mtu := v },
   stringField "privileged" (·.privileged) fun v s => { s with privileged := v },
   structField "containerRuntime" containerRuntimeStruct (·.containerRuntime) fun v s =>
     { s with containerRuntime := v },
   stringsField "userImages" (·.userImages) fun v s => { s with userImages := v },
   structField "dns" coreDNSStruct (·.dns) fun v s => { s with dns := v },
   boolField "useHostname" (·.useHostname) fun v s => { s with useHostname := v },
   boolField "ipv6" (·.ipv6Enabled) fun v s => { s with ipv6Enabled := v },
   structField "calico" calicoStruct (·.calico) fun v s => { s with calico := v },
   stringField "servicesCidr" (·.servicesCidr) fun v s => { s with servicesCidr := v },
   hostsField "masterNodes" (·.masterNodes) fun v s => { s with masterNodes := v },
   hostsField "workerNodes" (·.workerNodes) fun v s => { s with workerNodes := v }]

def bootstrapStruct : Struct BootstrapConfig where
  fields := bootstrapFields
  distinct := by decide
  get_set := by simp [bootstrapFields, hostsField]
  independent := by
    repeat' first
      | exact .nil
      | exact List.forall_mem_nil _
      | refine .cons ?_ ?_
      | refine List.forall_mem_cons.mpr ⟨⟨fun _ _ => rfl, fun _ _ => rfl⟩, ?_⟩
  ext s t same := by
    cases s
    simp_all [bootstrapFields, hostsField]

end Structs

section Parse
variable (writeHosts : String → List String → Except Go.Error Unit)

def hostsFileOf (clusterId : String) : String :=
  Go.Filepath.join [Go.Filepath.join [clusterStateDir, clusterId], "hosts"]

def writeHostsFileForEntries (clusterId : String) (entries : List String) :
    Except Go.Error String := do
  writeHosts (hostsFileOf clusterId) entries
  return hostsFileOf clusterId

/-- Hosts that are listed go into a file of their own. -/
def chooseHostsFile (clusterId : String) (dns : CoreDNSConfig) : Except Go.Error String :=
  if 0 < dns.inlineHosts.elements.length then
    (writeHostsFileForEntries writeHosts clusterId dns.inlineHosts.elements).mapError
      ("Failed to generate custom hosts file: " ++ ·)
  else if dns.hostsFile = "" then .ok "/etc/hosts"
  else .ok dns.hostsFile

def BootstrapConfig.withHostsFile (cfg : BootstrapConfig) (hostsFile : String) : BootstrapConfig :=
  { cfg with dns := { cfg.dns with hostsFile } }

def parseBootstrapConfig (file : Except Go.Error Go.Json) : Except Go.Error BootstrapConfig := do
  let json ← file.mapError fun _ => "Error opening bootstrap config file: "
  let cfg ← (bootstrapStruct.codec.decode json initBootstrapConfig).mapError
    ("error decoding bootstrap config: " ++ ·)
  (isClusterCfgValid cfg).mapError ("Invalid cluster config: " ++ ·)
  let hostsFile ← chooseHostsFile writeHosts cfg.clusterId cfg.dns
  return cfg.withHostsFile hostsFile

/-- The configuration as `DeployCluster` leaves it. -/
def deployedConfig (cfg : BootstrapConfig) : BootstrapConfig :=
  { (setNodeletClusterCfg cfg).1 with certsDir := cfg.trustedDir }

/-- The file that is written, and what is written to it. -/
def saveClusterConfig (cfg : BootstrapConfig) : String × Go.Json :=
  (Go.Filepath.join [clusterStateDir, cfg.clusterId, cfg.clusterId ++ ".yaml"],
    bootstrapStruct.codec.encode cfg)

end Parse

/-- No field is zero that has another default, and no list is empty that is not nil. -/
@[mk_iff] structure BootstrapConfig.Given (cfg : BootstrapConfig) : Prop where
  sshUser : cfg.sshUser ≠ ""
  sshPrivateKeyFile : cfg.sshPrivateKeyFile ≠ ""
  pf9KubePkg : cfg.pf9KubePkg ≠ ""
  clusterId : cfg.clusterId ≠ ""
  k8sApiPort : cfg.k8sApiPort ≠ ""
  mtu : cfg.mtu ≠ ""
  privileged : cfg.privileged ≠ ""
  runtime : cfg.containerRuntime.name ≠ ""
  cgroupDriver : cfg.containerRuntime.cgroupDriver ≠ ""
  userImages : cfg.userImages ≠ some []
  inlineHosts : cfg.dns.inlineHosts ≠ some []
  v4Interface : cfg.calico.v4Interface ≠ ""
  v6Interface : cfg.calico.v6Interface ≠ ""
  v4ContainersCidr : cfg.calico.v4ContainersCidr ≠ ""
  v6ContainersCidr : cfg.calico.v6ContainersCidr ≠ ""
  v4BlockSize : cfg.calico.v4BlockSize ≠ 0
  v6BlockSize : cfg.calico.v6BlockSize ≠ 0
  v4NATOutgoing : cfg.calico.v4NATOutgoing = true
  v4IpIpMode : cfg.calico.v4IpIpMode ≠ ""

section Restores
variable {name : String} {s prior : σ}

theorem stringField_restores {get : σ → String} {set : String → σ → σ} :
    (stringField name get set).Restores s prior ↔ (get s = "" → get s = get prior) := by
  rw [Go.Json.Field.restores_iff Go.Json.string_restores]
  simp [Go.Json.Field.written, Go.Json.string]

theorem boolField_restores {get : σ → Bool} {set : Bool → σ → σ} :
    (boolField name get set).Restores s prior ↔ (get s = false → get s = get prior) := by
  rw [Go.Json.Field.restores_iff Go.Json.boolean_restores]
  simp [Go.Json.Field.written, Go.Json.boolean]

theorem intField_restores {get : σ → Int} {set : Int → σ → σ} :
    (intField name get set).Restores s prior ↔ (get s = 0 → get s = get prior) := by
  rw [Go.Json.Field.restores_iff Go.Json.int_restores]
  simp [Go.Json.Field.written, Go.Json.int]

theorem pointerField_restores {get : σ → Option String} {set : Option String → σ → σ} :
    (pointerField name get set).Restores s prior ↔ (get s = none → get s = get prior) := by
  rw [Go.Json.Field.restores_iff Go.Json.pointer_string_restores]
  simp [Go.Json.Field.written, Go.Json.pointer]

theorem stringsField_restores {get : σ → Slice String} {set : Slice String → σ → σ} :
    (stringsField name get set).Restores s prior ↔ ((get s).elements = [] → get s = get prior) := by
  rw [Go.Json.Field.restores_iff (Go.Json.slice_restores fun item =>
    Go.Json.string_restores item "")]
  simp [Go.Json.Field.written, Go.Json.slice, Slice.elements]

theorem structField_restores {get : σ → α} {set : α → σ → σ} :
    (structField name struct get set).Restores s prior ↔
      ∀ f ∈ struct.fields, f.Restores (get s) (get prior) :=
  struct.restores_iff _ _

theorem hostStruct_restores (host : HostConfig) :
    hostStruct.codec.Restores host { nodeName := "" } := by
  refine (hostStruct.restores_iff _ _).mpr ?_
  simp only [hostStruct, hostFields, List.forall_mem_cons, pointerField_restores]
  refine ⟨?_, fun h => h, fun h => h, fun h => h, List.forall_mem_nil _⟩
  exact Go.Json.string_restores ..

theorem hostsField_restores {get : σ → Slice HostConfig} {set : Slice HostConfig → σ → σ} :
    (hostsField name get set).Restores s prior :=
  Go.Json.slice_restores hostStruct_restores ..

end Restores

section Restored
variable {writeHosts : String → List String → Except Go.Error Unit} {file : Except Go.Error Go.Json}
  {cfg parsed : BootstrapConfig} {clusterId path : String} {dns : CoreDNSConfig}

theorem parseBootstrapConfig_ok : parseBootstrapConfig writeHosts file = .ok parsed ↔
    ∃ json, file = .ok json ∧
      ∃ cfg, bootstrapStruct.codec.decode json initBootstrapConfig = .ok cfg ∧ cfg.Accepted ∧
      ∃ path, chooseHostsFile writeHosts cfg.clusterId cfg.dns = .ok path ∧
      cfg.withHostsFile path = parsed := by
  have unit (P : Unit → Prop) : (∃ u, P u) ↔ P () :=
    ⟨fun ⟨_, holds⟩ => holds, fun holds => ⟨(), holds⟩⟩
  simp only [parseBootstrapConfig, bind_eq_ok, mapError_eq_ok, BootstrapConfig.Accepted, pure,
    Except.pure, Except.ok.injEq, unit]

theorem chooseHostsFile_ne_empty (chose : chooseHostsFile writeHosts clusterId dns = .ok path) :
    path ≠ "" := by
  unfold chooseHostsFile at chose
  split at chose
  · obtain ⟨_, -, same⟩ := bind_eq_ok.mp (mapError_eq_ok.mp chose)
    cases same
    exact Go.Filepath.join_ne_empty (Go.Filepath.join_ne_empty (by decide) _) _
  · split at chose
    · cases chose
      decide
    · cases chose
      assumption

theorem chooseHostsFile_again (chose : chooseHostsFile writeHosts clusterId dns = .ok path) :
    chooseHostsFile writeHosts clusterId { dns with hostsFile := path } = .ok path := by
  have given := chooseHostsFile_ne_empty chose
  unfold chooseHostsFile at chose ⊢
  split at chose
  · rename_i listed
    rw [if_pos listed, chose]
  · rename_i unlisted
    rw [if_neg unlisted, if_neg given]

theorem elements_nil_iff (slice : Slice α) :
    (slice.elements = [] → slice = none) ↔ slice ≠ some [] := by
  cases slice <;> simp [Slice.elements]

theorem bootstrapStruct_restores (cfg : BootstrapConfig) :
    bootstrapStruct.codec.Restores cfg initBootstrapConfig ↔ cfg.Given := by
  rw [bootstrapStruct.restores_iff, BootstrapConfig.given_iff]
  simp only [bootstrapStruct, bootstrapFields, List.forall_mem_cons, stringField_restores,
    boolField_restores, intField_restores, stringsField_restores, structField_restores,
    hostsField_restores, containerRuntimeStruct, containerRuntimeFields, coreDNSStruct,
    coreDNSFields, calicoStruct, calicoFields, initBootstrapConfig, elements_nil_iff]
  simp +contextual [and_assoc, nodeletTarSrc, defaultClusterName, defaultCalicoV4Cidr,
    defaultCalicoV6Cidr]

theorem hostsFile_of_decode {read : BootstrapConfig} (given : cfg.dns.hostsFile ≠ "")
    (decoded : bootstrapStruct.codec.decode (bootstrapStruct.codec.encode cfg)
      initBootstrapConfig = .ok read) : read.dns.hostsFile = cfg.dns.hostsFile := by
  have inDns :=
    bootstrapStruct.decode_get (f := structField "dns" coreDNSStruct (·.dns) fun v s =>
      { s with dns := v })
    decoded (by simp [bootstrapStruct, bootstrapFields]) rfl
  have inFile := coreDNSStruct.decode_get
    (f := stringField "hostsFile" (·.hostsFile) fun v s => { s with hostsFile := v })
    inDns (by simp [coreDNSStruct, coreDNSFields])
      (by simp [Go.Json.Field.written, Go.Json.string, given])
  exact (Except.ok.inj inFile).symm

theorem deployedConfig_given (cfg : BootstrapConfig) : (deployedConfig cfg).Given ↔ cfg.Given := by
  rw [BootstrapConfig.given_iff, BootstrapConfig.given_iff]
  rfl

theorem BootstrapConfig.withHostsFile_same (cfg : BootstrapConfig) :
    cfg.withHostsFile cfg.dns.hostsFile = cfg := rfl

/-- The configuration that is saved after a deployment is read back exactly where it is given in
full. -/
theorem parse_saveClusterConfig_iff (parsed : parseBootstrapConfig writeHosts file = .ok cfg) :
    parseBootstrapConfig writeHosts (.ok (saveClusterConfig (deployedConfig cfg)).2) =
      .ok (deployedConfig cfg) ↔ cfg.Given := by
  obtain ⟨json, -, read, -, accepted, path, chose, rfl⟩ := parseBootstrapConfig_ok.mp parsed
  rw [← deployedConfig_given, ← bootstrapStruct_restores, parseBootstrapConfig_ok]
  constructor
  · rintro ⟨_, written, reread, decoded, -, path', -, same⟩
    cases written
    have hosts : reread.dns.hostsFile = path :=
      hostsFile_of_decode (chooseHostsFile_ne_empty chose) decoded
    have again : path' = path := congrArg (·.dns.hostsFile) same
    have unchanged : reread = deployedConfig (read.withHostsFile path) := by
      rw [← same, again, ← hosts, BootstrapConfig.withHostsFile_same]
    exact decoded.trans (congrArg Except.ok unchanged)
  · intro restores
    exact ⟨_, rfl, _, restores, accepted, path, chooseHostsFile_again chose, rfl⟩

/-- One master that takes workloads, with and without the translation of addresses. -/
def oneMasterFile (calico : List (String × Go.Json)) : Go.Json :=
  .obj [("allowWorkloadsOnMaster", .bool true), ("calico", .obj calico),
    ("masterNodes", .arr [.obj [("nodeName", .str "10.0.0.1")]])]

def oneMasterConfig (v4NATOutgoing : Bool) : BootstrapConfig :=
  { initBootstrapConfig with
    allowWorkloadsOnMaster := true
    calico := { initBootstrapConfig.calico with v4NATOutgoing }
    dns := { hostsFile := "/etc/hosts" }
    masterNodes := some [{ nodeName := "10.0.0.1" }] }

theorem parse_saveClusterConfig_oneMaster :
    parseBootstrapConfig (fun _ _ => .ok ()) (.ok (oneMasterFile [])) = .ok (oneMasterConfig true) ∧
      (oneMasterConfig true).Given ∧
      parseBootstrapConfig (fun _ _ =>
      .ok ()) (.ok (saveClusterConfig (deployedConfig (oneMasterConfig true))).2) =
        .ok (deployedConfig (oneMasterConfig true)) := by
  have parsed : parseBootstrapConfig (fun _ _ => .ok ()) (.ok (oneMasterFile [])) = .ok (oneMasterConfig true) := rfl
  have given : (oneMasterConfig true).Given := by
    rw [BootstrapConfig.given_iff]
    decide +kernel
  exact ⟨parsed, given, (parse_saveClusterConfig_iff parsed).mpr given⟩

/-- A cluster without the translation of addresses is saved as one with it. -/
theorem saved_without_nat :
    parseBootstrapConfig (fun _ _ =>
      .ok ()) (.ok (oneMasterFile [("v4NATOutgoing", .bool false)])) =
        .ok (oneMasterConfig false) ∧
      parseBootstrapConfig (fun _ _ =>
      .ok ()) (.ok (saveClusterConfig (deployedConfig (oneMasterConfig false))).2) =
        .ok (deployedConfig (oneMasterConfig true)) ∧
      deployedConfig (oneMasterConfig true) ≠ deployedConfig (oneMasterConfig false) :=
  ⟨by rfl, by rfl, by decide +kernel⟩

end Restored
end Nodeletctl
