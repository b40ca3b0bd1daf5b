import Nodelet.Ctl.EtcdEnv

/-! Whether the URLs of a member of etcd agree: the one that is registered when it joins, those that
it advertises and those that the other masters are told. -/
namespace Nodeletctl
open Go.Resumption (Traces)
open Go.Remote (Sends)

section Agreement

/-- Some run of the program renders this configuration for a master. -/
def RendersIn (program : Remote Unit) (nodeletCfg : NodeletConfig) : Prop :=
  ∃ trace remaining, Traces (fun _ => True) program.run trace remaining ∧
    ∃ event ∈ trace, Event.master? event = some nodeletCfg

/-- Some run of the program registers this member. -/
def RegistersIn (program : Remote Unit) (hostId url : String) : Prop :=
  ∃ trace remaining, Traces (fun _ => True) program.run trace remaining ∧
    ∃ event ∈ trace, Event.registers? event = some (hostId, url)

/-- The host is among the masters to be added, for some masters that are active. -/
def Joins (cfg : BootstrapConfig) (host : HostConfig) : Prop :=
  ∃ active events diff, Traces (fun _ => True) (getDiffNodes cfg.masters active) events
    (.done diff) ∧ host ∈ diff.new

/-- The configuration of a master, in a run of any of the commands. -/
inductive Rendered (cfg : BootstrapConfig) (nodeletCfg : NodeletConfig) : Prop
  | deploying (renders : RendersIn (deployCluster cfg) nodeletCfg)
  | scaling (renders : RendersIn (scaleCluster cfg) nodeletCfg)
  | upgrading (renders : RendersIn (upgradeCluster cfg) nodeletCfg)

/-- What `AddNodeToEtcd` registers for the host, whatever masters it connects to. -/
inductive Registers (cfg : BootstrapConfig) (host : HostConfig) (url : String) : Prop
  | calling (currMasters : List HostConfig)
      (registers : RegistersIn (addNodeToEtcd cfg currMasters host.nodeName host.hostIp) host.nodeName url)
  | scaling (joins : Joins cfg host) (registers : RegistersIn (scaleCluster cfg) host.nodeName url)

/-- The URLs that are built for a host, with their ports. -/
inductive Built (cfg : BootstrapConfig) (host : HostConfig) : String → String → Prop
  | registered {url : String} (registers : Registers cfg host url) : Built cfg host "2380" url
  | endpoint {url : String} (member : url ∈ etcdEndpoints cfg [host]) : Built cfg host "4001" url
  | listed {nodeletCfg : NodeletConfig} {url : String} (joins : Joins cfg host)
    (rendered : Rendered cfg nodeletCfg)
      (member : (host.nodeName, url) ∈ (etcdEnv nodeletCfg).initialCluster) : Built cfg host "2380" url
  | peer {nodeletCfg : NodeletConfig} {url : String} (rendered : Rendered cfg nodeletCfg)
      (own : nodeletCfg.hostId = host.nodeName) (address : nodeletCfg.hostIp = host.hostIp)
      (peer : url = (etcdEnv nodeletCfg).initialAdvertisePeerUrls ∨ url = (etcdEnv nodeletCfg).listenPeerUrls) :
      Built cfg host "2380" url
  | client {nodeletCfg : NodeletConfig} (rendered : Rendered cfg nodeletCfg)
    (own : nodeletCfg.hostId = host.nodeName)
      (address : nodeletCfg.hostIp = host.hostIp) : Built cfg host "4001" (etcdEnv nodeletCfg).advertiseClientUrls

/-- The URL that is registered for a joining master is the one that it advertises and the one that
every list of masters has for it, and every URL that is built for the host is well formed. -/
structure EtcdUrls (cfg : BootstrapConfig) (host : HostConfig) : Prop where
  advertised : Joins cfg host → ∀ url, Registers cfg host url →
    ∀ nodeletCfg, RendersIn (scaleCluster cfg) nodeletCfg → nodeletCfg.hostId = host.nodeName →
      (etcdEnv nodeletCfg).initialAdvertisePeerUrls = url
  listed : Joins cfg host → ∀ url, Registers cfg host url →
    ∀ nodeletCfg, Rendered cfg nodeletCfg →
      ∀ url', (host.nodeName, url') ∈ (etcdEnv nodeletCfg).initialCluster → url' = url
  wellFormed : ∀ port url, Built cfg host port url → url = wellFormedUrl host.hostIp port

variable {cfg : BootstrapConfig} {host : HostConfig} {nodeletCfg : NodeletConfig} {url : String}

theorem Joins.last (joins : Joins cfg host) : LastOf cfg.masters host := by
  obtain ⟨active, events, diff, runs, new⟩ := joins
  exact ((getDiffNodes_partition cfg.masters active).2 events diff runs).1.last host
    (List.mem_append_left _ new)

theorem RendersIn.of_emits {program : Remote Unit} {known : HostConfig → Prop}
    (renders : RendersIn program nodeletCfg) (emits : Sends (OfMasters known cfg) program) :
    ∃ etcdClusterState masterList host, known host ∧ Listed (LastOf cfg.masters) masterList ∧
      nodeletCfg = masterConfig cfg etcdClusterState masterList host := by
  obtain ⟨trace, remaining, runs, event, member, rendered⟩ := renders
  exact (emits.mem runs event member).renders nodeletCfg rendered

theorem Rendered.masterConfig (rendered : Rendered cfg nodeletCfg) :
    ∃ etcdClusterState masterList host, host ∈ cfg.masters ∧
      Listed (LastOf cfg.masters) masterList ∧
      nodeletCfg = masterConfig cfg etcdClusterState masterList host := by
  cases rendered with
  | deploying renders => exact renders.of_emits ofMasters_deployCluster
  | upgrading renders => exact renders.of_emits ofMasters_upgradeCluster
  | scaling renders =>
    obtain ⟨etcdClusterState, masterList, host, last, listed, same⟩ :=
      renders.of_emits ofMasters_scaleCluster
    exact ⟨etcdClusterState, masterList, host, last.mem, listed, same⟩

theorem Registers.eq_memberUrl (registers : Registers cfg host url) :
    url = memberUrl host.hostIp := by
  cases registers with
  | calling currMasters registers =>
    obtain ⟨trace, remaining, runs, event, member, registered⟩ := registers
    have emits : Sends (fun event => ∀ hostId url, Event.registers? event = some (hostId, url) →
        url = memberUrl host.hostIp) (addNodeToEtcd cfg currMasters host.nodeName host.hostIp) := by
      apply emits_addNodeToEtcd
      · rintro endpoints answer hostId url ⟨⟩
      · rintro answer hostId url ⟨⟩
        rfl
    exact emits.mem runs event member _ _ registered
  | scaling joins registers =>
    obtain ⟨trace, remaining, runs, event, member, registered⟩ := registers
    obtain ⟨other, last, same, rfl⟩ :=
      (ofMasters_scaleCluster.mem runs event member).registers _ _ registered
    rw [last.unique joins.last same.symm]

theorem registers_memberUrl (cfg : BootstrapConfig) (host : HostConfig) :
    Registers cfg host (memberUrl host.hostIp) := by
  refine .calling [host]
    ⟨[⟨.newEtcdClient (etcdCA cfg.clusterId) (etcdEndpoints cfg [host]), .ok ()⟩,
    ⟨.memberAdd host.nodeName host.hostIp, .ok ()⟩], .done (.ok ()), ?_, _, .tail _ (.head _), rfl⟩
  exact .call (t := ()) trivial (.call trivial .refl)

/-- The lists have the address of the host, since it is the last entry of its name. -/
theorem Rendered.listed_url (rendered : Rendered cfg nodeletCfg) (last : LastOf cfg.masters host)
    (member : (host.nodeName, url) ∈ (etcdEnv nodeletCfg).initialCluster) :
    url = etcdUrl cfg.ipv6Enabled host.hostIp "2380" := by
  obtain ⟨hostIp, stored, rfl⟩ := mem_initialCluster.mp member
  obtain ⟨etcdClusterState, masterList, rendering, -, listed, rfl⟩ := rendered.masterConfig
  obtain ⟨other, last', same⟩ := listed _ stored
  obtain ⟨name, rfl⟩ := Prod.mk.inj same
  rw [last.unique last' name]
  rfl

theorem Rendered.ipv6Enabled (rendered : Rendered cfg nodeletCfg) :
    nodeletCfg.ipv6Enabled = cfg.ipv6Enabled := by
  obtain ⟨etcdClusterState, masterList, rendering, -, -, rfl⟩ := rendered.masterConfig
  rfl

theorem RendersIn.hostIp (renders : RendersIn (scaleCluster cfg) nodeletCfg)
    (last : LastOf cfg.masters host)
    (own : nodeletCfg.hostId = host.nodeName) : nodeletCfg.hostIp = host.hostIp := by
  obtain ⟨etcdClusterState, masterList, other, last', -, rfl⟩ :=
    renders.of_emits ofMasters_scaleCluster
  rw [← last'.unique last own]
  rfl

theorem Built.bracketed {port : String} (built : Built cfg host port url) :
    url = etcdUrl false host.hostIp port ∨ url = etcdUrl cfg.ipv6Enabled host.hostIp port := by
  cases built with
  | registered registers => exact .inl (registers.eq_memberUrl.trans (memberUrl_eq _))
  | endpoint member =>
    rw [etcdEndpoints_singleton, List.mem_singleton] at member
    exact .inr member
  | listed joins rendered member => exact .inr (rendered.listed_url joins.last member)
  | peer rendered own address peer =>
    right
    rw [← rendered.ipv6Enabled, ← address]
    exact peer.elim id id
  | client rendered own address =>
    right
    rw [← rendered.ipv6Enabled, ← address]
    rfl

theorem etcdUrls_iff (cfg : BootstrapConfig) (host : HostConfig) :
    EtcdUrls cfg host ↔ cfg.ipv6Enabled = false ∧ isIPv6 host.hostIp = false := by
  constructor
  · intro urls
    have registered := urls.wellFormed _ _ (.registered (registers_memberUrl cfg host))
    have built : Built cfg host "4001" (etcdUrl cfg.ipv6Enabled host.hostIp "4001") := by
      apply Built.endpoint
      rw [etcdEndpoints_singleton]
      exact List.mem_singleton_self _
    have endpoint := urls.wellFormed _ _ built
    rw [memberUrl_eq, wellFormedUrl, etcdUrl_inj] at registered
    rw [wellFormedUrl, etcdUrl_inj] at endpoint
    exact ⟨endpoint.trans registered.symm, registered.symm⟩
  · rintro ⟨disabled, noAddress⟩
    constructor
    · intro joins url registers nodeletCfg renders own
      have enabled := (Rendered.scaling renders).ipv6Enabled
      rw [registers.eq_memberUrl, memberUrl_eq, ← renders.hostIp joins.last own, ← disabled, ← enabled]
      rfl
    · intro joins url registers nodeletCfg rendered url' member
      rw [rendered.listed_url joins.last member, registers.eq_memberUrl, memberUrl_eq, disabled]
    · intro port url built
      rw [wellFormedUrl, noAddress]
      simpa [disabled] using built.bracketed

/-- Three masters, named by their addresses. -/
def ipv6Cluster : BootstrapConfig :=
  { clusterId := "dc1", ipv6Enabled := true, allowWorkloadsOnMaster := true,
    masterNodes :=
      some [{ nodeName := "fd00::1" }, { nodeName := "fd00::2" }, { nodeName := "fd00::3" }] }

/-- The configuration that the second master joins the first one with. -/
def joiningConfig : NodeletConfig :=
  masterConfig ipv6Cluster "existing" [("fd00::1", "fd00::1"), ("fd00::2", "fd00::2")]
    { nodeName := "fd00::2" }

example : (etcdEnv joiningConfig).initialClusterText =
    "fd00::1=https://[fd00::1]:2380,fd00::2=https://[fd00::2]:2380," := by decide

/-- A run that scales this cluster while its first master is active, until the second one is a
member. -/
def joiningTrace : List Event :=
  [⟨.certsExist "dc1", true⟩, ⟨.getCurrentMasters, .ok ["fd00::1"]⟩, ⟨.getCurrentWorkers, .ok []⟩,
   ⟨.rangeNames (List.dedup ["fd00::1"]), ⟨_, .refl _⟩⟩,
     ⟨.rangeHosts (hostMap ipv6Cluster.masters), ⟨_, .refl _⟩⟩,
   ⟨.rangeNames (List.dedup []), ⟨_, .refl _⟩⟩,
     ⟨.rangeHosts (hostMap ipv6Cluster.workers), ⟨_, .refl _⟩⟩,
   ⟨.genNodeletConfigLocal joiningConfig, .ok ()⟩, ⟨.getNodeletDeployer "fd00::2", .ok ()⟩,
   ⟨.newEtcdClient (etcdCA "dc1") ["https://[fd00::1]:4001"], .ok ()⟩,
     ⟨.memberAdd "fd00::2" "fd00::2", .ok ()⟩]

theorem joiningTrace_runs :
    ∃ remaining, Traces (fun _ => True) (scaleCluster ipv6Cluster).run joiningTrace remaining :=
  ⟨_, .call (t := ()) trivial <| .call (t := ()) trivial <| .call (t := ()) trivial <|
    .call (t := ()) trivial <|
    .call (t := ()) trivial <| .call (t := ()) trivial <| .call (t := ()) trivial <|
      .call (t := ()) trivial <|
    .call (t := ()) trivial <| .call (t := ()) trivial <| .call (t := ()) trivial .refl⟩

theorem second_joins : Joins ipv6Cluster { nodeName := "fd00::2" } :=
  ⟨["fd00::1"], [⟨.rangeNames (List.dedup ["fd00::1"]), ⟨_, .refl _⟩⟩,
    ⟨.rangeHosts (hostMap ipv6Cluster.masters), ⟨_, .refl _⟩⟩], _,
    .call (t := ()) trivial (.call trivial .refl), by decide⟩

/-- A master that joins by an IPv6 address is registered without the brackets that it advertises. -/
theorem joining_peer_without_brackets :
    ipv6Cluster.Accepted ∧
      (∃ remaining, Traces (fun _ => True) (scaleCluster ipv6Cluster).run joiningTrace remaining) ∧
      (∃ event ∈ joiningTrace, Event.master? event = some joiningConfig) ∧
      (∃ event ∈ joiningTrace,
      Event.registers? event = some (joiningConfig.hostId, "https://fd00::2:2380")) ∧
      (etcdEnv joiningConfig).initialAdvertisePeerUrls = "https://[fd00::2]:2380" ∧
      ("fd00::2", "https://[fd00::2]:2380") ∈ (etcdEnv joiningConfig).initialCluster ∧
      ¬ EtcdUrls ipv6Cluster { nodeName := "fd00::2" } := by
  obtain ⟨remaining, runs⟩ := joiningTrace_runs
  have renders : ∃ event ∈ joiningTrace, Event.master? event = some joiningConfig :=
    ⟨⟨.genNodeletConfigLocal joiningConfig, .ok ()⟩, by simp [joiningTrace], rfl⟩
  have registers : ∃ event ∈ joiningTrace,
      Event.registers? event = some (joiningConfig.hostId, "https://fd00::2:2380") :=
    ⟨⟨.memberAdd "fd00::2" "fd00::2", .ok ()⟩, by simp [joiningTrace], by decide⟩
  refine ⟨rfl, ⟨remaining, runs⟩, renders, registers, by decide, by decide, fun urls => ?_⟩
  have registered := Registers.scaling second_joins ⟨_, _, runs, registers⟩
  have same := urls.advertised second_joins _ registered _ ⟨_, _, runs, renders⟩ rfl
  exact absurd same (by decide)

end Agreement
end Nodeletctl
