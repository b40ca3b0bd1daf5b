import Nodelet.Ctl.Comparison
import Nodelet.Go.Net
import Mathlib.Data.List.Sort

/-! The URLs by which the members of etcd know each other. The template of a master and the client
of etcd put brackets around every address where IPv6 is enabled, the request that adds a member
never does, and none of them looks at the address. -/
namespace Nodeletctl
open Go.Remote (Sends)

section Urls

/-- An address and a port, with brackets around the address or without them. -/
def etcdUrl (bracketed : Bool) (hostIp port : String) : String :=
  if bracketed then "https://[" ++ hostIp ++ "]:" ++ port else "https://" ++ hostIp ++ ":" ++ port

/-- The variables of `ETCD_ENV` that depend on the configuration. -/
structure EtcdEnv where
  etcdName : String
  initialClusterToken : String
  initialClusterState : String
  /-- Name and URL of each master, which the template joins. -/
  initialCluster : List (String × String)
  initialAdvertisePeerUrls : String
  listenPeerUrls : String
  advertiseClientUrls : String
  listenClientUrls : String
  deriving DecidableEq, Repr

def EtcdEnv.initialClusterText (env : EtcdEnv) : String :=
  String.join (env.initialCluster.map fun master => master.1 ++ "=" ++ master.2 ++ ",")

/-- What the template of a master renders. It visits the map of masters in the order of the
names. -/
def etcdEnv (nodeletCfg : NodeletConfig) : EtcdEnv :=
  let url := etcdUrl nodeletCfg.ipv6Enabled
  { etcdName := nodeletCfg.hostId
    initialClusterToken := nodeletCfg.clusterId
    initialClusterState := nodeletCfg.etcdClusterState
    initialCluster :=
      (nodeletCfg.masterList.insertionSort fun a b => a.1 ≤ b.1).map fun master => (master.1, url master.2 "2380")
    initialAdvertisePeerUrls := url nodeletCfg.hostIp "2380"
    listenPeerUrls := url nodeletCfg.hostIp "2380"
    advertiseClientUrls := url nodeletCfg.hostIp "4001"
    listenClientUrls :=
      if nodeletCfg.ipv6Enabled then "https://0.0.0.0:4001,http://127.0.0.1:2379,http://[::1]:2379"
      else "https://0.0.0.0:4001,http://127.0.0.1:2379" }

/-- The URL that `AddNodeToEtcd` registers. -/
def memberUrl (hostIp : String) : String := "https://" ++ hostIp ++ ":2380"

/-- Whether a text is an IPv6 address. -/
def isIPv6 (text : String) : Bool :=
  match Go.Net.parseIP text.toList with
  | some (.v6 _) => true
  | _ => false

/-- The URL with brackets where the address needs them, and only there. -/
def wellFormedUrl (hostIp port : String) : String := etcdUrl (isIPv6 hostIp) hostIp port

theorem etcdUrl_inj {bracketed bracketed' : Bool} {hostIp port : String} :
    etcdUrl bracketed hostIp port = etcdUrl bracketed' hostIp port ↔ bracketed = bracketed' := by
  refine ⟨fun same => ?_, fun same => by rw [same]⟩
  have texts : "https://[".length = 9 ∧ "]:".length = 2 ∧ "https://".length = 8 ∧ ":".length = 1 :=
    ⟨rfl, rfl, rfl, rfl⟩
  have lengths := congrArg String.length same
  cases bracketed <;> cases bracketed' <;>
    simp only [etcdUrl, reduceIte, Bool.false_eq_true, String.length_append] at lengths
  · rfl
  · omega
  · omega
  · rfl

theorem memberUrl_eq (hostIp : String) : memberUrl hostIp = etcdUrl false hostIp "2380" := by
  simp [memberUrl, etcdUrl, String.append_assoc]

theorem etcdEndpoints_singleton (cfg : BootstrapConfig) (host : HostConfig) :
    etcdEndpoints cfg [host] = [etcdUrl cfg.ipv6Enabled host.hostIp "4001"] := by
  cases enabled : cfg.ipv6Enabled <;> simp [etcdEndpoints, etcdUrl, enabled, String.append_assoc]

theorem mem_initialCluster {nodeletCfg : NodeletConfig} {nodeName url : String} :
    (nodeName, url) ∈ (etcdEnv nodeletCfg).initialCluster ↔
      ∃ hostIp, (nodeName, hostIp) ∈ nodeletCfg.masterList ∧
      url = etcdUrl nodeletCfg.ipv6Enabled hostIp "2380" := by
  simp only [etcdEnv, List.mem_map, List.mem_insertionSort, Prod.exists, Prod.mk.injEq]
  constructor
  · rintro ⟨_, hostIp, member, rfl, rfl⟩
    exact ⟨hostIp, member, rfl⟩
  · rintro ⟨hostIp, member, rfl⟩
    exact ⟨nodeName, hostIp, member, rfl, rfl⟩

end Urls

section Events

/-- The configuration that is rendered for a master. -/
def Event.master? : Event → Option NodeletConfig
  | ⟨.genNodeletConfigLocal nodeletCfg, _⟩ => if nodeletCfg.nodeletRole =
    some .master then some nodeletCfg else none
  | _ => none

/-- The member that is registered, and its URL. -/
def Event.registers? : Event → Option (String × String)
  | ⟨.memberAdd hostId hostIp, _⟩ => some (hostId, memberUrl hostIp)
  | _ => none

variable {known : HostConfig → Prop} {cfg : BootstrapConfig}

/-- A configuration is rendered for a known host, with the last entries of the masters, and a member
is registered by the last entry of its name. -/
structure OfMasters (known : HostConfig → Prop) (cfg : BootstrapConfig) (event : Event) : Prop where
  renders : ∀ nodeletCfg, event.master? = some nodeletCfg →
    ∃ etcdClusterState masterList host, known host ∧
    Listed (LastOf cfg.masters) masterList ∧
      nodeletCfg = masterConfig cfg etcdClusterState masterList host
  registers : ∀ hostId url, event.registers? = some (hostId, url) →
    ∃ host, LastOf cfg.masters host ∧ hostId = host.nodeName ∧ url = memberUrl host.hostIp

theorem ofMasters_none (renders : event.master? = none) (registers : event.registers? = none) :
    OfMasters known cfg event where
  renders nodeletCfg rendered := by simp [renders] at rendered
  registers hostId url registered := by simp [registers] at registered

theorem ofMasters_plain (request : Request) (answer : request.Answer) (plain : request.Plain) :
    OfMasters known cfg ⟨request, answer⟩ := by
  cases request <;> first | exact absurd plain id | exact ofMasters_none rfl rfl

theorem ofMasters_perform {deployer : Deployer} {step : Step} (answer : Except Go.Error Unit) :
    OfMasters known cfg ⟨.perform deployer step, answer⟩ := ofMasters_none rfl rfl

theorem ofMasters_connect {rootCA : String} (endpoints : List String)
    (answer : Except Go.Error Unit) :
    OfMasters known cfg ⟨.newEtcdClient rootCA endpoints, answer⟩ := ofMasters_none rfl rfl

theorem ofMasters_worker {host : HostConfig} (answer : Except Go.Error Unit) :
    OfMasters known cfg ⟨.genNodeletConfigLocal (workerConfig cfg host), answer⟩ :=
      ofMasters_none rfl rfl

theorem ofMasters_master {etcdClusterState : String} {masterList : List (String × String)}
    (held : known host) (listed : Listed (LastOf cfg.masters) masterList)
    (answer : Except Go.Error Unit) :
    OfMasters known cfg
      ⟨.genNodeletConfigLocal (masterConfig cfg etcdClusterState masterList host), answer⟩ where
  renders nodeletCfg rendered := by
    have same : masterConfig cfg etcdClusterState masterList host = nodeletCfg := by
      simpa [Event.master?, masterConfig] using rendered
    exact ⟨etcdClusterState, masterList, host, held, listed, same.symm⟩
  registers hostId url registered := by simp [Event.registers?] at registered

theorem ofMasters_join (last : LastOf cfg.masters host) (answer : Except Go.Error Unit) :
    OfMasters known cfg ⟨.memberAdd host.nodeName host.hostIp, answer⟩ where
  renders nodeletCfg rendered := by simp [Event.master?] at rendered
  registers hostId url registered := by
    obtain ⟨rfl, rfl⟩ := Prod.mk.inj (Option.some.inj registered)
    exact ⟨host, last, rfl, rfl⟩

end Events

section Commands
variable {cfg : BootstrapConfig}

theorem ofMasters_deployCluster : Sends (OfMasters (· ∈ cfg.masters) cfg) (deployCluster cfg) := by
  have certs : Sends (OfMasters (· ∈ cfg.masters) cfg) (prepareCerts cfg) := by
    apply emits_prepareCerts <;> exact fun _ => ofMasters_none rfl rfl
  refine .bind certs fun _ _ => ?_
  refine .bind (emits_deployMasters ofMasters_plain ?_ fun _ _ _ _ => ofMasters_perform) fun _ _ =>
    ?_
  · exact fun host member => ofMasters_master member (listed_masterListOf cfg.masters)
  refine .bind (.mapError (emits_deployWorkers ofMasters_plain (fun _ _ => ofMasters_worker) ?_))
    fun _ _ => ?_
  · exact fun _ _ _ _ => ofMasters_perform
  exact emits_ignore (emits_syncNodes ofMasters_plain)

theorem ofMasters_upgradeCluster :
    Sends (OfMasters (· ∈ cfg.masters) cfg) (upgradeCluster cfg) := by
  refine .bind (.mapError (.attempt (emits_ask ofMasters_plain trivial))) fun masters _ => ?_
  refine .bind (.mapError (.attempt (emits_ask ofMasters_plain trivial))) fun workers _ => ?_
  refine .bind (emits_matchNodes ofMasters_plain) fun _ _ =>
    .bind (emits_matchNodes ofMasters_plain) fun _ _ => ?_
  refine .bind (emits_upgradeMasters ofMasters_plain ?_ fun _ _ _ _ =>
    ofMasters_perform) fun _ _ => ?_
  · exact fun host member => ofMasters_master member (listed_masterListOf cfg.masters)
  refine .bind (.mapError (emits_upgradeWorkers ofMasters_plain (fun _ _ => ofMasters_worker) ?_))
    fun _ _ => ?_
  · exact fun _ _ _ _ => ofMasters_perform
  exact emits_ignore (emits_syncNodes ofMasters_plain)

theorem ofMasters_scaleCluster : Sends (OfMasters (LastOf cfg.masters) cfg) (scaleCluster cfg) := by
  refine .bind (emits_planScale ofMasters_plain) fun plan last => ?_
  have deletes (nodeName : String) :
      Performs (OfMasters (LastOf cfg.masters) cfg) nodeName .deleteNodelet :=
    fun _ _ => ofMasters_perform
  have adds : Sends (OfMasters (LastOf cfg.masters) cfg)
      (addMasters cfg plan.1.curr plan.1.new) := by
    apply emits_addMasters ofMasters_plain ofMasters_connect
    · exact fun host new => ofMasters_join (last host (List.mem_append_left _ new))
    · intro host new masterList listed
      exact ofMasters_master (last host (List.mem_append_left _ new)) (listed.weaken last)
    · exact fun _ _ _ _ _ => ofMasters_perform
  refine .bind (.mapError adds) fun currMasters _ => ?_
  refine .bind
    (.mapError (emits_removeMasters ofMasters_plain ofMasters_connect ?_ fun _ _ => deletes _))
      fun _ _ => ?_
  · exact fun _ _ _ _ _ => ofMasters_none rfl rfl
  refine .bind (.mapError (emits_deployWorkers ofMasters_plain (fun _ _ => ofMasters_worker) ?_))
    fun _ _ => ?_
  · exact fun _ _ _ _ => ofMasters_perform
  refine .bind (emits_syncNodes ofMasters_plain) fun _ _ => ?_
  exact .mapError (emits_deleteWorkers ofMasters_plain fun _ _ => deletes _)

end Commands

end Nodeletctl
