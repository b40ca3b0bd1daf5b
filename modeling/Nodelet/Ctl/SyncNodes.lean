import Nodelet.Ctl.Deployer
import Mathlib.Logic.Function.Basic

/-! Waiting until the nodes of a cluster are healthy. The state of every node is fetched
once; from then on each tick refreshes the nodes that were last seen unhealthy. -/
namespace Nodeletctl

structure NodeStatus where
  nodeHealth : String := ""
  deployer : Deployer
  deriving DecidableEq, Repr

/-- The status map. The error messages in it are only logged. -/
abbrev ClusterStatus := String → Option NodeStatus

def setClusterNodeStatus (status : ClusterStatus) (nodeName health : String) : ClusterStatus :=
  Function.update status nodeName ((status nodeName).map ({ · with nodeHealth := health }))

/-- Fetch the status of these nodes, after those that are in the map. A node that cannot be read
stays without one. -/
def fetchStatus (cfg : BootstrapConfig) : List HostConfig → ClusterStatus → Remote ClusterStatus
  | [], status => pure status
  | host :: rest, status => do
    let deployer ← annotate "failed to get nodelet deployer: "
      (getNodeletDeployer (nodeletConfig cfg host))
    let status := Function.update status host.nodeName (some { deployer })
    match ← ExceptT.lift (ask (.refreshNodeletStatus deployer)) with
    | .ok health => fetchStatus cfg rest (setClusterNodeStatus status host.nodeName health)
    | .error _ => fetchStatus cfg rest status

def getClusterNodeletStatus (cfg : BootstrapConfig) (nodes : List HostConfig) :
    Remote ClusterStatus :=
  fetchStatus cfg nodes fun _ => none

/-- The loop of `SyncAndRetry`, with whether all nodes so far were healthy. -/
def refreshUnhealthy : List HostConfig → ClusterStatus → Bool → Call (ClusterStatus × Bool)
  | [], status, synced => return (status, synced)
  | node :: rest, status, synced =>
    match status node.nodeName with
    | none => ask .stuck >>= nofun
    | some entry =>
      if entry.nodeHealth = nodeHealthy then refreshUnhealthy rest status synced
      else do
        let (newStatus, _) ← entry.deployer.refreshNodeletStatus
        refreshUnhealthy rest (setClusterNodeStatus status node.nodeName newStatus) false

/-- The new status, and whether `done` is to be closed. -/
def syncAndRetry (nodes : List HostConfig) (status : ClusterStatus) : Call (ClusterStatus × Bool) :=
  refreshUnhealthy nodes status true

/-- One pass for each tick, until all nodes are healthy. -/
def poll (nodes : List HostConfig) : Nat → ClusterStatus → Call Unit
  | 0, _ => ask .stuck >>= nofun
  | ticks + 1, status => do
    let (status, synced) ← syncAndRetry nodes status
    if synced then return else poll nodes ticks status

def syncNodes (cfg : BootstrapConfig) (nodes : List HostConfig) : Remote Unit := do
  let status ← annotate "SyncNodes: Failed to populate initial cluster status: "
    (getClusterNodeletStatus cfg nodes)
  let ticks ← ExceptT.lift (ask .ticks)
  ExceptT.lift (poll nodes ticks status)

/-- All of these nodes have been seen healthy. -/
def AllHealthy (status : ClusterStatus) (nodes : List HostConfig) : Prop :=
  ∀ node ∈ nodes, ∃ deployer, status node.nodeName = some ⟨nodeHealthy, deployer⟩

variable {nodes : List HostConfig} {status : ClusterStatus}

theorem AllHealthy.store (healthy : AllHealthy status nodes) (host : HostConfig)
    (deployer : Deployer) :
    AllHealthy
      (setClusterNodeStatus (Function.update status host.nodeName (some { deployer })) host.nodeName
      nodeHealthy) (nodes ++ [host]) := by
  intro other member
  by_cases same : other.nodeName = host.nodeName
  · exact ⟨deployer, by simp [setClusterNodeStatus, same]⟩
  · have earlier : other ∈ nodes := by
      refine (List.mem_append.mp member).resolve_right fun last => same ?_
      rw [List.mem_singleton.mp last]
    simpa [setClusterNodeStatus, Function.update_of_ne same] using healthy other earlier

theorem refreshUnhealthy_healthy {synced : Bool}
    (healthy : AllHealthy status nodes) :
    refreshUnhealthy nodes status synced = .done (status, synced) := by
  induction nodes with
  | nil => rfl
  | cons node rest ih =>
    obtain ⟨⟨deployer, found⟩, tail⟩ := List.forall_mem_cons.mp healthy
    simp only [refreshUnhealthy, found, if_true]
    exact ih tail

end Nodeletctl
