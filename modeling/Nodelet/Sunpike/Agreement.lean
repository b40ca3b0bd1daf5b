import Nodelet.Sunpike.Host

/-! Whether the host object says what the extension data says. The loops that
should set the phases assign to copies of them, and three documented fields are
never set, so an update leaves the host's progress as it was. -/
namespace Nodelet.Sunpike
open Constants

/-- The order of the phase with this name; the empty name stands for no phase. -/
def Host.HasOrder (host : Host) (name : String) (order : Int) : Prop :=
  if name = "" then order = -1 else ∃ p ∈ host.status.phases, p.name = name ∧ p.order = order

/-- The phase comes no later than the last completed one. -/
def Host.Completed (host : Host) (snapshot : Snapshot) (p : HostPhase) : Prop :=
  ∃ last ∈ host.status.phases, snapshot.completedPhases.getLast? = some last.name ∧
    p.order ≤ last.order

/-- The host shows the progress that the snapshot records. -/
structure Host.Agrees (host : Host) (snapshot : Snapshot) : Prop where
  running : ∀ p ∈ host.status.phases, host.Completed snapshot p → p.status = runningState
  executing : ∀ p ∈ host.status.phases, p.name ≠ "" → p.name = snapshot.data.currentPhase →
    p.status = executingState
  failed : ∀ p ∈ host.status.phases, p.name ≠ "" → p.name = snapshot.data.lastFailedPhase →
    ¬ host.Completed snapshot p → p.name ≠ snapshot.data.currentPhase → p.status = failedState
  phaseCompleted :
    host.HasOrder (snapshot.completedPhases.getLast?.getD "") host.status.phaseCompleted
  lastFailedPhase : host.HasOrder snapshot.data.lastFailedPhase host.status.lastFailedPhase
  currentPhase : host.HasOrder snapshot.data.currentPhase host.status.currentPhase

namespace PhaseMemory

theorem findPhase_host (order : Int) (phases : List HostPhase) (memory : PhaseMemory) :
    (findPhase order phases memory).1.host = memory.host := by
  induction phases generalizing memory with
  | nil => rfl
  | cons element rest ih =>
    simp only [findPhase]
    split
    · rfl
    · rw [ih]

/-- The loop never returns the address of an element. -/
theorem findPhase_pointer (order : Int) (phases : List HostPhase) (memory : PhaseMemory) :
    (findPhase order phases memory).2 ≠ some (.element i) := by
  induction phases generalizing memory with
  | nil => simp [findPhase]
  | cons element rest ih =>
    simp only [findPhase]
    split
    · simp
    · exact ih _

end PhaseMemory

namespace Host
variable (host : Host) (now : Int)

/-- The assignments reach the loop variable alone. -/
theorem populatePhaseObj_eq (order : Int) (op : Operation) (status : String) :
    host.populatePhaseObj now order op status = host := by
  have same := PhaseMemory.findPhase_host order host.status.phases { host := host }
  unfold populatePhaseObj
  cases found : PhaseMemory.findPhase order host.status.phases { host := host } with
  | mk memory pointer =>
    rw [found] at same
    match pointer, found with
    | none, _ => exact same
    | some .loopVariable, _ => exact same
    | some (.element i), found =>
      exact absurd (congrArg Prod.snd found) (PhaseMemory.findPhase_pointer _ _ _)

theorem rangePhases_eq (body : HostPhase → Host → Host) (idle : ∀ p host, body p host = host) :
    host.rangePhases body = host := by
  have step (i : Nat) : host.rangeStep body i = host := by
    unfold rangeStep
    split
    · exact idle _ _
    · rfl
  unfold rangePhases
  induction List.range host.status.phases.length with
  | nil => rfl
  | cons i rest ih =>
    rw [List.foldl_cons, step]
    exact ih

/-- An update sets the scalar fields and nothing else. -/
theorem populateHostObj_eq (snapshot : Snapshot) :
    host.populateHostObj now snapshot = host.populateScalars snapshot.data := by
  simp only [populateHostObj, populatePhaseObj_eq, ite_self]
  split
  · exact rangePhases_eq _ _ fun _ _ => rfl
  · split
    · exact rangePhases_eq _ _ fun _ _ => rfl
    · rfl

end Host

/-- The updates of a process, each with its clock reading and its snapshot. -/
def populateAll (updates : List (Int × Snapshot)) (host : Host) : Host :=
  updates.foldl (fun host update => host.populateHostObj update.1 update.2) host

theorem populateAll_progress (updates : List (Int × Snapshot)) (host : Host) :
    (populateAll updates host).status.phases = host.status.phases ∧
      (populateAll updates host).status.currentPhase = host.status.currentPhase := by
  induction updates generalizing host with
  | nil => exact ⟨rfl, rfl⟩
  | cons update rest ih =>
    have later := ih (host.populateHostObj update.1 update.2)
    rw [Host.populateHostObj_eq] at later
    rw [populateAll, List.foldl_cons, Host.populateHostObj_eq]
    exact later

/-- The phases as a process begins with them. -/
def freshPhases (phases : List Phase) : List HostPhase :=
  phases.map fun phase => { name := phase.name, order := phase.order }

/-- What a process sends agrees with no snapshot: the current phase stays 0, and no phase is ever
marked as executing. -/
theorem populateAll_disagrees (updates : List (Int × Snapshot)) (cfg : Config) (phases : List Phase)
    (spec : HostSpec) (hostname version : String) (snapshot : Snapshot) :
    ¬ (populateAll updates (initialHost cfg (freshPhases phases) spec hostname version)).Agrees
      snapshot := by
  have fresh : ∀ p ∈ freshPhases phases, p.status = "" := by simp [freshPhases]
  intro agrees
  obtain ⟨samePhases, sameCurrent⟩ := populateAll_progress updates
    (initialHost cfg (freshPhases phases) spec hostname version)
  have current := agrees.currentPhase
  unfold Host.HasOrder at current
  rw [samePhases, sameCurrent] at current
  split at current
  · contradiction
  · rename_i named
    obtain ⟨p, member, name, order⟩ := current
    have executing := agrees.executing p (samePhases ▸ member) (name ▸ named) name
    rw [fresh p member] at executing
    contradiction

/-- After an update the host agrees with the extension data exactly if it did before; and what a
process sends never does. -/
theorem Host.populateHostObj_agrees_iff (host : Host) (now : Int) (snapshot : Snapshot) :
    ((host.populateHostObj now snapshot).Agrees snapshot ↔ host.Agrees snapshot) ∧
    ∀ updates cfg phases spec hostname version,
      ¬ (populateAll updates (initialHost cfg (freshPhases phases) spec hostname version)).Agrees
      snapshot := by
  refine ⟨?_, fun updates cfg phases spec hostname version =>
    populateAll_disagrees updates cfg phases spec hostname version snapshot⟩
  rw [populateHostObj_eq]
  constructor
  · rintro ⟨running, executing, failed, phaseCompleted, lastFailedPhase, currentPhase⟩
    exact ⟨running, executing, failed, phaseCompleted, lastFailedPhase, currentPhase⟩
  · rintro ⟨running, executing, failed, phaseCompleted, lastFailedPhase, currentPhase⟩
    exact ⟨running, executing, failed, phaseCompleted, lastFailedPhase, currentPhase⟩

/-- Both phases of a node were started. -/
def bothStarted : Snapshot where
  data := { ExtensionData.new with serviceState := serviceStateTrue, startAttempts := 0, startFailStep := -1 }
  allPhases := ["certs", "kubeconfig"]
  completedPhases := ["certs", "kubeconfig"]

/-- The host sent to Sunpike shows neither of them. -/
theorem Host.populateHostObj_disagrees_completed :
    ¬ ((initialHost defaultConfig
      [{ name := "certs", order := 20 }, { name := "kubeconfig", order := 30 }] {}
      "node" "v1").populateHostObj 0 bothStarted).Agrees bothStarted := by
  rw [populateHostObj_eq]
  intro agrees
  have running := agrees.running { name := "certs", order := 20 } (by decide)
    ⟨{ name := "kubeconfig", order := 30 }, by decide, rfl, by decide⟩
  contradiction

end Nodelet.Sunpike
