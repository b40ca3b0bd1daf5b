import Nodelet.Ctl.Membership
import Mathlib.Algebra.Ring.Parity

/-! The comparison of the nodes that are wanted with those that are active. It works on names, of
which each counts once, while the check of a configuration counts the entries of its lists. -/
namespace Nodeletctl
open Go.Resumption (Traces Emits)

section Partition
variable {desired hosts : List HostConfig} {active : List String} {host : HostConfig} {diff : Diff}

/-- The three lists of a comparison. -/
structure Diff.Partition (desired : List HostConfig) (active : List String) (diff : Diff) :
    Prop extends diff.Of desired active where
  nodupOld : (names diff.old).Nodup
  nodupCurr : (names diff.curr).Nodup
  last : ∀ host ∈ diff.new ++ diff.curr, LastOf desired host

variable {allowed : Event → Prop} {events : List Event}

theorem getDiffNodes_visits
    (runs : Traces allowed (getDiffNodes desired active) events (.done diff)) :
    ∃ visitedActive visitedDesired, visitedActive.Perm active.dedup ∧
      visitedDesired.Perm (hostMap desired) ∧
      diff = diffNodes desired active visitedActive visitedDesired := by
  have emits : Emits (fun _ => True) (fun diff => ∃ visitedActive visitedDesired, visitedActive.Perm active.dedup ∧
      visitedDesired.Perm (hostMap desired) ∧ diff = diffNodes desired active visitedActive visitedDesired)
      (getDiffNodes desired active) :=
    .bind (.perform fun _ => trivial) fun visitedActive _ =>
      .bind (.perform fun _ => trivial) fun visitedDesired _ =>
      ⟨visitedActive, visitedDesired, visitedActive.property, visitedDesired.property, rfl⟩
  exact emits.returned runs

theorem diffNodes_partition {visitedActive : List String} {visitedDesired : List HostConfig}
    (permActive : visitedActive.Perm active.dedup)
    (permDesired : visitedDesired.Perm (hostMap desired)) :
    (diffNodes desired active visitedActive visitedDesired).Partition desired active where
  toOf := diffNodes_of permActive permDesired
  nodupOld := by
    have same : names (diffNodes desired active visitedActive visitedDesired).old =
        visitedActive.filter (· ∉ names desired) := by simp [diffNodes, names, Function.comp_def]
    rw [same]
    exact (permActive.nodup_iff.mpr active.nodup_dedup).filter _
  nodupCurr := by
    have distinct : (names visitedDesired).Nodup :=
      ((permDesired.map _).nodup_iff).mpr (nodup_names_hostMap desired)
    exact distinct.sublist (List.filter_sublist.map _)
  last := diffNodes_last permDesired

/-- The comparison returns the names that are to be added, removed and kept, each once and with the
last entry of the name. Another order of the maps only permutes the lists. -/
theorem getDiffNodes_partition (desired : List HostConfig) (active : List String) :
    (∃ events diff, Traces (fun _ => True) (getDiffNodes desired active) events (.done diff)) ∧
      ∀ events diff, Traces (fun _ => True) (getDiffNodes desired active) events (.done diff) →
        diff.Partition desired active ∧
          ∀ events' diff', Traces (fun _ => True) (getDiffNodes desired active) events' (.done diff') →
            diff.new.Perm diff'.new ∧ diff.old.Perm diff'.old ∧ diff.curr.Perm diff'.curr := by
  refine ⟨?_, fun events diff runs => ?_⟩
  · exact ⟨[⟨.rangeNames active.dedup, ⟨_, .refl _⟩⟩,
      ⟨.rangeHosts (hostMap desired), ⟨_, .refl _⟩⟩], _,
      .call (t := ()) trivial (.call trivial .refl)⟩
  · obtain ⟨visitedActive, visitedDesired, permActive, permDesired, rfl⟩ := getDiffNodes_visits runs
    refine ⟨diffNodes_partition permActive permDesired, fun events' diff' runs' => ?_⟩
    obtain ⟨otherActive, otherDesired, permActive', permDesired', rfl⟩ := getDiffNodes_visits runs'
    have active := permActive.trans permActive'.symm
    have desired := permDesired.trans permDesired'.symm
    exact ⟨desired.filter _, (active.filter _).map _, desired.filter _⟩

end Partition

section Masters
variable {cfg : BootstrapConfig} {hosts : List HostConfig}

/-- The entries that a later one repeats the name of. -/
def repeated : List HostConfig → Nat
  | [] => 0
  | host :: rest => repeated rest + if rest.any (·.nodeName = host.nodeName) then 1 else 0

theorem length_hostMap (hosts : List HostConfig) :
    (hostMap hosts).length + repeated hosts = hosts.length := by
  induction hosts with
  | nil => rfl
  | cons host rest ih =>
    unfold hostMap repeated
    split <;> simp only [List.length_cons] <;> omega

theorem nodup_masterListOf (hosts : List HostConfig) :
    ((masterListOf hosts).map Prod.fst).Nodup := by
  induction hosts using List.reverseRecOn with
  | nil => exact List.nodup_nil
  | append_singleton earlier host ih =>
    rw [masterListOf, List.foldl_append, ← masterListOf, List.foldl_cons, List.foldl_nil,
      storeMaster, List.map_append]
    refine List.nodup_append.mpr ⟨ih.sublist (List.filter_sublist.map _), List.nodup_singleton _,
      ?_⟩
    simp

theorem length_masterListOf (hosts : List HostConfig) :
    (masterListOf hosts).length = (hostMap hosts).length := by
  have perm : ((masterListOf hosts).map Prod.fst).Perm (names (hostMap hosts)) :=
    (List.perm_ext_iff_of_nodup (nodup_masterListOf hosts) (nodup_names_hostMap hosts)).mpr fun _ =>
      mem_masterListOf.trans mem_names_hostMap.symm
  simpa [names] using perm.length_eq

theorem length_diffNodes {desired : List HostConfig} {active : List String}
    (runs : Traces allowed (getDiffNodes desired active) events (.done diff)) :
    (diff.curr ++ diff.new).length = (hostMap desired).length := by
  obtain ⟨visitedActive, visitedDesired, -, permDesired, rfl⟩ := getDiffNodes_visits runs
  rw [← permDesired.length_eq, List.length_append]
  have parts := visitedDesired.length_eq_length_filter_add fun host : HostConfig =>
    decide (host.nodeName ∈ active)
  simpa [diffNodes] using parts.symm

/-- The masters are odd in number, in the list that `DeployCluster` renders and among those that
`ScaleCluster` keeps and adds, and none of them is a worker. -/
structure Sized (cfg : BootstrapConfig) : Prop where
  deployed : Odd (masterListOf cfg.masters).length
  scaled : ∀ active events diff, Traces (fun _ => True) (getDiffNodes cfg.masters active) events (.done diff) →
    Odd (diff.curr ++ diff.new).length
  apart : ∀ nodeName ∈ names cfg.masters, nodeName ∉ names cfg.workers

theorem odd_of_accepted (accepted : cfg.Accepted) : Odd cfg.masters.length := by
  rw [Nat.odd_iff]
  simp only [BootstrapConfig.Accepted, isClusterCfgValid] at accepted
  split_ifs at accepted
  omega

/-- The check counts entries, so that an even number of masters passes it where an odd number of
entries is repeated. -/
theorem sized_iff (accepted : cfg.Accepted) : Sized cfg ↔ Even (repeated cfg.masters) ∧
    ∀ worker ∈ cfg.workers, ∀ master ∈ cfg.masters, worker.nodeName ≠ master.nodeName := by
  have odd := odd_of_accepted accepted
  have lengths := length_hostMap cfg.masters
  have parity : Odd (hostMap cfg.masters).length ↔ Even (repeated cfg.masters) := by
    rw [← lengths, Nat.odd_add] at odd
    exact odd
  constructor
  · intro sized
    refine ⟨parity.mp (length_masterListOf cfg.masters ▸ sized.deployed),
      fun worker here master there same => ?_⟩
    exact sized.apart _ (mem_names there) (same ▸ mem_names here)
  · rintro ⟨even, apart⟩
    refine ⟨length_masterListOf cfg.masters ▸ parity.mpr even, fun active events diff runs =>
      ?_, ?_⟩
    · rw [length_diffNodes runs]
      exact parity.mpr even
    · intro nodeName here there
      obtain ⟨master, member, rfl⟩ := List.mem_map.mp here
      obtain ⟨worker, member', same⟩ := List.mem_map.mp there
      exact apart worker member' master member same

/-- Five entries for three masters. -/
def fiveEntries : BootstrapConfig :=
  { masterNodes := some [{ nodeName := "10.0.0.1" }, { nodeName := "10.0.0.2" },
      { nodeName := "10.0.0.3" }, { nodeName := "10.0.0.3" }, { nodeName := "10.0.0.3" }]
    workerNodes := some [{ nodeName := "10.0.1.1" }] }

theorem sized_fiveEntries :
    fiveEntries.Accepted ∧ repeated fiveEntries.masters = 2 ∧ Sized fiveEntries := by
  have accepted : fiveEntries.Accepted := rfl
  exact ⟨accepted, by decide, (sized_iff accepted).mpr (by decide)⟩

def threeEntries : BootstrapConfig :=
  { allowWorkloadsOnMaster := true
    masterNodes :=
      some [{ nodeName := "10.0.0.1" }, { nodeName := "10.0.0.2" }, { nodeName := "10.0.0.2" }] }

/-- Three entries for two masters pass the check. -/
theorem two_masters_accepted : threeEntries.Accepted ∧
    (masterListOf threeEntries.masters).length = 2 ∧ ¬ Sized threeEntries := by
  have two : (masterListOf threeEntries.masters).length = 2 := by decide
  refine ⟨rfl, two, fun sized => ?_⟩
  have odd := sized.deployed
  rw [two] at odd
  exact absurd odd (by decide)

end Masters
end Nodeletctl
