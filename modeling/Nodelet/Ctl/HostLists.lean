import Nodelet.Ctl.Cluster
import Mathlib.Data.List.Induction

/-! The lists of hosts that a configuration is compared by, and the maps from names to addresses
that are made of them. Of the entries of a name the last one counts. -/
namespace Nodeletctl

section Diff
variable {desired : List HostConfig} {active : List String} {hosts : List HostConfig}
  {nodeName : String}

theorem mem_names_hostMap : nodeName ∈ names (hostMap hosts) ↔ nodeName ∈ names hosts := by
  induction hosts with
  | nil => rfl
  | cons host rest ih =>
    simp only [names, List.map_cons, List.mem_cons] at ih ⊢
    unfold hostMap
    split
    · next later =>
      rw [ih]
      refine ⟨.inr, fun member => member.elim ?_ id⟩
      rintro rfl
      simpa using later
    · simp only [List.map_cons, List.mem_cons, ih]

theorem nodup_names_hostMap (hosts : List HostConfig) : (names (hostMap hosts)).Nodup := by
  induction hosts with
  | nil => exact List.nodup_nil
  | cons host rest ih =>
    unfold hostMap
    split
    · exact ih
    · next last =>
      refine List.nodup_cons.mpr ⟨fun member => last ?_, ih⟩
      simpa [names] using mem_names_hostMap.mp member

/-- The three parts of a difference, by the names of their hosts. -/
structure Diff.Of (desired : List HostConfig) (active : List String) (diff : Diff) : Prop where
  new : ∀ nodeName, nodeName ∈ names diff.new ↔ nodeName ∈ names desired ∧ nodeName ∉ active
  old : ∀ nodeName, nodeName ∈ names diff.old ↔ nodeName ∈ active ∧ nodeName ∉ names desired
  curr : ∀ nodeName, nodeName ∈ names diff.curr ↔ nodeName ∈ names desired ∧ nodeName ∈ active
  nodup : (names diff.new).Nodup
  unaddressed : ∀ host ∈ diff.old, host.hostIp = host.nodeName

variable {visitedDesired : List HostConfig}

theorem diffNodes_of {visitedActive : List String} (permActive : visitedActive.Perm active.dedup)
    (permDesired : visitedDesired.Perm (hostMap desired)) :
    (diffNodes desired active visitedActive visitedDesired).Of desired active := by
  have visited : ∀ nodeName, nodeName ∈ names visitedDesired ↔ nodeName ∈ names desired :=
    fun nodeName =>
    (permDesired.map _).mem_iff.trans mem_names_hostMap
  have distinct : (names visitedDesired).Nodup :=
    ((permDesired.map _).nodup_iff).mpr (nodup_names_hostMap desired)
  refine ⟨fun nodeName => ?_, fun nodeName => ?_, fun nodeName => ?_, ?_, ?_⟩
  · rw [← visited nodeName]
    simp only [diffNodes, names, List.mem_map, List.mem_filter, decide_eq_true_eq]
    grind
  · simp only [diffNodes, names, List.map_map, List.mem_map, List.mem_filter, permActive.mem_iff,
      List.mem_dedup, decide_eq_true_eq, Function.comp_apply, exists_eq_right]
  · rw [← visited nodeName]
    simp only [diffNodes, names, List.mem_map, List.mem_filter, decide_eq_true_eq]
    grind
  · exact distinct.sublist (List.filter_sublist.map _)
  · rintro _ member
    obtain ⟨nodeName, _, rfl⟩ := List.mem_map.mp member
    rfl

end Diff

section MasterList
variable {hosts : List HostConfig} {host : HostConfig} {masterList : List (String × String)}
  {known : HostConfig → Prop}

/-- An entry after which no other has its name. -/
def LastOf (hosts : List HostConfig) (host : HostConfig) : Prop :=
  ∃ earlier later, hosts = earlier ++ host :: later ∧ host.nodeName ∉ names later

theorem lastOf_cons {first : HostConfig} :
    LastOf (first :: hosts) host ↔ (host = first ∧ host.nodeName ∉ names hosts) ∨
      LastOf hosts host := by
  constructor
  · rintro ⟨earlier, later, same, last⟩
    cases earlier with
    | nil =>
      obtain ⟨rfl, rfl⟩ := List.cons.inj same
      exact .inl ⟨rfl, last⟩
    | cons _ earlier =>
      obtain ⟨rfl, rfl⟩ := List.cons.inj same
      exact .inr ⟨earlier, later, rfl, last⟩
  · rintro (⟨rfl, last⟩ | ⟨earlier, later, rfl, last⟩)
    · exact ⟨[], hosts, rfl, last⟩
    · exact ⟨first :: earlier, later, rfl, last⟩

theorem lastOf_of_mem_hostMap (member : host ∈ hostMap hosts) : LastOf hosts host := by
  induction hosts with
  | nil => contradiction
  | cons first rest ih =>
    unfold hostMap at member
    split at member
    · exact lastOf_cons.mpr (.inr (ih member))
    · next last =>
      obtain rfl | later := List.mem_cons.mp member
      · exact lastOf_cons.mpr (.inl ⟨rfl, by simpa [names] using last⟩)
      · exact lastOf_cons.mpr (.inr (ih later))

theorem LastOf.unique {other : HostConfig} (last : LastOf hosts host) (last' : LastOf hosts other)
    (same : host.nodeName = other.nodeName) : host = other := by
  obtain ⟨earlier, later, rfl, absent⟩ := last
  obtain ⟨earlier', later', split, absent'⟩ := last'
  obtain ⟨between, rfl, tail⟩ | ⟨between, rfl, tail⟩ := List.append_eq_append_iff.mp split
  · cases between with
    | nil => exact (List.cons.inj tail).1
    | cons _ between =>
      obtain ⟨rfl, rfl⟩ := List.cons.inj tail
      exact absurd (by simp [names, same]) absent
  · cases between with
    | nil => exact (List.cons.inj tail).1.symm
    | cons _ between =>
      obtain ⟨rfl, rfl⟩ := List.cons.inj tail
      exact absurd (by simp [names, same]) absent'

theorem LastOf.mem (last : LastOf hosts host) : host ∈ hosts := by
  obtain ⟨earlier, later, rfl, -⟩ := last
  simp

theorem LastOf.concat {next : HostConfig} (last : LastOf hosts host)
    (other : host.nodeName ≠ next.nodeName) : LastOf (hosts ++ [next]) host := by
  obtain ⟨earlier, later, rfl, absent⟩ := last
  refine ⟨earlier, later ++ [next], by simp, ?_⟩
  simp only [names, List.map_append, List.mem_append, not_or]
  exact ⟨absent, by simpa using other⟩

theorem diffNodes_last {desired : List HostConfig} {active visitedActive : List String}
    (permDesired : visitedDesired.Perm (hostMap desired)) :
    ∀ host ∈ (diffNodes desired active visitedActive visitedDesired).new ++
      (diffNodes desired active visitedActive visitedDesired).curr, LastOf desired host := by
  intro host member
  apply lastOf_of_mem_hostMap
  apply permDesired.mem_iff.mp
  obtain new | curr := List.mem_append.mp member
  · exact List.mem_of_mem_filter new
  · exact List.mem_of_mem_filter curr

/-- Every entry of the list is that of a known host. -/
def Listed (known : HostConfig → Prop) (masterList : List (String × String)) : Prop :=
  ∀ entry ∈ masterList, ∃ host, known host ∧ entry = (host.nodeName, host.hostIp)

theorem Listed.weaken {weaker : HostConfig → Prop} (listed : Listed known masterList)
    (implies : ∀ host, known host → weaker host) : Listed weaker masterList := by
  intro entry member
  obtain ⟨host, held, same⟩ := listed entry member
  exact ⟨host, implies host held, same⟩

theorem Listed.store (listed : Listed known masterList) (held : known host) :
    Listed known (storeMaster masterList host.nodeName host.hostIp) := by
  intro entry member
  obtain kept | stored := List.mem_append.mp member
  · exact listed entry (List.mem_of_mem_filter kept)
  · exact ⟨host, held, List.mem_singleton.mp stored⟩

theorem listed_masterListOf (hosts : List HostConfig) :
    Listed (LastOf hosts) (masterListOf hosts) := by
  induction hosts using List.reverseRecOn with
  | nil => exact List.forall_mem_nil _
  | append_singleton earlier next ih =>
    rw [masterListOf, List.foldl_append, ← masterListOf, List.foldl_cons, List.foldl_nil]
    intro entry member
    obtain kept | stored := List.mem_append.mp member
    · obtain ⟨member, other⟩ := List.mem_filter.mp kept
      obtain ⟨host, last, rfl⟩ := ih entry member
      exact ⟨host, last.concat (by simpa using other), rfl⟩
    · exact ⟨next, ⟨earlier, [], rfl, List.not_mem_nil⟩, List.mem_singleton.mp stored⟩

end MasterList

end Nodeletctl
