import Nodelet.ToHost

/-! What comes back when a host is turned into the mapping behind `kube.env` and read from it. -/
namespace Nodelet
open Sunpike

section Written
variable {k : KubeEnvMap} {key value : String}

mutual

theorem fieldToKubeEnvMap_eq : ∀ (field : Field) (k : KubeEnvMap),
    fieldToKubeEnvMap field k = (fieldLeaves field).foldl (fun k leaf => k.insert leaf.1 leaf.2) k
  | .string .., _ | .int32 .., _ | .bool .., _ | .map, _ => rfl
  | .struct fields, k => by
    rw [fieldToKubeEnvMap, fieldLeaves, structToKubeEnvMap_eq]

/-- All tagged fields are stored, one after the other. -/
theorem structToKubeEnvMap_eq : ∀ (fields : List Field) (k : KubeEnvMap),
    structToKubeEnvMap fields k =
      (structLeaves fields).foldl (fun k leaf => k.insert leaf.1 leaf.2) k
  | [], _ => rfl
  | field :: rest, k => by
    rw [structToKubeEnvMap, structLeaves, List.foldl_append, structToKubeEnvMap_eq,
      fieldToKubeEnvMap_eq]

end

theorem lookup_insertLeaves {leaves : List (String × String)}
    (distinct : (leaves.map Prod.fst).Nodup) :
    (leaves.foldl (fun k leaf => k.insert leaf.1 leaf.2) k).lookup key = some value ↔
      (key, value) ∈ leaves ∨ key ∉ leaves.map Prod.fst ∧ k.lookup key = some value := by
  induction leaves generalizing k with
  | nil => simp
  | cons leaf rest ih =>
    obtain ⟨new, distinct⟩ := List.nodup_cons.mp distinct
    rw [List.foldl_cons, ih distinct, List.mem_cons, List.map_cons, List.mem_cons]
    by_cases same : key = leaf.1
    · subst same
      have absent : (leaf.1, value) ∉ rest := fun member => new (List.mem_map.mpr ⟨_, member, rfl⟩)
      simp [new, absent, Prod.ext_iff, eq_comm]
    · have other : (key, value) ≠ leaf := fun equal => same (congrArg Prod.fst equal)
      simp [same, other, Finmap.lookup_insert_of_ne]

theorem distinct_knownKubeEnvKeys : knownKubeEnvKeys.Nodup := by decide +kernel

theorem hostIDKey_not_known : hostIDKey ∉ knownKubeEnvKeys := by decide +kernel

/-- No key of a field is the name of a field without a tag, up to case. -/
theorem known_not_names :
    ∀ key ∈ hostIDKey :: knownKubeEnvKeys, ∀ name ∈ hostSpecShape.names, equalFold key name =
      false := by
  decide +kernel

theorem keys_structLeaves (spec : HostSpec) :
    (structLeaves spec.fields).map Prod.fst = knownKubeEnvKeys := by
  simp only [knownKubeEnvKeys, KeepalivedOpts.fields, KeystoneOpts.fields, PF9Opts.fields,
    KubeSchedulerOpts.fields, KubeControllerManagerOpts.fields, KubeApiserverOpts.fields,
    CalicoOpts.fields, FlannelOpts.fields, CNIOpts.fields, AppCatalogOpts.fields,
    ClusterAutoScalerOpts.fields, LuigiOpts.fields, KubeVirtOpts.fields, CPUManagerOpts.fields,
    ProfileAgentOpts.fields, AddonsOpts.fields, KubeProxyOpts.fields, MetalLBOpts.fields,
    KubeClusterOpts.fields, EtcdOpts.fields, KubeletOpts.fields, DockerOpts.fields, HostSpec.fields,
    structLeaves, fieldLeaves, List.map_append, List.map_cons, List.map_nil]

theorem lookup_formalKubeEnv : (formalKubeEnv host).lookup key = some value ↔
    (key, value) ∈ structLeaves host.spec.fields ∨ key = hostIDKey ∧ value = host.name := by
  have distinct : ((structLeaves host.spec.fields).map Prod.fst).Nodup :=
    keys_structLeaves host.spec ▸ distinct_knownKubeEnvKeys
  rw [formalKubeEnv]
  by_cases same : key = hostIDKey
  · subst same
    have absent : (hostIDKey, value) ∉ structLeaves host.spec.fields := fun member =>
      hostIDKey_not_known (keys_structLeaves host.spec ▸ List.mem_map.mpr ⟨_, member, rfl⟩)
    simp [absent, eq_comm]
  · rw [Finmap.lookup_insert_of_ne _ same, structToKubeEnvMap_eq, lookup_insertLeaves distinct]
    simp [same]

theorem mem_formalKubeEnv (host : Host) :
    key ∈ formalKubeEnv host ↔ key ∈ hostIDKey :: knownKubeEnvKeys := by
  rw [Finmap.mem_iff, List.mem_cons, ← keys_structLeaves host.spec, List.mem_map]
  simp only [lookup_formalKubeEnv]
  constructor
  · rintro ⟨value, member | ⟨rfl, -⟩⟩
    · exact .inr ⟨_, member, rfl⟩
    · exact .inl rfl
  · rintro (rfl | ⟨⟨_, value⟩, member, rfl⟩)
    · exact ⟨host.name, .inr ⟨rfl, rfl⟩⟩
    · exact ⟨value, .inl member⟩

end Written

/-- The names of the fields of `HostSpec`. -/
def goNames : List String :=
  ["ExtraCfg", "PF9Cfg", "ClusterCfg", "Etcd", "ExtraOpts", "ServicesCIDR", "ContainersCIDR",
    "AllowWorkloadsOnMaster",
   "Kubelet", "Docker", "DockerPrivateRegistry", "QuayPrivateRegistry", "GCRPrivateRegistry",
     "K8SPrivateRegistry",
   "ContainerRuntime"]

/-- The keys of `ExtraCfg` are upper-case, and no field has them. -/
structure ExtraKeysFree (toUpper : String → String) (host : Host) : Prop where
  upper : ∀ entry ∈ extraEntries host, toUpper entry.1 = entry.1
  formal : ∀ entry ∈ extraEntries host, entry.1 ∉ hostIDKey :: knownKubeEnvKeys
  names : ∀ entry ∈ extraEntries host, entry.1 ∉ goNames

section Converted
variable {toUpper : String → String} {host : Host} {order : List (String × String)}
  {key value name : String}
  {k : KubeEnvMap} {visits : String → List String}

theorem distinct_extraEntries (host : Host) : ((extraEntries host).map Prod.fst).Nodup := by
  unfold extraEntries
  split
  · rename_i extraCfg _
    exact extraCfg.distinct
  · exact List.nodup_nil

theorem mem_extraCfgOf : (key, value) ∈ (extraCfgOf k).entries ↔
    key ∉ hostIDKey :: knownKubeEnvKeys ∧ k.lookup key = some value := by
  have listed : (key, value) ∈ (extraCfgOf k).entries ↔ key ∈ extraKeys k ∧
      (k.lookup key).getD "" = value := by
    simp [extraCfgOf]
  have left : key ∈ extraKeys k ↔ key ∈ k ∧ key ∉ hostIDKey :: knownKubeEnvKeys := by
    simp [extraKeys, KubeEnvMap.keys, Finmap.mem_keys, and_comm]
  rw [listed, left]
  constructor
  · rintro ⟨⟨member, unknown⟩, text⟩
    obtain ⟨raw, here⟩ := Finmap.mem_iff.mp member
    rw [here, Option.getD_some] at text
    exact ⟨unknown, text ▸ here⟩
  · rintro ⟨unknown, here⟩
    exact ⟨⟨Finmap.mem_iff.mpr ⟨value, here⟩, unknown⟩, by rw [here, Option.getD_some]⟩

theorem equalFold_refl (s : String) : equalFold s s = true := by simp [equalFold]

theorem rawMapVal_eq_none (visited : ∀ key, key ∈ visits name ↔ key ∈ k) :
    rawMapVal k visits name = none ↔ ∀ key ∈ k, equalFold key name = false := by
  unfold rawMapVal
  cases here : k.lookup name with
  | some raw =>
    have member : name ∈ k := Finmap.mem_iff.mpr ⟨raw, here⟩
    refine ⟨nofun, fun apart => ?_⟩
    exact absurd ((equalFold_refl name).symm.trans (apart name member)) Bool.noConfusion
  | none =>
    cases found : (visits name).find? (equalFold · name) with
    | none =>
      refine ⟨fun _ key member => ?_, fun _ => rfl⟩
      simpa using List.find?_eq_none.mp found key ((visited key).mpr member)
    | some key =>
      have member := (visited key).mp (List.mem_of_find?_eq_some found)
      obtain ⟨raw, there⟩ := Finmap.mem_iff.mp member
      rw [Option.bind_some, there]
      refine ⟨nofun, fun apart => ?_⟩
      exact absurd ((List.find?_some found).symm.trans (apart key member)) Bool.noConfusion

theorem toHost_eq_ok {back : Host} (read : toHost visits k = .ok back) :
    ∃ spec, hostSpecShape.decode (rawMapVal k visits) = .ok spec := by
  obtain ⟨spec, decoded, -⟩ := Go.bind_eq_ok.mp read
  exact ⟨spec, Go.mapError_eq_ok.mp decoded⟩

section Free
variable (free : ExtraKeysFree toUpper host) (iterates : Iterates host order)
include free iterates

theorem find_extra :
    (order.find? fun entry => toUpper entry.1 = key).map Prod.snd = some value ↔
    (key, value) ∈ extraEntries host := by
  constructor
  · intro found
    obtain ⟨entry, first, rfl⟩ := Option.map_eq_some_iff.mp found
    have member := iterates.mem_iff.mp (List.mem_of_find?_eq_some first)
    have same : toUpper entry.1 = key := by simpa using List.find?_some first
    rw [free.upper entry member] at same
    exact same ▸ member
  · intro member
    have visited := iterates.mem_iff.mpr member
    have upper : toUpper key = key := free.upper _ member
    have some : (order.find? fun entry => toUpper entry.1 = key).isSome :=
      List.find?_isSome.mpr ⟨_, visited, by simpa using upper⟩
    obtain ⟨entry, found⟩ := Option.isSome_iff_exists.mp some
    have inside := iterates.mem_iff.mp (List.mem_of_find?_eq_some found)
    have same : toUpper entry.1 = key := by simpa using List.find?_some found
    rw [free.upper entry inside] at same
    have equal : entry = (key, value) :=
      List.inj_on_of_nodup_map (distinct_extraEntries host) inside member same
    rw [found, equal, Option.map_some]

theorem lookup_convertHostToKubeEnvMap :
    (convertHostToKubeEnvMap toUpper host order).lookup key = some value ↔
      (formalKubeEnv host).lookup key = some value ∨ (key, value) ∈ extraEntries host := by
  rw [convertHostToKubeEnvMap, Go.Map.lookup_fillAbsent, Option.or_eq_some_iff,
    find_extra free iterates]
  have unclaimed (member : (key, value) ∈ extraEntries host) : key ∉ formalKubeEnv host := by
    rw [mem_formalKubeEnv]
    exact free.formal (key, value) member
  exact or_congr_right ⟨And.right, fun member =>
    ⟨Finmap.lookup_eq_none.mpr (unclaimed member), member⟩⟩

theorem mem_convertHostToKubeEnvMap :
    key ∈ convertHostToKubeEnvMap toUpper host order ↔
      key ∈ hostIDKey :: knownKubeEnvKeys ∨ ∃ entry ∈ extraEntries host, entry.1 = key := by
  rw [Finmap.mem_iff, ← mem_formalKubeEnv host, Finmap.mem_iff]
  simp only [lookup_convertHostToKubeEnvMap free iterates, exists_or]
  refine or_congr_right ⟨fun ⟨value, member⟩ => ⟨_, member, rfl⟩, ?_⟩
  rintro ⟨⟨_, value⟩, member, rfl⟩
  exact ⟨value, member⟩

theorem extraCfgOf_convertHostToKubeEnvMap (entry : String × String) :
    entry ∈ (extraCfgOf (convertHostToKubeEnvMap toUpper host order)).entries ↔
      entry ∈ extraEntries host := by
  rw [mem_extraCfgOf, lookup_convertHostToKubeEnvMap free iterates]
  constructor
  · rintro ⟨unknown, formal | member⟩
    · rw [← mem_formalKubeEnv host, Finmap.mem_iff] at unknown
      exact absurd ⟨entry.2, formal⟩ unknown
    · exact member
  · exact fun member => ⟨free.formal entry member, .inr member⟩

/-- A field without a tag gets a text exactly where `ExtraCfg` has a key like its name. -/
theorem unclaimed_iff
    (visited : ∀ name key, key ∈ visits name ↔ key ∈ convertHostToKubeEnvMap toUpper host order) :
    (∀ name ∈ hostSpecShape.names,
      rawMapVal (convertHostToKubeEnvMap toUpper host order) visits name = none) ↔
      ∀ entry ∈ extraEntries host, ∀ name ∈ hostSpecShape.names, equalFold entry.1 name =
      false := by
  simp only [rawMapVal_eq_none (visited _), mem_convertHostToKubeEnvMap free iterates]
  constructor
  · exact fun apart entry member name untagged =>
      apart name untagged entry.1 (.inr ⟨entry, member, rfl⟩)
  · rintro apart name untagged key (formal | ⟨entry, member, rfl⟩)
    · exact known_not_names key formal name untagged
    · exact apart entry member name untagged

theorem agrees_rawMapVal :
    Agrees (rawMapVal (convertHostToKubeEnvMap toUpper host order) visits) host.spec.fields := by
  rintro ⟨tag, text⟩ member
  have found : (convertHostToKubeEnvMap toUpper host order).lookup tag = some text :=
    (lookup_convertHostToKubeEnvMap free iterates).mpr
      (.inl (lookup_formalKubeEnv.mpr (.inl member)))
  rw [rawMapVal, found]

/-- The decoder succeeds exactly where the integers are plain, and no key of `ExtraCfg` is the name
of a field without a tag, up to case. -/
theorem decodes_iff
    (visited : ∀ name key, key ∈ visits name ↔ key ∈ convertHostToKubeEnvMap toUpper host order) :
    (∃ spec, hostSpecShape.decode (rawMapVal (convertHostToKubeEnvMap toUpper host order) visits) =
      .ok spec) ↔ Plain host.spec.fields ∧
      ∀ entry ∈ extraEntries host, ∀ name ∈ hostSpecShape.names, equalFold entry.1 name =
      false := by
  have agrees :
      Agrees (rawMapVal (convertHostToKubeEnvMap toUpper host order) visits)
        (hostSpecShape.fields host.spec) :=
    agrees_rawMapVal free iterates
  rw [← unclaimed_iff free iterates visited, ← hostSpecShape_fields,
    ← hostSpecShape.succeeds _ host.spec agrees]
  exact exists_congr fun _ => Shape.decode_ok

end Free

/-- A host comes back from the map exactly where its integers are plain, and no key of `ExtraCfg` is
the name of a field without a tag, up to case. -/
theorem toHost_convertHostToKubeEnvMap_iff (free : ExtraKeysFree toUpper host)
    (iterates : Iterates host order)
    (visited : ∀ name key, key ∈ visits name ↔ key ∈ convertHostToKubeEnvMap toUpper host order) :
    (∃ back, toHost visits (convertHostToKubeEnvMap toUpper host order) = .ok back ∧
      back.name = host.name ∧
      back.spec.fields = host.spec.fields ∧ ∀ entry, entry ∈ extraEntries back ↔
      entry ∈ extraEntries host) ↔ Plain host.spec.fields ∧
      ∀ entry ∈ extraEntries host, ∀ name ∈ hostSpecShape.names, equalFold entry.1 name =
      false := by
  rw [← decodes_iff free iterates visited]
  constructor
  · rintro ⟨back, read, -⟩
    exact toHost_eq_ok read
  · rintro ⟨spec, decoded⟩
    have named : (convertHostToKubeEnvMap toUpper host order).lookup hostIDKey = some host.name :=
      (lookup_convertHostToKubeEnvMap free iterates).mpr (.inl (lookup_formalKubeEnv.mpr (.inr ⟨rfl, rfl⟩)))
    refine ⟨_, Go.bind_eq_ok.mpr ⟨spec, Go.mapError_eq_ok.mpr decoded, rfl⟩, ?_, ?_, ?_⟩
    · rw [named, Option.getD_some]
    · exact hostSpecShape.restores _ host.spec spec (agrees_rawMapVal free iterates) (Shape.decode_ok.mp decoded)
    · exact extraCfgOf_convertHostToKubeEnvMap free iterates

section Timeout
variable (electionTimeout : Int32)

/-- A host with one key in `ExtraCfg`, and this election timeout. -/
def timedHost : Host where
  name := "node"
  spec := { extraCfg := some ⟨[("ZONE", "a")], by decide⟩, etcd := { electionTimeout } }

def timedKubeEnv : KubeEnvMap :=
  convertHostToKubeEnvMap String.toUpper (timedHost electionTimeout) [("ZONE", "a")]

def timedKeys : List String := "ZONE" :: hostIDKey :: knownKubeEnvKeys

theorem timedHost_free : ExtraKeysFree String.toUpper (timedHost electionTimeout) := by
  have upper : String.toUpper "ZONE" = "ZONE" := by decide +kernel
  have unknown : "ZONE" ∉ hostIDKey :: knownKubeEnvKeys := by decide +kernel
  have unnamed : "ZONE" ∉ goNames := by decide
  exact ⟨List.forall_mem_singleton.mpr upper, List.forall_mem_singleton.mpr unknown,
    List.forall_mem_singleton.mpr unnamed⟩

theorem mem_timedKeys {key : String} : key ∈ timedKeys ↔ key ∈ timedKubeEnv electionTimeout := by
  have iterates : Iterates (timedHost electionTimeout) [("ZONE", "a")] := List.Perm.refl _
  rw [timedKubeEnv, mem_convertHostToKubeEnvMap (timedHost_free electionTimeout) iterates, or_comm]
  exact List.mem_cons.trans (or_congr_left (by simp [timedHost, extraEntries, eq_comm]))

end Timeout

theorem toHost_convertHostToKubeEnvMap_second :
    ∃ back, toHost (fun _ => timedKeys) (timedKubeEnv 1000) = .ok back ∧ back.name = "node" ∧
      back.spec.fields = (timedHost 1000).spec.fields ∧
      ∀ entry, entry ∈ extraEntries back ↔ entry ∈ extraEntries (timedHost 1000) := by
  have plain : Plain (timedHost 1000).spec.fields := by
    intro value member
    have ints :
      structInts (timedHost 1000).spec.fields = [0, 0, 0, 0, 0, 0, 1000, 0] := by decide +kernel
    simp only [ints, List.mem_cons, List.not_mem_nil, or_false] at member
    obtain rfl | rfl : value = 0 ∨ value = 1000 := by tauto
    · decide
    · decide
  exact (toHost_convertHostToKubeEnvMap_iff (timedHost_free 1000) (List.Perm.refl _)
    fun _ _ => mem_timedKeys 1000).mpr ⟨plain, by decide +kernel⟩

/-- A million milliseconds is written as `1e+06`, which no integer is parsed from. -/
theorem toHost_convertHostToKubeEnvMap_million :
    ExtraKeysFree String.toUpper (timedHost 1000000) ∧
      Iterates (timedHost 1000000) [("ZONE", "a")] ∧
    (∀ key, key ∈ timedKeys ↔ key ∈ timedKubeEnv 1000000) ∧
    (timedKubeEnv 1000000).lookup "ETCD_ELECTION_TIMEOUT" = some "1e+06" ∧
    (toHost (fun _ => timedKeys) (timedKubeEnv 1000000)).isOk = false := by
  have free : ExtraKeysFree String.toUpper (timedHost 1000000) := timedHost_free 1000000
  have iterates : Iterates (timedHost 1000000) [("ZONE", "a")] := List.Perm.refl _
  have text : formatFloat 1000000 = "1e+06" := by decide +kernel
  have written :
      ("ETCD_ELECTION_TIMEOUT", "1e+06") ∈ structLeaves (timedHost 1000000).spec.fields := by
    rw [← text]
    simp [timedHost, HostSpec.fields, structLeaves, fieldLeaves, EtcdOpts.fields]
  have large : ¬ Plain (timedHost 1000000).spec.fields := by
    intro plain
    exact absurd (plain 1000000 (by decide +kernel)) (by decide)
  refine ⟨free, iterates, fun _ => mem_timedKeys _, ?_, ?_⟩
  · exact (lookup_convertHostToKubeEnvMap free iterates).mpr
      (.inl (lookup_formalKubeEnv.mpr (.inl written)))
  · cases read : toHost (fun _ => timedKeys) (timedKubeEnv 1000000) with
    | error err => rfl
    | ok back => exact absurd ((decodes_iff free iterates fun _ _ => mem_timedKeys _).mp (toHost_eq_ok read)).1 large

end Converted
end Nodelet
