import Nodelet.ConfigKept
import Nodelet.ConfigReading
import Nodelet.HostRoundTrip

/-! What comes back when a configuration is turned into a map of texts and decoded from it. A field
without a tag is not part of the map. -/
namespace Nodelet
open Go.Viper (Floats)

section Tags
variable {key other : Key}

theorem Key.tag_injective (tagged : key.tag ≠ "") (same : other.tag = key.tag) : other = key := by
  have found := Key.find_tag tagged
  rw [← same, Key.find_tag (same ▸ tagged)] at found
  exact Option.some.inj found

theorem Key.tag_eq_empty : key.tag = "" ↔ key = .dockerLogMaxFile := by
  cases key <;> decide

/-- No tag is the name of the field without one, whatever the case of its letters. -/
theorem Key.equalFold_tag (key : Key) : equalFold key.tag Key.dockerLogMaxFile.name = false := by
  cases key <;> rfl

end Tags

section Fields

/-- Every field is decoded, and all that could not be are reported. -/
def Config.decodeFields (field : (key : Key) → Except Go.Error key.Value) :
    Except Go.Error Config :=
  match Key.all.filterMap fun key => Go.errorOf (field key) with
  | [] => .ok (.ofFields fun key => (field key).toOption.getD key.kind.zero)
  | errors => .error (toString errors.length ++ " error(s) decoding:\n\n" ++
      "\n".intercalate ((errors.map ("* " ++ ·)).mergeSort (· ≤ ·)))

theorem decodeFields_ok {field : (key : Key) → Except Go.Error key.Value} {c : Config}
    (decoded : ∀ key, field key = .ok (c.get key)) : Config.decodeFields field = .ok c := by
  obtain rfl : field = fun key => .ok (c.get key) := funext decoded
  have fine : (Key.all.filterMap fun key => Go.errorOf (.ok (c.get key) : Except Go.Error key.Value)) = [] :=
    List.filterMap_eq_nil_iff.mpr fun _ _ => rfl
  rw [Config.decodeFields, fine]
  rfl

theorem unmarshal_eq (floats : Floats) (environ : String → Option String) (v : Go.Viper)
    (cfg : Config) :
    unmarshal floats environ v cfg = Config.decodeFields (unmarshalField floats environ v cfg) :=
  rfl

end Fields

section RoundTrip
variable (floats : Floats)

def Config.entries (c : Config) : List (String × String) :=
  (Key.all.filter (·.tag ≠ "")).map fun key => (key.tag, key.kind.sprint floats (c.get key))

/-- The map that `ToStringMap` fills, one field after the other. -/
def Config.toKubeEnvMap (c : Config) : KubeEnvMap :=
  (c.entries floats).foldl (fun result entry => result.insert entry.1 entry.2) ∅

namespace KubeEnvMap

/-- What `mapstructure.WeakDecode` finds for a field, which is zero before. -/
def toConfigField (visits : String → List String) (k : KubeEnvMap) (key : Key) :
    Except Go.Error key.Value :=
  match rawMapVal k visits key.name with
  | none => .ok key.kind.zero
  | some text => key.kind.decode floats key.name (.string text)

def toConfig (visits : String → List String) (k : KubeEnvMap) : Except Go.Error Config :=
  Config.decodeFields (toConfigField floats visits k)

end KubeEnvMap

variable {floats} {c : Config} {key : Key} {visits : String → List String}

theorem mem_entries {entry : String × String} :
    entry ∈ c.entries floats ↔ ∃ key : Key, key.tag ≠ "" ∧
      (key.tag, key.kind.sprint floats (c.get key)) = entry := by
  simp [Config.entries, Key.mem_all]

theorem distinct_entries (floats : Floats) (c : Config) :
    ((c.entries floats).map Prod.fst).Nodup := by
  have tags : (c.entries floats).map Prod.fst = (Key.all.filter (·.tag ≠ "")).map Key.tag := by
    rw [Config.entries, List.map_map]
    rfl
  have once : Key.all.Nodup := by decide
  rw [tags]
  refine (once.filter _).map_on ?_
  intro other _ key member same
  have tagged : key.tag ≠ "" := by simpa using (List.mem_filter.mp member).2
  exact Key.tag_injective tagged same

theorem lookup_toKubeEnvMap {name value : String} :
    (c.toKubeEnvMap floats).lookup name = some value ↔ (name, value) ∈ c.entries floats := by
  rw [Config.toKubeEnvMap, lookup_insertLeaves (distinct_entries floats c)]
  simp

theorem lookup_name (tagged : key.tag ≠ "") :
    (c.toKubeEnvMap floats).lookup key.name = some (key.kind.sprint floats (c.get key)) := by
  rw [Key.name_of_tagged tagged]
  exact lookup_toKubeEnvMap.mpr (mem_entries.mpr ⟨key, tagged, rfl⟩)

theorem rawMapVal_untagged (visited : ∀ name key, key ∈ visits name ↔ key ∈ c.toKubeEnvMap floats)
    (untagged : key.tag = "") : rawMapVal (c.toKubeEnvMap floats) visits key.name = none := by
  rw [rawMapVal_eq_none (visited key.name)]
  intro name member
  rw [Finmap.mem_iff] at member
  obtain ⟨value, found⟩ := member
  obtain ⟨other, _, same⟩ := mem_entries.mp (lookup_toKubeEnvMap.mp found)
  obtain ⟨rfl, -⟩ := Prod.mk.inj same
  rw [Key.tag_eq_empty.mp untagged]
  exact Key.equalFold_tag other

theorem get_without_dockerLogMaxFile (c : Config) (tagged : key.tag ≠ "") :
    ({ c with dockerLogMaxFile := "" } : Config).get key = c.get key := by
  cases key <;> first | rfl | contradiction

/-- Every field comes back but the one without a tag. -/
theorem toConfigField_toKubeEnvMap (fits : ∀ key : Key, key.kind.Fits floats (c.get key))
    (visited : ∀ name key, key ∈ visits name ↔ key ∈ c.toKubeEnvMap floats) (key : Key) :
    KubeEnvMap.toConfigField floats visits (c.toKubeEnvMap floats) key =
      .ok (({ c with dockerLogMaxFile := "" } : Config).get key) := by
  rw [KubeEnvMap.toConfigField]
  by_cases untagged : key.tag = ""
  · rw [rawMapVal_untagged visited untagged, Key.tag_eq_empty.mp untagged]
    rfl
  · rw [rawMapVal, lookup_name untagged, get_without_dockerLogMaxFile c untagged]
    exact Go.Viper.Kind.decode_sprint floats key.name key.kind _ (fits key)

theorem toConfig_toKubeEnvMap (fits : ∀ key : Key, key.kind.Fits floats (c.get key))
    (visited : ∀ name key, key ∈ visits name ↔ key ∈ c.toKubeEnvMap floats) :
    (c.toKubeEnvMap floats).toConfig floats visits = .ok { c with dockerLogMaxFile := "" } :=
  decodeFields_ok (toConfigField_toKubeEnvMap fits visited)

/-- So do the defaults, which are taken from the same map. -/
theorem getDefaultConfig_eq (environ : String → Option String) :
    getDefaultConfig floats environ {} = { defaultConfig with dockerLogMaxFile := "" } := by
  have decoded :
      unmarshal floats environ (setDefaults floats {}) {} =
        .ok { defaultConfig with dockerLogMaxFile := "" } := by
    refine (unmarshal_eq ..).trans (decodeFields_ok fun key => ?_)
    have found : (setDefaults floats {}).find environ key.name =
        (defaultConfig.toStringMap floats key.name).map .string := hasRead_start.find [] key
    rw [unmarshalField, found]
    by_cases untagged : key.tag = ""
    · rw [toStringMap_untagged _ untagged, Key.tag_eq_empty.mp untagged]
      rfl
    · rw [toStringMap_name _ untagged, get_without_dockerLogMaxFile _ untagged]
      exact decode_default key
  rw [getDefaultConfig, decoded]
  rfl

/-- A configuration comes back exactly if it leaves the field without a tag empty, and that is the
one field which the defaults do not reach. -/
theorem toConfig_toKubeEnvMap_iff (environ : String → Option String)
    (fits : ∀ key : Key, key.kind.Fits floats (c.get key))
    (visited : ∀ name key, key ∈ visits name ↔ key ∈ c.toKubeEnvMap floats) :
    ((c.toKubeEnvMap floats).toConfig floats visits = .ok c ↔ c.dockerLogMaxFile = "") ∧
      ∀ key, (getDefaultConfig floats environ {}).get key = defaultConfig.get key ↔
      key ≠ .dockerLogMaxFile := by
  constructor
  · rw [toConfig_toKubeEnvMap fits visited]
    constructor
    · intro same
      exact (congrArg Config.dockerLogMaxFile (Except.ok.inj same)).symm
    · intro empty
      rw [← empty]
  · intro key
    rw [getDefaultConfig_eq]
    constructor
    · rintro same rfl
      exact absurd same (by decide)
    · intro other
      exact get_without_dockerLogMaxFile defaultConfig (mt Key.tag_eq_empty.mp other)

/-- The defaults, but for some fields of each kind. -/
def quietWorker : Config :=
  { defaultConfig with
    clusterRole := "worker"
    disableScripts := true
    numCmdOutputLinesToLog := -20
    dockerLogMaxFile := "" }

/-- It comes back. -/
theorem toConfig_quietWorker :
    (quietWorker.toKubeEnvMap wholeFloats).toConfig wholeFloats
      (fun _ => KubeEnvMap.keys (quietWorker.toKubeEnvMap wholeFloats)) = .ok quietWorker := by
  refine (toConfig_toKubeEnvMap_iff (fun _ => none) (fun key => ?_) fun _ _ =>
    KubeEnvMap.mem_keys).1.mpr rfl
  refine Go.Viper.Kind.Plain.fits wholeFloats ?_
  cases key <;> decide

/-- The default for the number of log files that Docker keeps is lost. -/
theorem dockerLogMaxFile_lost :
    (defaultConfig.toKubeEnvMap wholeFloats).toConfig wholeFloats
      (fun _ => KubeEnvMap.keys (defaultConfig.toKubeEnvMap wholeFloats)) ≠ .ok defaultConfig ∧
    defaultConfig.dockerLogMaxFile = "10" ∧
    (getDefaultConfig wholeFloats (fun _ => none) {}).dockerLogMaxFile = "" := by
  refine ⟨?_, rfl, ?_⟩
  · rw [toConfig_toKubeEnvMap defaultConfig_fits fun _ _ => KubeEnvMap.mem_keys]
    intro same
    exact absurd (congrArg Config.dockerLogMaxFile (Except.ok.inj same)) (by decide)
  · rw [getDefaultConfig_eq]

end RoundTrip
end Nodelet
