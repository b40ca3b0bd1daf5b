import Nodelet.ConfigLoading

/-! What the fields of the configuration are after the configuration files have been read. -/
namespace Nodelet
open Go (Viper)
open Go.Viper (Contents Raw Floats settled mergeMaps)

variable {floats : Floats} {environ : String → Option String} {key : Key} {raw : Raw}

section Defaults

theorem Key.find_tag (tagged : key.tag ≠ "") :
    Key.all.find? (fun other => other.tag ≠ "" ∧ other.tag = key.tag) = some key := by
  cases key <;> first | rfl | contradiction

theorem Key.name_of_tagged (tagged : key.tag ≠ "") : key.name = key.tag := if_neg tagged

theorem toStringMap_name (c : Config) (tagged : key.tag ≠ "") :
    c.toStringMap floats key.name = some (key.kind.sprint floats (c.get key)) := by
  rw [Config.toStringMap, Key.name_of_tagged tagged, Key.find_tag tagged]
  rfl

theorem toStringMap_untagged (c : Config) (untagged : key.tag = "") :
    c.toStringMap floats key.name = none := by
  cases key <;> first | rfl | contradiction

theorem defaultConfig_fits (key : Key) : key.kind.Fits floats (defaultConfig.get key) := by
  refine Go.Viper.Kind.Plain.fits floats ?_
  cases key <;> decide

/-- The defaults survive the detour through text. -/
theorem decode_default (key : Key) :
    key.kind.decode floats key.name (.string (key.kind.sprint floats (defaultConfig.get key))) =
      .ok (defaultConfig.get key) :=
  Go.Viper.Kind.decode_sprint floats key.name key.kind _ (defaultConfig_fits key)

variable {cfg result : Config}

theorem unmarshal_ok (unmarshalled : unmarshal floats environ v cfg = .ok result)
    (key : Key) : unmarshalField floats environ v cfg key = .ok (result.get key) := by
  unfold unmarshal at unmarshalled
  split at unmarshalled
  · rename_i noErrors
    obtain rfl := Except.ok.inj unmarshalled
    have fine := List.filterMap_eq_nil_iff.mp noErrors key (Key.mem_all key)
    rw [Config.get_ofFields]
    cases decoded : unmarshalField floats environ v cfg key with
    | ok value => rfl
    | error err => rw [decoded] at fine; contradiction
  · contradiction

end Defaults

section Files

/-- The variables of the environment that are looked at, after the files have been read. -/
def Node.names : Node → List String
  | .file _ => []
  | .dir _ => ["DEBUG"]

/-- The files that are read, in their order. -/
def Node.files : Node → List Contents
  | .file contents => contents.toOption.toList
  | .dir listing => (listing.toOption.getD []).configFiles.filterMap fun file => file.2.toOption

/-- Only these files have been read. -/
structure HasRead (floats : Floats) (v : Viper) (files : List Contents) : Prop where
  env : v.env = []
  config : v.config = files.foldl (fun tgt src => mergeMaps src tgt) fun _ => none
  defaults : v.defaults = defaultConfig.toStringMap floats

variable {v v' : Viper} {files : List Contents}

theorem hasRead_start : HasRead floats (setDefaults floats {}) [] :=
  ⟨rfl, rfl, funext fun _ => Option.or_none⟩

theorem HasRead.again (read : HasRead floats v files) :
    HasRead floats (setDefaults floats v) files where
  env := read.env
  config := read.config
  defaults := by
    refine funext fun name => ?_
    change (defaultConfig.toStringMap floats name).or (v.defaults name) = _
    rw [read.defaults, Option.or_self]

theorem HasRead.next {file : Except Go.Error Contents}
    (read : HasRead floats (setDefaults floats v) files)
    (loaded : getConfigFromFile floats environ v file = .ok (cfg, v')) :
    ∃ contents, file = .ok contents ∧ HasRead floats v' (files ++ [contents]) ∧
      unmarshal floats environ v' {} = .ok cfg := by
  obtain ⟨contents, opened, merged⟩ := Go.bind_eq_ok.mp loaded
  obtain ⟨result, unmarshalled, returned⟩ := Go.bind_eq_ok.mp merged
  obtain ⟨rfl, rfl⟩ := Prod.mk.inj (Except.ok.inj returned)
  refine ⟨contents, opened, ⟨read.env, ?_, read.defaults⟩, unmarshalled⟩
  rw [List.foldl_append, ← read.config]
  rfl

theorem HasRead.all {listing : Listing} (read : HasRead floats v files)
    (ran : listing.foldlM (fun v file => Prod.snd <$> getConfigFromFile floats environ v file.2)
      v = .ok v') : HasRead floats v' (files ++ listing.filterMap fun file => file.2.toOption) := by
  induction listing generalizing v files with
  | nil =>
    obtain rfl := Except.ok.inj ran
    rwa [List.filterMap_nil, List.append_nil]
  | cons file listing ih =>
    rw [List.foldlM_cons] at ran
    obtain ⟨next, stepped, continued⟩ := Go.bind_eq_ok.mp ran
    obtain ⟨⟨cfg, _⟩, loaded, rfl⟩ := Go.map_eq_ok.mp stepped
    obtain ⟨contents, opened, more, -⟩ := read.again.next loaded
    have rest := ih more continued
    rwa [List.append_assoc, List.singleton_append,
      ← List.filterMap_cons_some (by rw [opened]; rfl)] at rest

/-- What a key is set to: by a variable that is looked at, or else by the files. -/
def setting (environ : String → Option String) (names : List String) (files : List Contents)
    (key : Key) : Option Raw :=
  (((if key.name ∈ names then environ key.name else none).filter (· ≠ "")).map Raw.string).or
    (settled (files.filterMap (· key.name)))

theorem HasRead.find (read : HasRead floats v files) (names : List String) (key : Key) :
    ({ v with env := names } : Viper).find environ key.name =
      (setting environ names files key).or
      ((defaultConfig.toStringMap floats key.name).map Raw.string) := by
  rw [Viper.find, read.defaults, read.config, Go.Viper.foldl_mergeMaps,
    Go.Viper.filter_foldl_mergeValue _ (.inl rfl), setting, Option.or_assoc]

/-- The field that a key gets: what it is set to, or a default that the next merge would fill in
anyway. -/
structure Filled (floats : Floats) (set : Option Raw) (key : Key) (value : key.Value) : Prop where
  decoded : ∀ raw, set = some raw → key.kind.decode floats key.name raw = .ok value
  unset : set = none → value = defaultConfig.get key ∨ value = key.kind.zero

theorem HasRead.unmarshal {names : List String} (read : HasRead floats v files)
    (before : cfg.get key = defaultConfig.get key ∨ cfg.get key = key.kind.zero)
    (unmarshalled : unmarshal floats environ { v with env := names } cfg = .ok result) :
    Filled floats (setting environ names files key) key (result.get key) := by
  have field := unmarshal_ok unmarshalled key
  rw [unmarshalField, read.find] at field
  constructor
  · intro raw set
    rwa [set, Option.some_or] at field
  · intro unset
    rw [unset, Option.none_or] at field
    by_cases tagged : key.tag = ""
    · rw [toStringMap_untagged _ tagged] at field
      exact Except.ok.inj field ▸ before
    · rw [toStringMap_name _ tagged] at field
      exact .inl (Except.ok.inj (field.symm.trans (decode_default key)))

theorem getDefaultConfig_get (key : Key) :
    (getDefaultConfig floats environ {}).get key = defaultConfig.get key ∨
      (getDefaultConfig floats environ {}).get key = key.kind.zero := by
  rw [getDefaultConfig]
  cases unmarshalled : unmarshal floats environ (setDefaults floats {}) {} with
  | error err => exact .inr (Config.get_empty key)
  | ok cfg =>
    have withEnv :
      unmarshal floats environ { setDefaults floats {} with env := [] } {} = .ok cfg := unmarshalled
    exact (hasRead_start.unmarshal (.inr (Config.get_empty key)) withEnv).unset rfl

theorem load_get {disk : Disk} {path : String} (loaded : disk.load floats path = .ok cfg) :
    ∃ node, disk.stat path = .ok node ∧
      ∀ key, Filled floats (setting disk.environ node.names node.files key) key (cfg.get key) := by
  obtain ⟨node, found, read⟩ := Go.bind_eq_ok.mp loaded
  refine ⟨node, Go.mapError_eq_ok.mp found, fun key => ?_⟩
  cases node with
  | file contents =>
    obtain ⟨⟨_, v⟩, fromFile, rfl⟩ := Go.map_eq_ok.mp (Go.mapError_eq_ok.mp read)
    obtain ⟨contents, rfl, hasRead, unmarshalled⟩ := hasRead_start.next fromFile
    have withEnv : v = { v with env := [] } := by rw [← hasRead.env]
    rw [withEnv] at unmarshalled
    exact hasRead.unmarshal (.inr (Config.get_empty key)) unmarshalled
  | dir listing =>
    obtain ⟨files, rfl, readAll⟩ := Go.bind_eq_ok.mp (Go.mapError_eq_ok.mp read)
    obtain ⟨v, ran, checked⟩ := Go.bind_eq_ok.mp readAll
    have hasRead := hasRead_start.all ran
    dsimp only at checked
    split at checked
    · contradiction
    · rw [Viper.bindEnv, hasRead.env] at checked
      exact hasRead.unmarshal (getDefaultConfig_get key) checked

end Files

end Nodelet
