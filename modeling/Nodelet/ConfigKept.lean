import Nodelet.ConfigReading

/-! Which of the settings in configuration files arrive in the configuration. -/
namespace Nodelet
open Go.Viper (Contents Raw Floats)

variable {floats : Floats} {key : Key} {raw : Raw}

section Flags

variable {o : RootOptions}

theorem get_set (other : flag.key ≠ some key) :
    (o.set flag).nodeletConfig.get key = o.nodeletConfig.get key := by
  cases flag <;> cases key <;> first | rfl | exact absurd rfl other

/-- Nothing on the command line is for the key. -/
structure Unset (o : RootOptions) (key : Key) : Prop where
  config : o.nodeletConfig.get key = key.kind.zero
  debug : key = .debug → o.debug = false
  interval : key = .loopInterval → o.loopInterval = 0

theorem Unset.set (unset : Unset o key) (other : flag.key ≠ some key) : Unset (o.set flag) key := by
  refine ⟨(get_set other).trans unset.config, ?_, ?_⟩
  · rintro rfl
    cases flag with
    | debug value => exact absurd rfl other
    | _ => exact unset.debug rfl
  · rintro rfl
    cases flag with
    | loopInterval value => exact absurd rfl other
    | _ => exact unset.interval rfl

theorem unset_parse (unset : ∀ flag ∈ flags, flag.key ≠ some key) :
    Unset (RootOptions.parse flags) key := by
  have start : Unset { debug := false, configFileOrDirPath := "/etc/pf9/nodelet/", nodeletConfig := {}, loopInterval := 0 } key :=
    ⟨Config.get_empty key, fun _ => rfl, fun _ => rfl⟩
  exact List.foldlRecOn (motive := fun o => Unset o key) flags _ start fun _ held flag member =>
    held.set (unset flag member)

theorem Unset.flagConfig (unset : Unset o key) : o.flagConfig.get key = key.kind.zero := by
  have elsewhere (c : Config) (value : String) (other : key ≠ .debug) :
      ({ c with debug := value } : Config).get key = c.get key := by
    cases key <;> first | rfl | contradiction
  have debugged : (if o.debug then { o.nodeletConfig with debug := "true" }
      else o.nodeletConfig).get key = key.kind.zero := by
    by_cases same : key = .debug
    · rw [unset.debug same]
      exact unset.config
    · split
      · exact (elsewhere _ _ same).trans unset.config
      · exact unset.config
  rw [RootOptions.flagConfig]
  by_cases same : key = .loopInterval
  · rw [unset.interval same]
    exact debugged
  · dsimp only
    split
    · refine Eq.trans ?_ debugged
      cases key <;> first | rfl | contradiction
    · exact debugged

end Flags

section Kept
variable {disk : Disk} {path : String} {flags : List Flag} {o completed : RootOptions}

/-- What is read; without a path, nothing is. -/
def Disk.node (disk : Disk) (path : String) : Option Node :=
  if path = "" then none else (disk.stat path).toOption

def Disk.files (disk : Disk) (path : String) : List Contents :=
    ((disk.node path).map Node.files).getD []

/-- What a key is set to. -/
def Disk.setting (disk : Disk) (path : String) (key : Key) : Option Raw :=
  (disk.node path).bind fun node => Nodelet.setting disk.environ node.names node.files key

/-- What the last file that sets the key has for it. -/
def lastSetting (files : List Contents) (key : Key) : Option Raw :=
  ((files.filterMap (· key.name)).filter (· ≠ .null)).getLast?

theorem fill_zero {α : Type} [DecidableEq α] (zero value : α) : fill zero value zero = value := by
  unfold fill
  split <;> simp_all

theorem complete_get (accepted : o.complete (disk.load floats) = .ok completed) (key : Key) :
    ∃ value, Filled floats (disk.setting o.configFileOrDirPath key) key value ∧
      completed.nodeletConfig.get key =
        fill key.kind.zero (fill key.kind.zero (o.flagConfig.get key) value) (defaultConfig.get key) := by
  unfold Disk.setting Disk.node
  unfold RootOptions.complete at accepted
  split at accepted
  · rename_i noPath
    obtain rfl := Except.ok.inj accepted
    refine ⟨key.kind.zero, ⟨?_, fun _ => .inr rfl⟩, ?_⟩
    · rw [if_pos noPath]
      nofun
    · rw [Config.get_merge, fill_zero]
  · rename_i hasPath
    obtain ⟨merged, loaded, returned⟩ := Go.bind_eq_ok.mp accepted
    obtain rfl := Except.ok.inj returned
    obtain ⟨cfg, read, rfl⟩ := Go.map_eq_ok.mp loaded
    obtain ⟨node, found, filled⟩ := load_get read
    refine ⟨cfg.get key, ?_, ?_⟩
    · rw [if_neg hasPath, found]
      exact filled key
    · rw [Config.get_merge, Config.get_merge]

/-- What the last file has for a key is what it gets: `used` is what the key is set to. -/
inductive Prevails (floats : Floats) (used : Option Raw) (key : Key) (raw : Raw) : Prop
  | kept (other : Raw) (value : key.Value) (set : used = some other)
      (usedValue : key.kind.decode floats key.name other = .ok value)
      (fileValue : key.kind.decode floats key.name raw = .ok value)
      (safe : value ≠ key.kind.zero ∨ defaultConfig.get key = key.kind.zero)
  | coincides (other : Raw) (set : used = some other)
      (usedValue : key.kind.decode floats key.name other = .ok key.kind.zero)
      (fileValue : key.kind.decode floats key.name raw = .ok (defaultConfig.get key))

theorem exists_setting (last : lastSetting (disk.files path) key = some raw) :
    ∃ other, disk.setting path key = some other := by
  have member := List.mem_filter.mp (List.mem_of_getLast? last)
  have present : raw ≠ .null := by simpa using member.2
  unfold Disk.files at member
  unfold Disk.setting
  cases node : disk.node path with
  | none => simp [node] at member
  | some node =>
    rw [node] at member
    obtain ⟨kept, settles⟩ := Go.Viper.exists_settled member.1 present
    have first (before : Option Raw) : ∃ other, before.or (some kept) = some other := by
      cases before <;> simp
    rw [Option.bind_some, setting]
    exact settles ▸ first _

theorem prevails_iff {used : Option Raw} {other : Raw} (filled : Filled floats used key value)
    (set : used = some other) :
    key.kind.decode floats key.name raw = .ok (fill key.kind.zero value (defaultConfig.get key)) ↔
      Prevails floats used key raw := by
  have decoded := filled.decoded other set
  unfold fill
  constructor
  · intro kept
    split at kept
    · rename_i zero
      exact .coincides other set (zero ▸ decoded) kept
    · rename_i present
      exact .kept other value set decoded kept (.inl present)
  · rintro (⟨other, value, set', usedValue, fileValue, safe⟩ | ⟨other, set', usedValue, fileValue⟩)
    · obtain rfl := Option.some.inj (set.symm.trans set')
      obtain rfl := Except.ok.inj (decoded.symm.trans usedValue)
      split
      · rename_i zero
        have noDefault : defaultConfig.get key = key.kind.zero := safe.resolve_left (not_not.mpr zero)
        rw [fileValue, noDefault, zero]
      · exact fileValue
    · obtain rfl := Option.some.inj (set.symm.trans set')
      rw [if_pos (Except.ok.inj (decoded.symm.trans usedValue)), fileValue]

theorem fill_eq_zero_iff {used : Option Raw} (filled : Filled floats used key value) :
    fill key.kind.zero value (defaultConfig.get key) = key.kind.zero ↔
      defaultConfig.get key = key.kind.zero ∧ ∀ other, used = some other →
        key.kind.decode floats key.name other = .ok key.kind.zero := by
  have zero : fill key.kind.zero value (defaultConfig.get key) = key.kind.zero ↔
      defaultConfig.get key = key.kind.zero ∧ value = key.kind.zero := by
    unfold fill
    split <;> simp_all
  rw [zero]
  refine and_congr_right fun noDefault => ⟨?_, ?_⟩
  · rintro rfl other set
    exact filled.decoded other set
  · intro allZero
    cases set : used with
    | none => exact (filled.unset set).elim (·.trans noDefault) id
    | some other => exact Except.ok.inj ((filled.decoded other set).symm.trans (allZero other set))

/-- A key that no flag is for keeps what the last file has for it exactly where that prevails. A key
that a flag is for is left to the defaults exactly where neither the flag nor a file has a value for
it that is not zero, unless the default is zero as well. -/
theorem complete_keeps_iff
    (accepted : (RootOptions.parse flags).complete (disk.load floats) = .ok completed) (key : Key) :
    let path := (RootOptions.parse flags).configFileOrDirPath
    let flagged := (RootOptions.parse flags).flagConfig.get key
    let result := completed.nodeletConfig.get key
    ((∀ flag ∈ flags, flag.key ≠ some key) → ∀ raw, lastSetting (disk.files path) key = some raw →
      (key.kind.decode floats key.name raw = .ok result ↔
      Prevails floats (disk.setting path key) key raw)) ∧ ((∃ flag ∈ flags, flag.key = some key) →
      ((result = flagged ∨ ∃ raw, lastSetting (disk.files path) key = some raw ∧
          key.kind.decode floats key.name raw = .ok result) ↔
        flagged ≠ key.kind.zero ∨
        (defaultConfig.get key = key.kind.zero ∧ ∀ other, disk.setting path key = some other →
          key.kind.decode floats key.name other = .ok key.kind.zero) ∨
        ∃ raw, lastSetting (disk.files path) key = some raw ∧
        Prevails floats (disk.setting path key) key raw)) := by
  intro path flagged result
  obtain ⟨value, filled, get⟩ := complete_get accepted key
  have unflagged (zero : flagged = key.kind.zero) :
      result = fill key.kind.zero value (defaultConfig.get key) := by
    refine get.trans (congrArg (fill _ · _) ?_)
    exact if_pos zero
  have kept (zero : flagged = key.kind.zero) {raw : Raw}
    (last : lastSetting (disk.files path) key = some raw) :
      key.kind.decode floats key.name raw = .ok result ↔ Prevails floats (disk.setting path key) key raw := by
    obtain ⟨other, set⟩ := exists_setting last
    rw [unflagged zero]
    exact prevails_iff filled set
  constructor
  · intro unset raw last
    exact kept (unset_parse unset).flagConfig last
  · intro _
    by_cases zero : flagged = key.kind.zero
    · rw [zero, ne_self_iff_false, false_or]
      refine or_congr ?_ (exists_congr fun raw => and_congr_right fun last => kept zero last)
      rw [unflagged zero]
      exact fill_eq_zero_iff filled
    · have first : fill key.kind.zero flagged value = flagged := if_neg zero
      have stays : result = flagged := by
        refine get.trans ?_
        rw [first]
        exact if_neg zero
      exact ⟨fun _ => .inl zero, fun _ => .inl stays⟩

/-- Floats that are integers. -/
def wholeFloats : Floats where
  format q := toString q.num
  sprint q := toString q.num
  parse text := (Go.parseInt text 64).map fun i => (i : Rat)
  ofInt i := i
  toInt q := q.num
  toUint q := q.num.toNat
  parse_sprint n small := by
    have read : Go.parseInt (toString (n : Int)) 64 = some (n : Int) :=
      Go.parseInt_toString (by omega) (by omega)
    rw [Rat.num_natCast, read]
    rfl
  sprint_ne_empty q := Go.toString_int_ne_empty q.num

/-- A disk with one configuration file, in the default directory. -/
def oneFile (contents : Contents) : Disk where
  environ _ := none
  stat _ := .ok (.dir (.ok [("config.yaml", .ok contents)]))

def named (name : String) : Contents := fun key => if key = "CLUSTER_ID" then some (.string name)
    else none

theorem complete_named : ∃ completed,
    (RootOptions.parse []).complete ((oneFile (named "a")).load wholeFloats) = .ok completed ∧
      completed.nodeletConfig.clusterID = "a" := by
  have accepted : ((RootOptions.parse []).complete ((oneFile (named "a")).load wholeFloats)).isOk := by decide +kernel
  cases completes : (RootOptions.parse []).complete ((oneFile (named "a")).load wholeFloats) with
  | error err => simp [completes, Except.isOk, Except.toBool] at accepted
  | ok completed =>
    have kept :=
      ((complete_keeps_iff completes .clusterID).1 nofun (.string "a") (by decide +kernel)).mpr
      (.kept (.string "a") "a" (by decide +kernel) rfl rfl (.inl (show "a" ≠ "" by decide)))
    exact ⟨completed, rfl, (Except.ok.inj kept).symm⟩

def noCgroups : Contents := fun name => if name = "USE_CGROUPS" then some (.bool false) else none

/-- A file that switches off the use of cgroups is accepted, but they stay on. -/
theorem complete_noCgroups :
    lastSetting ((oneFile noCgroups).files (RootOptions.parse []).configFileOrDirPath)
      .useCgroups = some (.bool false) ∧
    ((RootOptions.parse []).complete ((oneFile noCgroups).load wholeFloats)).map
    (·.nodeletConfig.useCgroups) = .ok true := by
  decide +kernel

end Kept
end Nodelet
