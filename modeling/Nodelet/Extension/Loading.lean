import Nodelet.Extension.File

/-! What `Load` leaves: old files are converted by the last line of each key, the node state is not
`ok`, and the file that is left loads to the same fields. The text `null` and lines that do not fit
into the scanner are the exceptions. -/
namespace Nodelet.Extension
open Constants
open Go (Int64)
open Go.JsonText (Value parse)
open Go.JsonStruct (marshal lookup_entries)

/-- The value of the last line of a key. -/
def lastValue (lines : List (List Char)) (key : String) : Option String :=
  Go.Map.lastValue (lines.filterMap oldEntry) key

/-- What is kept of the old format. -/
structure Values where
  serviceState : String
  startAttempts : Int
  clusterID : String
  clusterRole : String
  deriving DecidableEq, Repr

/-- By the last line of each key, or else as in new data. -/
def oldValues (lines : List (List Char)) : Values where
  serviceState := (lastValue lines "pf9_kube_service_state").elim "" id
  startAttempts := (lastValue lines "pf9_kube_start_attempt").elim 1 fun value =>
    (Go.atoi value).getD 0
  clusterID := (lastValue lines "pf9_cluster_id").elim "" fun value => if value = "\"\"" then ""
    else value
  clusterRole := (lastValue lines "pf9_cluster_role").elim "" id

namespace Loaded

def values (l : Loaded) : Values :=
    ⟨l.data.serviceState, l.data.startAttempts, l.data.clusterID, l.data.clusterRole⟩

/-- The numbers are those of an int64. -/
structure InRange (l : Loaded) : Prop where
  startAttempts : Int64 l.data.startAttempts
  lastFailedCheckTime : Int64 l.data.lastFailedCheckTime
  currentStatusCheckTime : Int64 l.data.currentStatusCheckTime

variable {l : Loaded}

theorem inRange_iff : (∀ f ∈ struct.fields, f.kind.Holds (f.get l)) ↔ l.InRange := by
  have all : (∀ f ∈ fields, f.kind.Holds (f.get l)) ↔
      Int64 l.data.startAttempts ∧ Int64 l.data.lastFailedCheckTime ∧ Int64 l.data.currentStatusCheckTime := by
    simp [fields, string, int, strings, Go.JsonStruct.Kind.Holds]
  refine all.trans ?_
  constructor
  · rintro ⟨first, second, third⟩
    exact ⟨first, second, third⟩
  · rintro ⟨first, second, third⟩
    exact ⟨first, second, third⟩

section Conversion
variable {contents : List Char} {order : List (String × String)} {cfg : Config}

theorem values_convertOldField (l : Loaded) (key value : String) : (l.convertOldField (key, value)).values =
    { serviceState := if key = "pf9_kube_service_state" then value else l.values.serviceState
      startAttempts := if key = "pf9_kube_start_attempt" then (Go.atoi value).getD 0 else l.values.startAttempts
      clusterID :=
        if key = "pf9_cluster_id" then if value = "\"\"" then "" else value else l.values.clusterID
      clusterRole := if key = "pf9_cluster_role" then value else l.values.clusterRole } := by
  unfold values convertOldField ExtensionData.convertOldField
  split
  case h_15 others => simp_all
  all_goals
    obtain ⟨rfl, rfl⟩ := Prod.mk.inj ‹(key, value) = _›
    simp

theorem values_foldl (iterates : Iterates contents order) :
    (order.foldl convertOldField new).values = oldValues (Go.readLines contents) := by
  have part {γ : Type} (part : Loaded → γ) (key : String) (store : String → γ)
      (own : ∀ l value, part (convertOldField l (key, value)) = store value)
      (other : ∀ l key' value, key' ≠ key → part (convertOldField l (key', value)) = part l) :
      part (order.foldl convertOldField new) = (lastValue (Go.readLines contents) key).elim (part new) store := by
    rw [Go.Map.Visits.foldl iterates own other, getOldExtensionData, Go.Map.lookup_ofEntries]
    rfl
  have serviceState := part (·.values.serviceState) "pf9_kube_service_state" id
    (fun l value => by simp only [values_convertOldField, if_true, id_eq])
    fun l key value other => by simp only [values_convertOldField, if_neg other]
  have startAttempts :=
    part (·.values.startAttempts) "pf9_kube_start_attempt" (fun value => (Go.atoi value).getD 0)
    (fun l value => by simp only [values_convertOldField, if_true])
    fun l key value other => by simp only [values_convertOldField, if_neg other]
  have clusterID :=
    part (·.values.clusterID) "pf9_cluster_id" (fun value => if value = "\"\"" then "" else value)
    (fun l value => by simp only [values_convertOldField, if_true])
    fun l key value other => by simp only [values_convertOldField, if_neg other]
  have clusterRole := part (·.values.clusterRole) "pf9_cluster_role" id
    (fun l value => by simp only [values_convertOldField, if_true, id_eq])
    fun l key value other => by simp only [values_convertOldField, if_neg other]
  exact congr (congr (congr (congrArg Values.mk serviceState) startAttempts) clusterID) clusterRole

theorem InRange.convertOldField (inRange : l.InRange) (entry : String × String) :
    (l.convertOldField entry).InRange := by
  have zero : Int64 0 := by decide
  have read (value : String) : Int64 ((Go.atoi value).getD 0) := by
    cases found : Go.atoi value with
    | none => exact zero
    | some v => exact Go.int64_of_atoi found
  obtain ⟨startAttempts, lastFailedCheckTime, currentStatusCheckTime⟩ := inRange
  unfold Loaded.convertOldField ExtensionData.convertOldField
  split <;> constructor <;> first | assumption | exact read _

theorem InRange.foldl (inRange : l.InRange) (order : List (String × String)) :
    (order.foldl Loaded.convertOldField l).InRange := by
  induction order generalizing l with
  | nil => exact inRange
  | cons entry rest ih => exact ih (inRange.convertOldField entry)

theorem InRange.populateExtraFields (inRange : l.InRange) (cfg : Config) :
    (l.populateExtraFields cfg).InRange := by
  have zero : Int64 0 := by decide
  obtain ⟨startAttempts, lastFailedCheckTime, currentStatusCheckTime⟩ := inRange
  have reaped : Int64 l.data.reapFailedCheck.startAttempts ∧
    Int64 l.data.reapFailedCheck.lastFailedCheckTime ∧
      Int64 l.data.reapFailedCheck.currentStatusCheckTime := by
    unfold ExtensionData.reapFailedCheck
    split
    · exact ⟨startAttempts, zero, currentStatusCheckTime⟩
    · exact ⟨startAttempts, lastFailedCheckTime, currentStatusCheckTime⟩
  exact ⟨reaped.1, reaped.2.1, reaped.2.2⟩

theorem values_populateExtraFields (cfg : Config) (l : Loaded) :
    (l.populateExtraFields cfg).values = l.values := by
  have control := ExtensionData.populateExtraFields_control cfg l.data
  exact congrArg (fun control =>
    (⟨control.serviceState, control.startAttempts, control.clusterID,
      control.clusterRole⟩ : Values))
    control

end Conversion

/-- The same in every field that is written. -/
def SameFields (l l' : Loaded) : Prop := ∀ f ∈ fields, f.item l' = f.item l

theorem SameFields.convertNodeState (same : SameFields l l') :
    SameFields l.convertNodeState l'.convertNodeState := by
  have nodeState : l'.data.nodeState = l.data.nodeState := by
    have items := same _ (List.mem_cons_of_mem _ List.mem_cons_self)
    exact Go.JsonText.Item.string.inj items
  simp only [Loaded.convertNodeState, ExtensionData.convertNodeState, nodeState]
  split
  · have first := struct.items_set (List.mem_cons_of_mem _ List.mem_cons_self) same convergingState
    exact struct.items_set (List.mem_cons_of_mem _ (List.mem_cons_of_mem _ List.mem_cons_self))
      first (1 : Int)
  · exact same

theorem convertNodeState_ne_ok (l : Loaded) : l.convertNodeState.data.nodeState ≠ okState := by
  have converging : convergingState ≠ okState := by decide
  simp only [convertNodeState, ExtensionData.convertNodeState]
  split
  · exact converging
  · assumption

end Loaded

/-- The file is an object with these values. -/
def Writes (contents : List Char) (values : Values) : Prop :=
  ∃ entries, parse contents = some (.object entries) ∧
    entries.lookup "pf9_kube_service_state" = some (.string values.serviceState) ∧
    entries.lookup "pf9_kube_start_attempt" = some (.number (toString values.startAttempts)) ∧
    entries.lookup "pf9_cluster_id" = some (.string values.clusterID) ∧
    entries.lookup "pf9_cluster_role" = some (.string values.clusterRole)

theorem writes_marshal (inRange : l.InRange) (attempts : Int64 values.startAttempts) :
    Writes (marshal Loaded.struct l) values ↔ l.values = values := by
  have written := Go.JsonText.parse_marshalIndent (Go.JsonStruct.entries Loaded.fields l)
  have serviceState := lookup_entries Loaded.struct.distinct List.mem_cons_self l
  have startAttempts := lookup_entries Loaded.struct.distinct
    (List.mem_cons_of_mem _ (List.mem_cons_of_mem _ List.mem_cons_self)) l
  have clusterID := lookup_entries Loaded.struct.distinct
    (List.mem_cons_of_mem _ (List.mem_cons_of_mem _ (List.mem_cons_of_mem _ List.mem_cons_self))) l
  have clusterRole := lookup_entries Loaded.struct.distinct
    (List.mem_cons_of_mem _
      (List.mem_cons_of_mem _ (List.mem_cons_of_mem _ (List.mem_cons_of_mem _ List.mem_cons_self)))) l
  constructor
  · rintro ⟨entries, parsed, first, second, third, fourth⟩
    obtain rfl := Value.object.inj (Option.some.inj (written.symm.trans parsed))
    have number := Value.number.inj (Option.some.inj (startAttempts.symm.trans second))
    have same : l.data.startAttempts = values.startAttempts := by
      have read := congrArg Go.atoi number
      rw [Go.atoi_toString attempts] at read
      exact Option.some.inj ((Go.atoi_toString inRange.startAttempts).symm.trans read)
    have texts := And.intro (Value.string.inj (Option.some.inj (serviceState.symm.trans first)))
      (And.intro (Value.string.inj (Option.some.inj (clusterID.symm.trans third)))
        (Value.string.inj (Option.some.inj (clusterRole.symm.trans fourth))))
    obtain ⟨_, _, _, _⟩ := values
    obtain ⟨rfl, rfl, rfl⟩ := texts
    obtain rfl := same
    rfl
  · rintro rfl
    exact ⟨_, written, serviceState, startAttempts, clusterID, clusterRole⟩

def IsObject (contents : List Char) : Prop := ∃ entries, parse contents = some (.object entries)

/-- `Load` returns, an old file is converted by its lines, and the file that is left loads to the
same fields. -/
def LoadsWell (cfg : Config) (contents : List Char) (order : List (String × String)) : Prop :=
  ∃ l left, load cfg contents order = .ok (l, left) ∧
    (¬ IsObject contents → Writes left (oldValues (Go.scanLines [] contents))) ∧
      l.data.nodeState ≠ okState ∧
    ∀ order', Iterates left order' → ∃ l' left', load cfg left order' = .ok (l', left') ∧
      Loaded.SameFields l l'

section Load
variable {contents : List Char} {l : Loaded}

theorem unmarshal_inRange {failed : Bool}
    (decoded : Go.JsonStruct.unmarshal Loaded.struct contents .new = some (l, failed)) :
    l.InRange := by
  have fresh : Loaded.new.InRange := ⟨by decide, by decide, by decide⟩
  exact Loaded.inRange_iff.mp
    (Go.JsonStruct.unmarshal_holds Loaded.struct (Loaded.inRange_iff.mpr fresh) decoded)

theorem load_marshal (cfg : Config) (inRange : l.InRange) (order : List (String × String)) : ∃ l',
    load cfg (marshal Loaded.struct l) order = .ok (l'.convertNodeState, marshal Loaded.struct l) ∧
      Loaded.SameFields l l' := by
  obtain ⟨l', decoded, same⟩ :=
    Go.JsonStruct.unmarshal_marshal Loaded.struct (Loaded.inRange_iff.mpr inRange) .new
  refine ⟨l', ?_, same⟩
  rw [load, decoded]

theorem load_of_failed (cfg : Config)
    (decoded : Go.JsonStruct.unmarshal Loaded.struct contents .new = some (l, true))
    (order : List (String × String)) :
    ∃ written, written = (order.foldl Loaded.convertOldField l).populateExtraFields cfg ∧
      written.InRange ∧
      load cfg contents order = .ok (written.convertNodeState, marshal Loaded.struct written) :=
  ⟨_, rfl,
    ((unmarshal_inRange decoded).foldl order).populateExtraFields cfg, by rw [load, decoded]; rfl⟩

end Load

/-- Of a file that is neither `null` nor an object nothing is decoded. -/
theorem unmarshal_old {contents : List Char} (notNull : parse contents ≠ some .null)
    (old : ¬ IsObject contents) :
    Go.JsonStruct.unmarshal Loaded.struct contents .new = some (.new, true) := by
  unfold Go.JsonStruct.unmarshal
  split
  · contradiction
  · exact absurd ⟨_, ‹_›⟩ old
  · rfl

theorem int64_oldValues (lines : List (List Char)) : Int64 (oldValues lines).startAttempts := by
  have zero : Int64 0 := by decide
  have one : Int64 1 := by decide
  change Int64 ((lastValue lines "pf9_kube_start_attempt").elim 1 fun value =>
    (Go.atoi value).getD 0)
  cases lastValue lines "pf9_kube_start_attempt" with
  | none => exact one
  | some value =>
    dsimp only [Option.elim]
    cases found : Go.atoi value with
    | none => exact zero
    | some v => exact Go.int64_of_atoi found

/-- Loading goes well in every order exactly where the file is not `null`, and what is read of an
old file has the same values as all of its lines. -/
theorem load_well_iff (cfg : Config) (contents : List Char) :
    (∀ order, Iterates contents order → LoadsWell cfg contents order) ↔
      ¬ parse contents = some .null ∧
      (¬ IsObject contents →
      oldValues (Go.readLines contents) = oldValues (Go.scanLines [] contents)) := by
  constructor
  · intro loads
    obtain ⟨order, iterates⟩ := Go.Map.exists_visits (getOldExtensionData (Go.readLines contents))
    obtain ⟨l, left, loaded, converted, -, -⟩ := loads order iterates
    have notNull : parse contents ≠ some .null := by
      intro null
      rw [load, Go.JsonStruct.unmarshal, null] at loaded
      contradiction
    refine ⟨notNull, fun old => ?_⟩
    obtain ⟨written, rfl, inRange, ends⟩ := load_of_failed cfg (unmarshal_old notNull old) order
    obtain ⟨rfl, rfl⟩ := Prod.mk.inj (Except.ok.inj (loaded.symm.trans ends))
    have same := (writes_marshal inRange (int64_oldValues _)).mp (converted old)
    rw [← same, Loaded.values_populateExtraFields, Loaded.values_foldl iterates]
  · rintro ⟨notNull, complete⟩ order iterates
    cases decoded : Go.JsonStruct.unmarshal Loaded.struct contents .new with
    | none =>
      unfold Go.JsonStruct.unmarshal at decoded
      split at decoded
      · contradiction
      · contradiction
      · contradiction
    | some result =>
      obtain ⟨l, failed⟩ := result
      cases failed with
      | false =>
        have loaded (order : List (String × String)) :
            load cfg contents order = .ok (l.convertNodeState, contents) := by
          rw [load, decoded]
        refine ⟨_, _, loaded order, ?_, l.convertNodeState_ne_ok, fun order' _ =>
          ⟨_, _, loaded order', fun _ _ => rfl⟩⟩
        intro old
        rw [unmarshal_old notNull old] at decoded
        simp at decoded
      | true =>
        obtain ⟨written, rfl, inRange, loaded⟩ := load_of_failed cfg decoded order
        refine ⟨_, _, loaded, ?_, Loaded.convertNodeState_ne_ok _, ?_⟩
        · intro old
          obtain ⟨rfl, -⟩ := Prod.mk.inj (Option.some.inj ((unmarshal_old notNull old).symm.trans decoded))
          apply (writes_marshal inRange (int64_oldValues _)).mpr
          rw [Loaded.values_populateExtraFields, Loaded.values_foldl iterates, complete old]
        · intro order' _
          obtain ⟨l', again, same⟩ := load_marshal cfg inRange order'
          exact ⟨_, _, again, same.convertNodeState⟩

/-- A comment that does not fit into the buffer of the scanner. -/
def longComment : List Char := List.replicate Go.maxScanTokenSize '#'

def longFile : List Char := longComment ++ '\n' :: "pf9_cluster_role master".toList

/-- `null` sets the pointer to the data to nil, and no line after a long one is read. -/
theorem load_null_panics : (∃ order, Iterates "null".toList order ∧
      load defaultConfig "null".toList order = .error (.panic .nilDereference)) ∧
    (oldValues (Go.readLines longFile)).clusterRole = "" ∧
      (oldValues (Go.scanLines [] longFile)).clusterRole = "master" := by
  have lines : Go.splitLines [] longFile = [longComment, "pf9_cluster_role master".toList] := by
    have noBreak : '\n' ∉ longComment := fun member =>
      absurd (List.eq_of_mem_replicate member) (by decide)
    rw [longFile, Go.splitLines_append noBreak]
    rfl
  have size := Go.length_le_utf8ByteSize longComment
  rw [longComment, List.length_replicate, ← longComment] at size
  refine ⟨?_, ?_, ?_⟩
  · obtain ⟨order, iterates⟩ :=
      Go.Map.exists_visits (getOldExtensionData (Go.readLines "null".toList))
    exact ⟨order, iterates, rfl⟩
  · have read : Go.readLines longFile = [] := by
      rw [Go.readLines, lines, List.takeWhile_cons_of_neg (by simpa using size), List.map_nil]
    rw [read]
    rfl
  · have entry :
      oldEntry (Go.dropCR "pf9_cluster_role master".toList) = some ("pf9_cluster_role", "master") := by decide
    have last :
      lastValue ([longComment, "pf9_cluster_role master".toList].map Go.dropCR) "pf9_cluster_role" =
        some "master" := by
      rw [lastValue, Go.Map.lastValue, List.map_cons, List.map_singleton, List.filterMap_cons,
        List.filterMap_cons_some entry]
      split
      · simp
      · simp
    rw [Go.scanLines_eq, lines, oldValues, last]
    rfl

end Nodelet.Extension
