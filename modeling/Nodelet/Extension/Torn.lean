import Nodelet.Extension.Loading
import Nodelet.Go.JsonCut
import Mathlib.Data.List.DropRight

/-! The extension file after a process ended while it wrote the file: what the next one loads is the
whole of what was written or new data, and never a part. -/
namespace Nodelet.Extension
open KubeEnvMap (trimSpace isSpace)
open Go (Heads Headed)
open Go.JsonStruct (marshal)
open Go.Utf8 (runes)

/-- What begins a key of the old format is a small letter. -/
def notKey (c : Char) : Bool := !c.isLower

theorem signs : Go.JsonText.Signs isSpace notKey := by
  refine ⟨by decide, fun c member => ?_⟩
  simp only [List.mem_cons, List.not_mem_nil, or_false] at member
  obtain rfl | rfl | rfl | rfl := member
  all_goals decide

variable {c : Char}

theorem notKey_of_beyond (beyond : 128 ≤ c.toNat) : notKey c = true := by
  have above : ¬ c.val ≤ 122 := fun below => absurd (show c.toNat ≤ 122 from below) (by omega)
  have small : c.isLower = (decide (97 ≤ c.val) && decide (c.val ≤ 122)) := rfl
  simp [notKey, small, above]

theorem toList_trimSpace (text : List Char) :
    (trimSpace (String.ofList text)).toList = (text.dropWhile isSpace).rdropWhile isSpace := by
  rw [trimSpace, String.toList_ofList, String.toList_ofList, List.rdropWhile]

theorem head?_rdropWhile {text : List Char} (first : text.head? = some c)
    (solid : isSpace c = false) : (text.rdropWhile isSpace).head? = some c := by
  obtain ⟨rest, rfl⟩ := List.head?_eq_some_iff.mp first
  obtain ⟨more, split⟩ := List.rdropWhile_prefix isSpace (l := c :: rest)
  cases kept : (c :: rest).rdropWhile isSpace with
  | nil =>
    have blank := List.rdropWhile_eq_nil_iff.mp kept c List.mem_cons_self
    simp [solid] at blank
  | cons d part =>
    rw [kept, List.cons_append] at split
    exact congrArg some (List.cons.inj split).1

theorem not_key_of_oldEntry {line : List Char} (heads : Heads isSpace notKey line)
    (entry : oldEntry line = some (key, value)) : ∃ c, key.toList.head? = some c ∧
      notKey c = true := by
  unfold oldEntry at entry
  rw [toList_trimSpace] at entry
  dsimp only at entry
  split_ifs at entry with empty
  obtain ⟨rfl, -⟩ := Prod.mk.inj (Option.some.inj entry)
  cases solid : line.dropWhile isSpace with
  | nil => simp [solid, List.rdropWhile] at empty
  | cons c rest =>
    have space : isSpace c = false := by
      have kept := List.head?_dropWhile_not isSpace line
      simpa [solid] using kept
    have first : ((c :: rest).rdropWhile isSpace).head? = some c := head?_rdropWhile rfl space
    obtain ⟨more, split⟩ := List.head?_eq_some_iff.mp first
    have other : c ≠ ' ' := by
      rintro rfl
      exact absurd space (by decide)
    refine ⟨c, ?_, heads (line.takeWhile isSpace) c rest ?_ (fun s member => ?_) space⟩
    · rw [split, List.takeWhile_cons_of_pos (by simpa using other), toList_trimSpace,
        List.dropWhile_cons_of_neg (by simp [space])]
      exact head?_rdropWhile rfl space
    · rw [← solid, List.takeWhile_append_dropWhile]
    · exact List.mem_takeWhile_imp member

/-- The keys of the old format. -/
def oldKeys : List String := Loaded.fields.map Go.JsonStruct.Field.name

theorem convertOldField_of_notMem (l : Loaded) (other : key ∉ oldKeys) :
    l.convertOldField (key, value) = l := by
  have names : oldKeys = ["pf9_kube_service_state", "pf9_kube_node_state", "pf9_kube_start_attempt", "pf9_cluster_id",
    "pf9_cluster_role", "all_status_checks", "all_tasks", "completed_tasks",
      "current_status_check", "current_task",
    "last_failed_status_check", "last_failed_status_time", "last_failed_task",
      "status_check_timestamp"] := rfl
  rw [names] at other
  simp only [List.mem_cons, List.not_mem_nil, or_false, not_or] at other
  unfold Loaded.convertOldField ExtensionData.convertOldField
  split
  case h_15 => simp_all
  all_goals
    obtain ⟨rfl, rfl⟩ := Prod.mk.inj ‹(key, value) = _›
    simp at other

theorem notMem_oldKeys {key : String} (first : key.toList.head? = some c)
    (other : notKey c = true) : key ∉ oldKeys := by
  intro member
  have lower : ∀ name ∈ oldKeys, name.toList.head?.all notKey = false := by decide
  have found := lower key member
  rw [first, Option.all_some, other] at found
  contradiction

theorem foldl_convertOldField {contents : List Char} (headed : Headed isSpace notKey true contents)
    (iterates : Iterates contents order) (l : Loaded) :
    order.foldl Loaded.convertOldField l = l := by
  have other : ∀ entry ∈ order, entry.1 ∉ oldKeys := by
    rintro ⟨key, value⟩ member
    have found := iterates.mem_iff.mp member
    rw [getOldExtensionData, Go.Map.lookup_ofEntries, Go.Map.lastValue] at found
    obtain ⟨entry, last, rfl⟩ := Option.map_eq_some_iff.mp found
    obtain rfl : entry.1 = key := by simpa using List.find?_some last
    obtain ⟨line, read, converted⟩ :=
      List.mem_filterMap.mp (List.mem_reverse.mp (List.mem_of_find?_eq_some last))
    obtain ⟨c, first, other⟩ := not_key_of_oldEntry (headed.readLines line read) converted
    exact notMem_oldKeys first other
  clear iterates
  induction order with
  | nil => rfl
  | cons entry rest ih =>
    obtain ⟨first, others⟩ := List.forall_mem_cons.mp other
    rw [List.foldl_cons, convertOldField_of_notMem l first, ih others]

section Crash
variable {l : Loaded}

/-- The bytes that `Write` puts into the file. -/
def written (l : Loaded) : List UInt8 := (marshal Loaded.struct l).flatMap String.utf8EncodeChar

/-- After a crash in which the first bytes of a file have been written, the next process loads all
that was to be written or, if a byte is missing, what is loaded from no file; and it leaves a whole
file. -/
theorem load_after_crash (cfg : Config) (inRange : l.InRange) (n : Nat)
    (iterates : Iterates (runes ((written l).take n)) order) :
    let saved := if (written l).length ≤ n then l else Loaded.new.populateExtraFields cfg
    ∃ l', load cfg (runes ((written l).take n)) order = .ok (l', marshal Loaded.struct saved) ∧
      Loaded.SameFields saved.convertNodeState l' := by
  by_cases whole : (written l).length ≤ n
  · have contents : runes ((written l).take n) = marshal Loaded.struct l := by
      rw [List.take_of_length_le whole]
      simpa [written, Go.Utf8.bytes] using Go.Utf8.runes_bytes (String.ofList (marshal Loaded.struct l))
    obtain ⟨l', loaded, same⟩ := load_marshal cfg inRange order
    rw [if_pos whole, contents]
    exact ⟨_, loaded, same.convertNodeState⟩
  · obtain ⟨kept, tail, initial, less, beyond, contents⟩ := Go.Utf8.runes_take (Nat.lt_of_not_le whole)
    rw [← written] at contents
    have unread := Go.JsonText.parse_cut initial less beyond
    have headed : Headed isSpace notKey true (kept ++ tail) := by
      obtain ⟨rest, split⟩ := initial
      refine Headed.cut (split ▸ signs.headed_marshalIndent _ : Headed isSpace notKey true (kept ++ rest)) ?_
      exact fun c member => notKey_of_beyond (beyond c member)
    rw [contents] at iterates
    have untouched := foldl_convertOldField headed iterates .new
    have decoded : Go.JsonStruct.unmarshal Loaded.struct (kept ++ tail) .new = some (.new, true) :=
      unmarshal_old (by simp [unread]) (by simp [IsObject, unread])
    rw [if_neg whole, contents]
    refine ⟨_, ?_, fun _ _ => rfl⟩
    rw [load, decoded]
    dsimp only [Loaded.convertExtnDataToJSON, Loaded.write]
    rw [untouched]

/-- Ten bytes of a file in which the service is running. -/
theorem load_after_crash_of_running :
    let l : Loaded :=
      { data := { ExtensionData.new with serviceState := "true", clusterRole := "master" } }
    ∃ order l', load defaultConfig (runes ((written l).take 10)) order =
        .ok (l', marshal Loaded.struct (Loaded.new.populateExtraFields defaultConfig)) ∧
      Loaded.SameFields (Loaded.new.populateExtraFields defaultConfig).convertNodeState l' := by
  intro l
  obtain ⟨order, iterates⟩ :=
    Go.Map.exists_visits (getOldExtensionData (Go.readLines (runes ((written l).take 10))))
  have cut : ¬ (written l).length ≤ 10 := by decide +kernel
  have loaded :=
    load_after_crash defaultConfig (l := l) ⟨by decide, by decide, by decide⟩ 10 iterates
  rw [if_neg cut] at loaded
  exact ⟨order, loaded⟩

end Crash
end Nodelet.Extension
