import Mathlib.Data.Finmap
import Mathlib.Data.String.Basic

/-! Filling a map from entries that are visited in an unspecified order, as a loop
over a Go map visits them. An entry whose key is taken is skipped, so the first
entry of a key wins, and the result is the same for all orders exactly when the
entries that compete for a key have the same value. -/
namespace Go

abbrev Map (α β : Type) := Finmap fun _ : α => β

-- the order in which keys are sorted
instance stringLe_trans : IsTrans String (· ≤ ·) := inferInstance

instance stringLe_antisymm : Std.Antisymm (· ≤ · : String → String → Prop) := inferInstance

namespace Map
variable {α β ε : Type} [DecidableEq α]

/-- Store a value unless its key is taken. -/
def insertAbsent (m : Map α β) (k : α) (v : β) : Map α β :=
  if k ∈ m then m else m.insert k v

theorem lookup_insertAbsent (m : Map α β) (k k' : α) (v : β) :
    (m.insertAbsent k v).lookup k' = (m.lookup k').or (if k = k' then some v else none) := by
  unfold insertAbsent
  by_cases taken : k ∈ m
  · rw [if_pos taken]
    by_cases same : k = k'
    · obtain ⟨old, found⟩ := Finmap.mem_iff.mp (same ▸ taken)
      simp [found]
    · simp [same]
  · rw [if_neg taken]
    by_cases same : k = k'
    · subst same
      simp [Finmap.lookup_insert, Finmap.lookup_eq_none.mpr taken]
    · simp [same, Finmap.lookup_insert_of_ne m (Ne.symm same)]

/-- Store every entry under its key, in the order of the list, unless the key is taken. -/
def fillAbsent (key : ε → α) (value : ε → β) (m : Map α β) (entries : List ε) : Map α β :=
  entries.foldl (fun m e => m.insertAbsent (key e) (value e)) m

variable {key : ε → α} {value : ε → β} {m : Map α β}

/-- The first entry of a key decides, unless the map had the key. -/
theorem lookup_fillAbsent (entries : List ε) (k : α) :
    (fillAbsent key value m entries).lookup k =
      (m.lookup k).or ((entries.find? fun e => key e = k).map value) := by
  induction entries generalizing m with
  | nil => simp [fillAbsent]
  | cons e rest ih =>
    have first : fillAbsent key value m (e :: rest) =
        fillAbsent key value (m.insertAbsent (key e) (value e)) rest := rfl
    rw [first, ih, lookup_insertAbsent, Option.or_assoc, List.find?_cons]
    by_cases same : key e = k <;> simp [same]

/-- Entries that compete for a key the map does not have carry the same value. -/
def Agree (key : ε → α) (value : ε → β) (m : Map α β) (entries : List ε) : Prop :=
  ∀ a ∈ entries, ∀ b ∈ entries, key a = key b → key a ∉ m → value a = value b

theorem fillAbsent_congr {first second : List ε} (agree : Agree key value m first)
    (sameEntries : ∀ e, e ∈ first ↔ e ∈ second) :
    fillAbsent key value m first = fillAbsent key value m second := by
  apply Finmap.ext_lookup
  intro k
  rw [lookup_fillAbsent, lookup_fillAbsent]
  cases taken : m.lookup k with
  | some v => rfl
  | none =>
    have free := Finmap.lookup_eq_none.mp taken
    rw [Option.none_or, Option.none_or]
    cases one : first.find? fun e => key e = k with
    | none =>
      have absent : second.find? (fun e => key e = k) = none := by
        rw [List.find?_eq_none] at one ⊢
        exact fun e member => one e ((sameEntries e).mpr member)
      rw [absent]
    | some a =>
      have keyA : key a = k := by simpa using List.find?_some one
      obtain ⟨b, other⟩ : ∃ b, second.find? (fun e => key e = k) = some b := by
        apply Option.isSome_iff_exists.mp
        rw [List.find?_isSome]
        exact ⟨a, (sameEntries a).mp (List.mem_of_find?_eq_some one), by simpa using keyA⟩
      have keyB : key b = k := by simpa using List.find?_some other
      rw [other, Option.map_some, Option.map_some]
      refine congrArg some (agree a (List.mem_of_find?_eq_some one) b ?_ (keyA.trans keyB.symm) (keyA ▸ free))
      exact (sameEntries b).mpr (List.mem_of_find?_eq_some other)

theorem lookup_fillAbsent_cons (key : ε → α) (value : ε → β) (e : ε) (rest : List ε)
    (free : key e ∉ m) : (fillAbsent key value m (e :: rest)).lookup (key e) = some (value e) := by
  rw [lookup_fillAbsent, Finmap.lookup_eq_none.mpr free]
  simp

/-- The order is irrelevant exactly when competing entries agree. -/
theorem fillAbsent_perm_iff (entries : List ε) :
    (∀ first second : List ε, first.Perm entries → second.Perm entries →
      fillAbsent key value m first = fillAbsent key value m second) ↔
      Agree key value m entries := by
  classical
  constructor
  · intro same a memberA b memberB keys free
    have equal := same (a :: entries.erase a) (b :: entries.erase b)
      (List.perm_cons_erase memberA).symm (List.perm_cons_erase memberB).symm
    have first := lookup_fillAbsent_cons key value a (entries.erase a) free
    have second := lookup_fillAbsent_cons key value b (entries.erase b) (keys ▸ free)
    rw [equal, keys, second] at first
    exact (Option.some.inj first).symm
  · intro agree first second permFirst permSecond
    have agreeFirst : Agree key value m first := fun a memberA b memberB =>
      agree a (permFirst.mem_iff.mp memberA) b (permFirst.mem_iff.mp memberB)
    exact fillAbsent_congr agreeFirst fun e => (permFirst.trans permSecond.symm).mem_iff

/-- The value of the last entry of a key. -/
def lastValue (entries : List (α × β)) (k : α) : Option β :=
    (entries.reverse.find? fun entry => entry.1 = k).map Prod.snd

/-- A map that is filled entry by entry: the last one wins. -/
def ofEntries (entries : List (α × β)) : Map α β :=
    entries.foldl (fun m entry => m.insert entry.1 entry.2) ∅

theorem lookup_ofEntries (entries : List (α × β)) (k : α) :
    (ofEntries entries).lookup k = lastValue entries k := by
  unfold ofEntries lastValue
  induction entries using List.reverseRecOn with
  | nil => rfl
  | append_singleton entries entry ih =>
    rw [List.foldl_append, List.reverse_append]
    by_cases same : entry.1 = k
    · subst same
      simp [Finmap.lookup_insert]
    · simp [Finmap.lookup_insert_of_ne _ (Ne.symm same), same, ih]

theorem mem_of_lastValue {entries : List (α × β)} {k : α} {v : β}
    (last : lastValue entries k = some v) : (k, v) ∈ entries := by
  obtain ⟨entry, found, rfl⟩ := Option.map_eq_some_iff.mp last
  have same : entry.1 = k := by simpa using List.find?_some found
  have member := List.mem_reverse.mp (List.mem_of_find?_eq_some found)
  exact same ▸ member

/-- A loop over the map visits each of its entries once, in an order of its own. -/
structure Visits (m : Map α β) (order : List (α × β)) : Prop where
  distinct : (order.map Prod.fst).Nodup
  mem_iff : ∀ {k : α} {v : β}, (k, v) ∈ order ↔ m.lookup k = some v

theorem Visits.perm {first second : List (α × β)} (visits : Visits m first)
    (perm : first.Perm second) : Visits m second :=
  ⟨(perm.map Prod.fst).nodup_iff.mp visits.distinct, perm.mem_iff.symm.trans visits.mem_iff⟩

theorem exists_visits (m : Map α β) : ∃ order, Visits m order := by
  obtain ⟨entries, same⟩ := Quotient.exists_rep m.entries
  have distinct : (entries.map Sigma.fst).Nodup := by
    have keys := m.nodupKeys
    rwa [← same] at keys
  refine ⟨entries.map fun entry => (entry.1, entry.2), ?_, ?_⟩
  · rwa [List.map_map]
  · intro k v
    have member : (k, v) ∈ entries.map (fun entry => (entry.1, entry.2)) ↔
        (⟨k, v⟩ : Sigma fun _ : α => β) ∈ entries := by
      simp
    rw [member, ← Option.mem_def, Finmap.mem_lookup_iff, ← same]
    rfl

theorem exists_visits_concat {k : α} {v : β} (found : m.lookup k = some v) :
    ∃ before, Visits m (before ++ [(k, v)]) := by
  classical
  obtain ⟨order, visits⟩ := exists_visits m
  have perm :=
    (List.perm_cons_erase (visits.mem_iff.mpr found)).trans (List.perm_append_singleton _ _).symm
  exact ⟨_, visits.perm perm⟩

section Loop
variable {σ γ : Type} {step : σ → α × β → σ} {part : σ → γ} {k : α} {store : β → γ}

/-- A part of the state that only the entry of one key sets. -/
theorem Visits.foldl {order : List (α × β)} (visits : Visits m order)
    (own : ∀ s v, part (step s (k, v)) = store v)
    (other : ∀ s k' v, k' ≠ k → part (step s (k', v)) = part s) (s : σ) :
    part (order.foldl step s) = (m.lookup k).elim (part s) store := by
  have unseen (rest : List (α × β)) : ∀ s, k ∉ rest.map Prod.fst →
      part (rest.foldl step s) = part s := by
    induction rest with
    | nil => exact fun _ _ => rfl
    | cons entry rest ih =>
      intro s absent
      obtain ⟨here, later⟩ := not_or.mp (List.mem_cons.not.mp absent)
      rw [List.foldl_cons, ih _ later, other s entry.1 entry.2 (Ne.symm here)]
  cases found : m.lookup k with
  | none =>
    refine unseen order s ?_
    intro member
    obtain ⟨⟨_, v⟩, entry, rfl⟩ := List.mem_map.mp member
    rw [visits.mem_iff, found] at entry
    contradiction
  | some v =>
    obtain ⟨before, after, rfl⟩ := List.append_of_mem (visits.mem_iff.mpr found)
    have distinct := visits.distinct
    rw [List.map_append, List.map_cons, List.nodup_append, List.nodup_cons] at distinct
    rw [List.foldl_append, List.foldl_cons, unseen after _ distinct.2.1.1, own]
    rfl

end Loop

end Map
end Go
