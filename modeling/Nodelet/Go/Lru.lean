import Mathlib.Data.Finset.Card
import Mathlib.Data.List.Nodup
import Mathlib.Data.List.Induction
import Mathlib.Tactic.Common
import Nodelet.Go.Program

/-! A cache of bounded size, which drops an entry to make room for a new one. -/
namespace Go

/-- What a package for such caches provides. A key is found with the value that was added last,
until it is removed, or dropped for the sake of another key; and no more keys are found than the
cache was made for. -/
class Lru (K V : Type) [DecidableEq K] where
  Cache : Type
  size : Cache → Nat
  lookup : Cache → K → Option V
  /-- The key that is dropped when this one is added. -/
  evicts : Cache → K → Option K
  new (size : Nat) (positive : 0 < size) : Cache
  /-- A size that is not positive is refused. -/
  refusal : Error
  /-- To look a key up may change which one is dropped next. -/
  get (c : Cache) (key : K) : Cache
  add (c : Cache) (key : K) (value : V) : Cache
  remove (c : Cache) (key : K) : Cache
  size_new {n : Nat} {positive : 0 < n} : size (new n positive) = n
  size_get {c : Cache} {key : K} : size (get c key) = size c
  size_add {c : Cache} {key : K} {value : V} : size (add c key value) = size c
  size_remove {c : Cache} {key : K} : size (remove c key) = size c
  lookup_new {n : Nat} {positive : 0 < n} {key : K} : lookup (new n positive) key = none
  lookup_get {c : Cache} {key k : K} : lookup (get c key) k = lookup c k
  lookup_remove {c : Cache} {key k : K} : lookup (remove c key) k = if k = key then none
    else lookup c k
  lookup_add {c : Cache} {key k : K} {value : V} : lookup (add c key value) k =
    if k = key then some value else if evicts c key = some k then none else lookup c k
  card_le_size {c : Cache} {keys : Finset K} (found : ∀ key ∈ keys, lookup c key ≠ none) :
    keys.card ≤ size c

namespace Lru
variable {K V : Type} [DecidableEq K]

attribute [simp] lookup_new lookup_get lookup_remove

theorem lookup_of_lookup_remove [Lru K V] {c : Cache K V}
    (found : lookup (remove c key) k = some value) : lookup c k = some value := by
  rw [lookup_remove] at found
  split at found
  · contradiction
  · exact found

end Lru

/-- The entry that is dropped is the one that has not been used for longest: the most recently used
key comes first. -/
structure Recent (K V : Type) where
  size : Nat
  items : List (K × V)
  positive : 0 < size
  distinct : (items.map Prod.fst).Nodup
  bounded : items.length ≤ size

namespace Recent
variable {K V : Type} [DecidableEq K]

def new (size : Nat) (positive : 0 < size) : Recent K V :=
    ⟨size, [], positive, List.nodup_nil, Nat.zero_le _⟩

section Items
variable {items : List (K × V)} {key k : K} {value : V}

theorem mem_of_lookup (found : items.lookup key = some value) : (key, value) ∈ items := by
  obtain ⟨before, after, rfl, -⟩ := List.lookup_eq_some_iff.mp found
  simp

theorem lookup_filter (key k : K) (items : List (K × V)) :
    (items.filter (·.1 ≠ key)).lookup k = if k = key then none else items.lookup k := by
  induction items with
  | nil => simp
  | cons item rest ih => grind

theorem lookup_dropLast (distinct : (items.map Prod.fst).Nodup) :
    items.dropLast.lookup k = if (items.getLast?.map Prod.fst) = some k then none
      else items.lookup k := by
  induction items using List.reverseRecOn with
  | nil => simp
  | append_singleton rest last =>
    simp only [List.dropLast_concat, List.getLast?_concat, Option.map_some, Option.some.injEq,
      List.lookup_append]
    split
    · rename_i same
      refine List.lookup_eq_none_iff.mpr fun item member => ?_
      have apart : last.1 ∉ rest.map Prod.fst := by
        rw [List.map_append] at distinct
        exact fun there => (List.nodup_append.mp distinct).2.2 _ there _ (by simp) rfl
      grind
    · rename_i other
      have absent : [last].lookup k = none := by
        refine List.lookup_eq_none_iff.mpr fun item member => ?_
        grind
      rw [absent, Option.or_none]

end Items

variable (c : Recent K V) (key : K) (value : V)

def lookup : Option V := c.items.lookup key

/-- The items with this key in front. -/
def front : List (K × V) := (key, value) :: c.items.filter (·.1 ≠ key)

theorem front_distinct : ((c.front key value).map Prod.fst).Nodup := by
  refine List.nodup_cons.mpr ⟨by simp, c.distinct.sublist (List.filter_sublist.map _)⟩

theorem front_bounded {old : V} (present : c.lookup key = some old) :
    (c.front key value).length ≤ c.size := by
  have fewer : (c.items.filter (·.1 ≠ key)).length < c.items.length :=
    List.length_filter_lt_length_iff_exists.mpr ⟨(key, old), mem_of_lookup present, by simp⟩
  exact Nat.lt_of_lt_of_le fewer c.bounded

/-- A key that is there moves to the front. -/
def get : Recent K V :=
  match present : c.lookup key with
  | none => c
  | some value =>
    { c with
      items := c.front key value
      distinct := c.front_distinct key value
      bounded := c.front_bounded key value present }

/-- The key that is dropped to make room for a new one. -/
def evicts : Option K :=
  match c.lookup key with
  | some _ => none
  | none => if c.size < c.items.length + 1 then c.items.getLast?.map Prod.fst else none

/-- A key that is there gets the new value and moves to the front. A new key may be one too many. -/
def added : List (K × V) :=
  match c.lookup key with
  | some _ => c.front key value
  | none => (key, value) :: if c.size < c.items.length + 1 then c.items.dropLast else c.items

theorem added_distinct : ((c.added key value).map Prod.fst).Nodup := by
  unfold added
  split
  · exact c.front_distinct key value
  · rename_i absent
    have new : ∀ item ∈ c.items, item.1 ≠ key := fun item member same => by
      simpa [same] using List.lookup_eq_none_iff.mp absent item member
    split
    · refine List.nodup_cons.mpr ⟨?_, c.distinct.sublist ((List.dropLast_sublist _).map _)⟩
      rintro member
      obtain ⟨item, inside, same⟩ := List.mem_map.mp member
      exact new item ((List.dropLast_sublist _).mem inside) same
    · refine List.nodup_cons.mpr ⟨?_, c.distinct⟩
      rintro member
      obtain ⟨item, inside, same⟩ := List.mem_map.mp member
      exact new item inside same

theorem added_bounded : (c.added key value).length ≤ c.size := by
  have bounded := c.bounded
  have positive := c.positive
  unfold added
  split
  · rename_i present
    exact c.front_bounded key value present
  · split <;> grind

def add : Recent K V :=
  { c with items := c.added key value, distinct := c.added_distinct key value, bounded := c.added_bounded key value }

def remove : Recent K V :=
  { c with
    items := c.items.filter (·.1 ≠ key)
    distinct := c.distinct.sublist (List.filter_sublist.map _)
    bounded := Nat.le_trans (List.length_filter_le ..) c.bounded }

variable {c key value} {k : K}

theorem lookup_front : (c.front key value).lookup k = if k = key then some value
    else c.lookup k := by
  rw [front, List.lookup_cons, lookup_filter]
  by_cases same : k = key
  · simp [same]
  · rw [beq_false_of_ne same, if_neg same, if_neg same]
    rfl

theorem size_get : (c.get key).size = c.size := by
  unfold get
  split <;> rfl

theorem lookup_get : (c.get key).lookup k = c.lookup k := by
  unfold get
  split
  · rfl
  · rename_i value present
    refine lookup_front.trans ?_
    split
    · rename_i same
      rw [same, present]
    · rfl

theorem lookup_add : (c.add key value).lookup k =
    if k = key then some value else if c.evicts key = some k then none else c.lookup k := by
  change (c.added key value).lookup k = _
  cases present : c.lookup key with
  | some old =>
    simp only [added, evicts, present, lookup_front]
    simp
  | none =>
    simp only [added, evicts, present, List.lookup_cons]
    by_cases same : k = key
    · simp [same]
    · rw [beq_false_of_ne same, if_neg same]
      by_cases full : c.size < c.items.length + 1
      · rw [if_pos full, if_pos full]
        exact lookup_dropLast c.distinct
      · rw [if_neg full, if_neg full]
        rfl

/-- The keys that are there. -/
def keys (c : Recent K V) : Finset K := (c.items.map Prod.fst).toFinset

theorem mem_keys : key ∈ c.keys ↔ c.lookup key ≠ none := by
  rw [keys, List.mem_toFinset, List.mem_map, lookup, Ne, List.lookup_eq_none_iff]
  grind

theorem card_keys : c.keys.card = c.items.length := by
  rw [keys, List.toFinset_card_of_nodup c.distinct, List.length_map]

end Recent

@[reducible] def Lru.recent [DecidableEq K] : Lru K V where
  Cache := Recent K V
  size := Recent.size
  lookup := Recent.lookup
  evicts := Recent.evicts
  new := Recent.new
  refusal := "Must provide a positive size"
  get := Recent.get
  add := Recent.add
  remove := Recent.remove
  size_new := rfl
  size_get := Recent.size_get
  size_add := rfl
  size_remove := rfl
  lookup_new := rfl
  lookup_get := Recent.lookup_get
  lookup_remove := Recent.lookup_filter _ _ _
  lookup_add := Recent.lookup_add
  card_le_size found :=
    (Finset.card_le_card fun key member => Recent.mem_keys.mpr (found key member)).trans
      (Recent.card_keys.trans_le (Recent.bounded _))

end Go
