import Nodelet.Go.Slice
import Nodelet.Kubeutils.Taints

/-! The same update of a taint on nodes in memory: a node is known by its address, and its taints
are a slice. The node that is changed is a copy. -/
namespace Nodelet.Kubeutils
open Go (Heap Slice)

instance : Inhabited Taint := ⟨{ key := "", effect := "" }⟩

variable {ρ : Type}

/-- The taint is put on the node: what the call is for. -/
structure Updated (node : Node ρ) (taint : Taint) (newNode : Node ρ) (updated : Bool) : Prop where
  taintsOnly : newNode = { node with taints := newNode.taints }
  distinct : (newNode.taints.map Taint.slot).Nodup
  mem : taint ∈ newNode.taints
  others : newNode.taints.filter (·.slot ≠ taint.slot) = node.taints.filter (·.slot ≠ taint.slot)
  alone : ∀ other ∈ newNode.taints, other.slot = taint.slot → other = taint
  flag : updated = false ↔ taint ∈ node.taints

theorem addOrUpdateTaint_updated (taint : Taint) (distinct : (node.taints.map Taint.slot).Nodup) :
    Updated node taint (addOrUpdateTaint node taint).1 (addOrUpdateTaint node taint).2 := by
  rw [addOrUpdateTaint_eq]
  split_ifs with present
  · exact ⟨rfl, distinct, present, rfl, fun _ member =>
      List.inj_on_of_nodup_map distinct member present, by simp [present]⟩
  · refine ⟨rfl, Go.Keyed.distinct_put distinct, Go.Keyed.mem_put.mpr (.inl rfl),
      Go.Keyed.filter_put .., ?_, by simp [present]⟩
    intro other member same
    obtain equal | ⟨-, apart⟩ := Go.Keyed.mem_put.mp member
    · exact equal
    · exact absurd same apart

theorem Updated.again {updated : Bool} (done : Updated node taint newNode updated) :
    addOrUpdateTaint newNode taint = (newNode, false) := by
  rw [addOrUpdateTaint_eq, if_pos done.mem]

/-- A node as it is held at an address. -/
structure Cell (ρ : Type) where
  resourceVersion : Nat
  taints : Slice
  rest : ρ

structure Memory (ρ : Type) where
  nodes : List (Cell ρ)
  arrays : Heap Taint

namespace Memory

def nodeOf (arrays : Heap Taint) (cell : Cell ρ) : Node ρ :=
    ⟨cell.resourceVersion, arrays.read cell.taints, cell.rest⟩

def node (memory : Memory ρ) (address : Nat) : Option (Node ρ) :=
    memory.nodes[address]?.map (nodeOf memory.arrays)

/-- Every slice lies inside of its array. -/
def Fits (memory : Memory ρ) : Prop := ∀ cell ∈ memory.nodes, cell.taints.Fits memory.arrays

/-- `DeepCopy` of the taints: an array of their own. -/
def copySlice (arrays : Heap Taint) (taints : Slice) : Heap Taint × Slice :=
  (arrays ++ [arrays.read taints], ⟨arrays.length, 0, taints.length, taints.length⟩)

/-- The loop over the taints of the copy, from index `i` on. -/
def replaceFrom (grow : Nat → Nat) (taint : Taint) (nodeTaints : Slice) :
    Nat → Nat → Heap Taint → Slice → Bool → Heap Taint × Option (Slice × Bool)
  | 0, _, arrays, newTaints, updated => (arrays, some (newTaints, updated))
  | n + 1, i, arrays, newTaints, updated =>
    let nodeTaint := (arrays.read nodeTaints).getD i default
    if taint.matchTaint nodeTaint then
      if taint = nodeTaint then (arrays, none)
      else
        let (arrays, newTaints) := arrays.append grow newTaints taint
        replaceFrom grow taint nodeTaints n (i + 1) arrays newTaints true
    else
      let (arrays, newTaints) := arrays.append grow newTaints nodeTaint
      replaceFrom grow taint nodeTaints n (i + 1) arrays newTaints updated

/-- The end of the call, after the loop. An equal taint leaves the copy as it is. -/
def returned (grow : Nat → Nat) (memory : Memory ρ) (newNode : Cell ρ) (taint : Taint) :
    Heap Taint × Option (Slice × Bool) → Memory ρ × Nat × Bool
  | (arrays, none) => (⟨memory.nodes ++ [newNode], arrays⟩, memory.nodes.length, false)
  | (arrays, some (newTaints, updated)) =>
    let (arrays, newTaints) := if updated then (arrays, newTaints)
      else arrays.append grow newTaints taint
    (⟨memory.nodes ++ [{ newNode with taints := newTaints }], arrays⟩, memory.nodes.length, true)

/-- The memory after the call, the address of the node that is returned, and the flag. There is no
node at nil. -/
def addOrUpdateTaint (grow : Nat → Nat) (memory : Memory ρ) (address : Nat) (taint : Taint) :
    Option (Memory ρ × Nat × Bool) :=
  memory.nodes[address]?.map fun cell =>
    let (arrays, nodeTaints) := copySlice memory.arrays cell.taints
    returned grow memory { cell with taints := nodeTaints } taint
      (replaceFrom grow taint nodeTaints nodeTaints.length 0 arrays .empty false)

section Loop
variable (grow : Nat → Nat) (taint : Taint) {nodeTaints newTaints : Slice} {arrays : Heap Taint}
  {bound : Nat}

/-- The loop in memory has done what the loop over values does, and nothing below the bound has
changed. -/
structure Did (bound : Nat) (arrays : Heap Taint) (value : Option (List Taint × Bool))
    (result : Heap Taint × Option (Slice × Bool)) : Prop where
  keeps : Heap.Keeps bound arrays result.1
  above : ∀ slice updated, result.2 = some (slice, updated) → slice.Above bound result.1
  same : result.2.map (fun (slice, updated) => (result.1.read slice, updated)) = value

theorem Did.later {arrays' : Heap Taint} {value : Option (List Taint × Bool)}
    {result : Heap Taint × Option (Slice × Bool)} (keeps : Heap.Keeps bound arrays arrays')
    (did : Did bound arrays' value result) : Did bound arrays value result :=
  ⟨keeps.trans did.keeps, did.above, did.same⟩

theorem replaceFrom_did {n i : Nat} (updated : Bool) (below : nodeTaints.array < bound)
    (above : newTaints.Above bound arrays) (left : i + n = (arrays.read nodeTaints).length) :
    Did bound arrays
      (replaceTaint taint ((arrays.read nodeTaints).drop i) (arrays.read newTaints) updated)
      (replaceFrom grow taint nodeTaints n i arrays newTaints updated) := by
  induction n generalizing i arrays newTaints updated with
  | zero =>
    have ended : (arrays.read nodeTaints).drop i = [] := List.drop_eq_nil_of_le (by omega)
    rw [ended]
    exact ⟨fun _ _ => rfl, by rintro _ _ ⟨⟩; exact above, rfl⟩
  | succ n ih =>
    have inside : i < (arrays.read nodeTaints).length := by omega
    have here :
      (arrays.read nodeTaints).getD i default = (arrays.read nodeTaints)[i] := by simp [inside]
    have next (x : Taint) (updated : Bool) :
        Did bound arrays
          (replaceTaint taint ((arrays.read nodeTaints).drop (i + 1)) (arrays.read newTaints ++ [x]) updated)
          (replaceFrom grow taint nodeTaints n (i + 1) (arrays.append grow newTaints x).1
            (arrays.append grow newTaints x).2
            updated) := by
      obtain ⟨grown, keeps⟩ := above.append grow x
      have unread := keeps.read below
      rw [← above.fits.append_read, ← unread]
      exact .later keeps (ih updated grown (by rw [unread]; omega))
    rw [List.drop_eq_getElem_cons inside, replaceTaint, replaceFrom, here]
    split_ifs
    · exact ⟨fun _ _ => rfl, by simp, rfl⟩
    · exact next _ _
    · exact next _ _

end Loop

section Copy
variable {arrays : Heap Taint} {taints : Slice}

theorem read_copySlice (fits : taints.Fits arrays) :
    (copySlice arrays taints).1.read (copySlice arrays taints).2 = arrays.read taints := by
  have length := fits.read_length
  have copied :
    (arrays ++ [arrays.read taints]).getD arrays.length [] = arrays.read taints := by simp
  change (((arrays ++ [arrays.read taints]).getD arrays.length []).drop 0).take taints.length = _
  rw [copied, List.drop_zero, List.take_of_length_le (by omega)]

theorem keeps_copySlice (arrays : Heap Taint) (taints : Slice) :
    Heap.Keeps arrays.length arrays (copySlice arrays taints).1 :=
  fun _ below => List.getElem?_append_left below

theorem fits_copySlice (fits : taints.Fits arrays) :
    (copySlice arrays taints).2.Fits (copySlice arrays taints).1 := by
  have length := fits.read_length
  refine ⟨Nat.le_refl _, ?_⟩
  simp [copySlice, length]

theorem replaceFrom_copySlice (grow : Nat → Nat) (taint : Taint) (fits : taints.Fits arrays) :
    Did (arrays.length + 1) (copySlice arrays taints).1
      (replaceTaint taint (arrays.read taints) [] false)
      (replaceFrom grow taint (copySlice arrays taints).2 taints.length 0
        (copySlice arrays taints).1 .empty false) := by
  have above : Slice.empty.Above (arrays.length + 1) (copySlice arrays taints).1 :=
    Slice.above_empty (by simp [copySlice])
  have copied := read_copySlice fits
  have whole : 0 + taints.length = ((copySlice arrays taints).1.read (copySlice arrays taints).2).length := by
    rw [copied, fits.read_length, Nat.zero_add]
  have loop := replaceFrom_did grow taint false (Nat.lt_succ_self _) above whole
  rwa [List.drop_zero, copied, Heap.read_empty] at loop

end Copy

section Call
variable {memory : Memory ρ} {address : Nat} {node : Node ρ}

/-- The nodes that were in memory are as they were. -/
def Leaves (memory after : Memory ρ) : Prop :=
  after.Fits ∧ ∀ address node, memory.node address = some node → after.node address = some node

theorem leaves_of_keeps {arrays : Heap Taint} (fits : memory.Fits)
    (keeps : Heap.Keeps memory.arrays.length memory.arrays arrays) (new : cell.taints.Fits arrays) :
    Leaves memory ⟨memory.nodes ++ [cell], arrays⟩ := by
  constructor
  · intro other member
    obtain old | rfl := List.mem_append.mp member |>.imp_right List.mem_singleton.mp
    · exact ((fits other old).kept keeps).1
    · exact new
  · intro address node held
    obtain ⟨other, found, rfl⟩ := Option.map_eq_some_iff.mp held
    have same := ((fits other (List.mem_of_getElem? found)).kept keeps).2
    have still : (memory.nodes ++ [cell])[address]? = some other := by
      rw [List.getElem?_append_left (List.getElem?_eq_some_iff.mp found).1, found]
    rw [Memory.node, still, Option.map_some, nodeOf, same]
    rfl

theorem node_last (nodes : List (Cell ρ)) (arrays : Heap Taint) (cell : Cell ρ) :
    (⟨nodes ++ [cell], arrays⟩ : Memory ρ).node nodes.length = some (nodeOf arrays cell) := by
  simp [Memory.node]

/-- In memory, the call returns the address of a new node, which is as the call on values says. -/
theorem addOrUpdateTaint_refines (grow : Nat → Nat) (taint : Taint) (fits : memory.Fits)
    (held : memory.node address = some node) :
    ∃ after result, memory.addOrUpdateTaint grow address taint =
        some (after, result, (Kubeutils.addOrUpdateTaint node taint).2) ∧
      after.node result = some (Kubeutils.addOrUpdateTaint node taint).1 ∧ Leaves memory after := by
  obtain ⟨cell, found, rfl⟩ := Option.map_eq_some_iff.mp held
  have old := fits cell (List.mem_of_getElem? found)
  have did := replaceFrom_copySlice grow taint old
  have unchanged {arrays : Heap Taint}
      (keeps : Heap.Keeps (memory.arrays.length + 1) (copySlice memory.arrays cell.taints).1 arrays) :
      Heap.Keeps memory.arrays.length memory.arrays arrays :=
    fun a below => (keeps a (by omega)).trans (keeps_copySlice memory.arrays cell.taints a below)
  have call : memory.addOrUpdateTaint grow address taint =
      some (returned grow memory { cell with taints := (copySlice memory.arrays cell.taints).2 } taint
        (replaceFrom grow taint (copySlice memory.arrays cell.taints).2 cell.taints.length 0
          (copySlice memory.arrays cell.taints).1 .empty false)) := by
    rw [addOrUpdateTaint, found]
    rfl
  rw [call]
  generalize replaceFrom grow taint (copySlice memory.arrays cell.taints).2 cell.taints.length 0
    (copySlice memory.arrays cell.taints).1 .empty false = result at did ⊢
  obtain ⟨arrays, ended⟩ := result
  obtain ⟨keeps, above, same⟩ := did
  cases ended with
  | none =>
    have value :
        Kubeutils.addOrUpdateTaint (nodeOf memory.arrays cell) taint =
          (nodeOf memory.arrays cell, false) := by
      simp only [Kubeutils.addOrUpdateTaint, nodeOf, ← same, Option.map_none]
    have copied := (keeps.read (Nat.lt_succ_self _)).trans (read_copySlice old)
    have new := keeps.fits (Nat.lt_succ_self _) (fits_copySlice old)
    rw [value]
    refine ⟨_, _, rfl, ?_, leaves_of_keeps fits (unchanged keeps) new⟩
    rw [node_last, nodeOf, copied]
    rfl
  | some collected =>
    obtain ⟨newTaints, updated⟩ := collected
    have above := above newTaints updated rfl
    have value : Kubeutils.addOrUpdateTaint (nodeOf memory.arrays cell) taint =
        ({ nodeOf memory.arrays cell with
            taints := if updated then arrays.read newTaints else arrays.read newTaints ++ [taint] }, true) := by
      simp only [Kubeutils.addOrUpdateTaint, nodeOf, ← same, Option.map_some]
    rw [value]
    cases updated with
    | true =>
      refine ⟨_, _, rfl, ?_, leaves_of_keeps fits (unchanged keeps) above.fits⟩
      rw [node_last]
      rfl
    | false =>
      obtain ⟨grown, later⟩ := above.append grow taint
      have added := @Slice.Fits.append_read _ _ _ grow _ above.fits taint
      refine ⟨⟨memory.nodes ++ [{ cell with taints := (arrays.append grow newTaints taint).2 }],
        (arrays.append grow newTaints taint).1⟩, memory.nodes.length, rfl, ?_,
        leaves_of_keeps fits (unchanged (keeps.trans later)) grown.fits⟩
      rw [node_last, nodeOf, added]
      rfl

/-- The node at the address is left as it is, the taint is put on the node that is returned, and a
second call with that node returns an equal one. -/
theorem addOrUpdateTaint_correct (grow : Nat → Nat) (memory : Memory ρ) (address : Nat)
    (node : Node ρ) (taint : Taint) (fits : memory.Fits) (held : memory.node address = some node)
    (distinct : (node.taints.map Taint.slot).Nodup) :
    ∃ after result newNode updated, memory.addOrUpdateTaint grow address taint =
      some (after, result, updated) ∧
      after.node address = some node ∧ after.node result = some newNode ∧
      Updated node taint newNode updated ∧
      ∃ later again, after.addOrUpdateTaint grow result taint = some (later, again, false) ∧
        later.node result = some newNode ∧ later.node again = some newNode := by
  obtain ⟨after, result, call, returned, fitting, left⟩ :=
    addOrUpdateTaint_refines grow taint fits held
  have done := addOrUpdateTaint_updated taint distinct
  obtain ⟨later, again, second, same, -, kept⟩ :=
    addOrUpdateTaint_refines grow taint fitting returned
  rw [done.again] at second same
  exact ⟨after, result, _, _, call, left address node held, returned, done, later, again, second,
    kept result _ returned, same⟩

end Call

def masterMemory : Memory Unit := ⟨[⟨1, ⟨0, 0, 1, 1⟩, ()⟩], [[master]]⟩

theorem addOrUpdateTaint_dedicated : masterMemory.node 0 = some masterNode ∧
    ∃ after result newNode updated, masterMemory.addOrUpdateTaint (2 * ·) 0 dedicated =
      some (after, result, updated) ∧
      after.node 0 = some masterNode ∧ after.node result = some newNode ∧
      Updated masterNode dedicated newNode updated ∧
      ∃ later again, after.addOrUpdateTaint (2 * ·) result dedicated = some (later, again, false) ∧
        later.node result = some newNode ∧ later.node again = some newNode := by
  have fits : masterMemory.Fits := by
    intro cell member
    obtain rfl := List.mem_singleton.mp member
    exact ⟨Nat.le_refl 1, Nat.le_refl 1⟩
  exact ⟨rfl,
    addOrUpdateTaint_correct (2 * ·) masterMemory 0 masterNode dedicated fits rfl (by decide)⟩

end Memory
end Nodelet.Kubeutils
