import Nodelet.Go.Keyed
import Nodelet.Go.Remote

/-! The taints of a node. The node is read once, each taint is added to it as it was then, and a
taint that is already there ends the call without an error. -/
namespace Nodelet.Kubeutils
open Go.Keyed (put Last)
open Go.Resumption (Runs runs_done runs_call_done runs_bind_ok)
open Go.Remote (runs_mapError_ok)

structure Taint where
  key : String
  value : String := ""
  effect : String
  timeAdded : Option Int := none
  deriving DecidableEq, Repr

namespace Taint

/-- As `%v` prints it, with this text for a time. -/
def text (showTime : Int → String) (taint : Taint) : String :=
  "&Taint\x7bKey:" ++ taint.key ++ ",Value:" ++ taint.value ++ ",Effect:" ++ taint.effect ++
    ",TimeAdded:" ++ taint.timeAdded.elim "<nil>" showTime ++ ",\x7d"

def matchTaint (taint other : Taint) : Bool := taint.key = other.key && taint.effect = other.effect

/-- What is compared. -/
def slot (taint : Taint) : String × String := (taint.key, taint.effect)

theorem matchTaint_iff {taint other : Taint} :
    taint.matchTaint other = true ↔ other.slot = taint.slot := by
  simp only [matchTaint, slot, Bool.and_eq_true, decide_eq_true_eq, Prod.mk.injEq]
  rw [eq_comm, @eq_comm _ taint.effect]

end Taint

/-- A node with its version in the store. Its other fields are in `rest`. -/
structure Node (ρ : Type) where
  resourceVersion : Nat
  taints : List Taint
  rest : ρ

variable {ρ : Type}

/-- The loop over the taints of the node. An equal taint ends it, and what was collected is
dropped. -/
def replaceTaint (taint : Taint) : List Taint → List Taint → Bool → Option (List Taint × Bool)
  | [], newTaints, updated => some (newTaints, updated)
  | nodeTaint :: rest, newTaints, updated =>
    if taint.matchTaint nodeTaint then
      if taint = nodeTaint then none else replaceTaint taint rest (newTaints ++ [taint]) true
    else replaceTaint taint rest (newTaints ++ [nodeTaint]) updated

def addOrUpdateTaint (node : Node ρ) (taint : Taint) : Node ρ × Bool :=
  match replaceTaint taint node.taints [] false with
  | none => (node, false)
  | some (newTaints, updated) => ({ node with taints := if updated then newTaints
    else newTaints ++ [taint] }, true)

section Taints
variable {node : Node ρ} {taint : Taint} {taints newTaints : List Taint} {updated : Bool}

theorem replaceTaint_of_mem (member : taint ∈ taints) :
    replaceTaint taint taints newTaints updated = none := by
  induction taints generalizing newTaints updated with
  | nil => contradiction
  | cons nodeTaint rest ih =>
    unfold replaceTaint
    by_cases same : taint = nodeTaint
    · rw [if_pos (Taint.matchTaint_iff.mpr (congrArg Taint.slot same.symm)), if_pos same]
    · have later := (List.mem_cons.mp member).resolve_left same
      rw [if_neg same, ih later, ih later, ite_self]

theorem replaceTaint_of_not_mem (absent : taint ∉ taints) :
    replaceTaint taint taints newTaints updated =
    some (newTaints ++ taints.map (fun other => if other.slot = taint.slot then taint else other),
      updated || decide (taint.slot ∈ taints.map Taint.slot)) := by
  induction taints generalizing newTaints updated with
  | nil => simp [replaceTaint]
  | cons nodeTaint rest ih =>
    obtain ⟨apart, absent⟩ := not_or.mp (List.mem_cons.not.mp absent)
    unfold replaceTaint
    by_cases same : nodeTaint.slot = taint.slot
    · rw [if_pos (Taint.matchTaint_iff.mpr same), if_neg apart, ih absent]
      simp [same]
    · rw [if_neg (Taint.matchTaint_iff.not.mpr same), ih absent]
      simp [same, Ne.symm same]

/-- Nothing is changed where there is an equal taint; otherwise the taint is put in its place. -/
theorem addOrUpdateTaint_eq (node : Node ρ) (taint : Taint) : addOrUpdateTaint node taint =
    if taint ∈ node.taints then (node, false)
      else ({ node with taints := put Taint.slot taint node.taints }, true) := by
  unfold addOrUpdateTaint
  split_ifs with member
  · rw [replaceTaint_of_mem member]
  · rw [replaceTaint_of_not_mem member]
    by_cases taken : taint.slot ∈ node.taints.map Taint.slot
    · simp only [put, taken, decide_true, Bool.or_true, if_true, List.nil_append]
    · simp only [put, taken, decide_false, Bool.or_false, Bool.false_eq_true, if_false,
        List.nil_append, Go.Keyed.map_replace_of_free taken]

end Taints

inductive Request (ρ : Type) where
  | getNode (nodeName : String)
  | update (node : Node ρ)

def Request.Answer : Request ρ → Type
  | .getNode _ => Except Go.Error (Node ρ)
  | .update _ => Except Go.Error Unit

abbrev Remote (ρ α : Type) := Go.Remote (Request ρ) Request.Answer α

abbrev Event (ρ : Type) := Go.Resumption.Event (Request.Answer (ρ := ρ))

def getNodeFromK8sApi (nodeName : String) : Remote ρ (Node ρ) :=
    ExceptT.mk (Go.Resumption.perform (Request.getNode nodeName))

def update (node : Node ρ) : Remote ρ Unit :=
    ExceptT.mk (Go.Resumption.perform (Request.update node))

/-- The loop of `AddTaintsToNode`. Where nothing was updated it returns `errors.Wrapf` of a nil
error, which is nil. -/
def addTaints (node : Node ρ) : List Taint → Remote ρ Unit
  | [] => pure ()
  | taint :: rest =>
    match addOrUpdateTaint node taint with
    | (_, false) => pure ()
    | (taintedNode, true) => do
      Go.Remote.annotate "failed to update node with newly added taints: " (update taintedNode)
      addTaints node rest

/-- A slice as `%v` prints it. -/
def sliceText (items : List String) : String := "[" ++ " ".intercalate items ++ "]"

def addTaintsToNode (showTime : Int → String) (nodeName : String) (taintsToAdd : List Taint) :
    Remote ρ Unit := do
  let node ← Go.Remote.annotate
    ("failed to add taints: " ++ sliceText (taintsToAdd.map (Taint.text showTime)) ++
      " to node: " ++ nodeName ++ ": ")
    (getNodeFromK8sApi nodeName)
  addTaints node taintsToAdd

/-- What is in the store after an update of the latest version. -/
def Node.stored (node : Node ρ) : Node ρ :=
    { node with resourceVersion := node.resourceVersion + 1 }

theorem Node.stale (node : Node ρ) (taints : List Taint) :
    node.resourceVersion ≠ (Node.stored { node with taints }).resourceVersion :=
  Nat.ne_of_lt (Nat.lt_succ_self _)

/-- The API server. Any request may fail, and an update also after it was stored; one that is not
based on the latest version is rejected. -/
def Serves (stored : Node ρ) : Event ρ → Node ρ → Prop
  | ⟨.getNode _, .ok node⟩, after => node = stored ∧ after = stored
  | ⟨.getNode _, .error _⟩, after => after = stored
  | ⟨.update node, .ok ()⟩, after => node.resourceVersion = stored.resourceVersion ∧
    after = node.stored
  | ⟨.update node, .error _⟩, after =>
    after = stored ∨ node.resourceVersion = stored.resourceVersion ∧ after = node.stored

/-- The first taint of the list is there already, or there is none. -/
def Ends (node : Node ρ) (taints : List Taint) : Prop := ∀ taint ∈ taints.head?, taint ∈ node.taints

/-- The taints of the list, the last one for each key and effect, and what the node had for
others. -/
def Tainted (node : Node ρ) (taintsToAdd : List Taint) (stored : Node ρ) : Prop :=
  ∀ taint, taint ∈ stored.taints ↔ Last Taint.slot taintsToAdd taint ∨
    taint ∈ node.taints ∧ ∀ other ∈ taintsToAdd, other.slot ≠ taint.slot

/-- What the store holds when no error is returned. -/
inductive Left (node : Node ρ) : List Taint → Node ρ → Prop
  | same {taints : List Taint} (ends : Ends node taints) : Left node taints node
  | added {taint : Taint} {rest : List Taint} (absent : taint ∉ node.taints)
    (ends : Ends node rest) :
    Left node (taint :: rest) (Node.stored { node with taints := put Taint.slot taint node.taints })

section Runs
variable {node before after : Node ρ} {taint : Taint} {taints rest : List Taint} {nodeName : String}
  {trace : List (Event ρ)}

theorem addTaints_of_ends (ends : Ends node taints) : addTaints node taints = pure () := by
  cases taints with
  | nil => rfl
  | cons taint rest => rw [addTaints, addOrUpdateTaint_eq, if_pos (ends taint rfl)]

theorem runs_getNode_ok :
    Runs Serves (getNodeFromK8sApi nodeName).run before trace (.done (.ok node)) after ↔
    trace = [⟨.getNode nodeName, .ok node⟩] ∧ node = before ∧ after = before := by
  constructor
  · intro runs
    obtain ⟨answer, _, later, rfl, served, ended⟩ := runs_call_done.mp runs
    obtain ⟨rfl, same, rfl⟩ := runs_done.mp ended
    cases same
    exact ⟨rfl, served⟩
  · rintro ⟨rfl, read⟩
    exact .call read .refl

theorem runs_update_ok : Runs Serves (update node).run before trace (.done (.ok ())) after ↔
    trace = [⟨.update node, .ok ()⟩] ∧ node.resourceVersion = before.resourceVersion ∧
      after = node.stored := by
  constructor
  · intro runs
    obtain ⟨answer, _, later, rfl, served, ended⟩ := runs_call_done.mp runs
    obtain ⟨rfl, same, rfl⟩ := runs_done.mp ended
    cases same
    exact ⟨rfl, served⟩
  · rintro ⟨rfl, accepted⟩
    exact .call accepted .refl

theorem addTaints_of_absent (absent : taint ∉ node.taints) : addTaints node (taint :: rest) =
    (Go.Remote.annotate "failed to update node with newly added taints: "
      (update { node with taints := put Taint.slot taint node.taints }) >>= fun _ =>
      addTaints node rest) := by
  rw [addTaints, addOrUpdateTaint_eq, if_neg absent]

theorem runs_addTaints_stale (stale : node.resourceVersion ≠ before.resourceVersion) :
    Runs Serves (addTaints node taints).run before trace (.done (.ok ())) after ↔
      Ends node taints ∧ trace = [] ∧ after = before := by
  constructor
  · intro runs
    have ends : Ends node taints := by
      intro taint first
      by_contra absent
      obtain ⟨rest, rfl⟩ := List.head?_eq_some_iff.mp first
      rw [addTaints_of_absent absent] at runs
      obtain ⟨_, _, _, _, -, updates, -⟩ := runs_bind_ok.mp runs
      obtain ⟨-, latest, -⟩ := runs_update_ok.mp (runs_mapError_ok.mp updates)
      exact stale latest
    rw [addTaints_of_ends ends] at runs
    obtain ⟨rfl, -, rfl⟩ := runs_done.mp runs
    exact ⟨ends, rfl, rfl⟩
  · rintro ⟨ends, rfl, rfl⟩
    rw [addTaints_of_ends ends]
    exact .refl

theorem runs_addTaintsToNode :
    (∃ trace,
      Runs Serves (addTaintsToNode showTime nodeName taints).run node trace (.done (.ok ()))
      after) ↔ Left node taints after := by
  constructor
  · rintro ⟨trace, runs⟩
    obtain ⟨_, _, current, _, -, reads, adds⟩ := runs_bind_ok.mp runs
    obtain ⟨-, rfl, rfl⟩ := runs_getNode_ok.mp (runs_mapError_ok.mp reads)
    by_cases ends : Ends current taints
    · rw [addTaints_of_ends ends] at adds
      obtain ⟨-, -, rfl⟩ := runs_done.mp adds
      exact .same ends
    · obtain ⟨taint, first, absent⟩ : ∃ taint ∈ taints.head?, taint ∉ current.taints := by simpa [Ends] using ends
      obtain ⟨rest, rfl⟩ := List.head?_eq_some_iff.mp first
      rw [addTaints_of_absent absent] at adds
      obtain ⟨_, _, _, _, -, updates, others⟩ := runs_bind_ok.mp adds
      obtain ⟨-, -, rfl⟩ := runs_update_ok.mp (runs_mapError_ok.mp updates)
      obtain ⟨ends, -, rfl⟩ := (runs_addTaints_stale (current.stale _)).mp others
      exact .added absent ends
  · intro left
    have reading {later : List (Event ρ)}
      (adds : Runs Serves (addTaints node taints).run node later (.done (.ok ())) after) :
        ∃ trace, Runs Serves (addTaintsToNode showTime nodeName taints).run node trace (.done (.ok ())) after :=
      ⟨_, runs_bind_ok.mpr
        ⟨_, node, node, later, rfl, runs_mapError_ok.mpr (runs_getNode_ok.mpr ⟨rfl, rfl, rfl⟩),
          adds⟩⟩
    cases left with
    | same ends =>
      apply reading
      rw [addTaints_of_ends ends]
      exact .refl
    | @added taint rest absent ends =>
      apply reading
      rw [addTaints_of_absent absent]
      have rests := (runs_addTaints_stale (node.stale (put Taint.slot taint node.taints))).mpr ⟨ends, rfl, rfl⟩
      exact runs_bind_ok.mpr ⟨_, _, _, _, rfl, runs_mapError_ok.mpr (runs_update_ok.mpr ⟨rfl, rfl, rfl⟩), rests⟩

end Runs

/-- Where one of the first two taints is there already, every taint that is to be there at the end
is there too, or is the first one. -/
def Covered (node : Node ρ) : List Taint → Prop
  | first :: second :: rest => first ∈ node.taints ∨ second ∈ node.taints → ∀ taint,
    Last Taint.slot (first :: second :: rest) taint → taint = first ∨ taint ∈ node.taints ∧
      taint.slot ≠ first.slot
  | _ => True

section Wanted
variable {node stored : Node ρ} {taints : List Taint}

theorem tainted_of (distinct : (stored.taints.map Taint.slot).Nodup)
    (last : ∀ taint, Last Taint.slot taints taint → taint ∈ stored.taints)
    (other : ∀ taint, taint.slot ∉ taints.map Taint.slot →
      (taint ∈ stored.taints ↔ taint ∈ node.taints)) : Tainted node taints stored := by
  intro taint
  constructor
  · intro member
    by_cases listed : taint.slot ∈ taints.map Taint.slot
    · obtain ⟨wins, isLast, same⟩ := Go.Keyed.exists_last listed
      obtain rfl : wins = taint := List.inj_on_of_nodup_map distinct (last wins isLast) member same
      exact .inl isLast
    · refine .inr ⟨(other taint listed).mp member, fun added inside same => ?_⟩
      exact listed (same ▸ List.mem_map_of_mem inside)
  · rintro (isLast | ⟨member, apart⟩)
    · exact last taint isLast
    · refine (other taint ?_).mpr member
      intro listed
      obtain ⟨added, inside, same⟩ := List.mem_map.mp listed
      exact apart added inside same

/-- The stored node has the taints that it should have, whenever no error is returned, exactly where
the list is covered. -/
theorem addTaintsToNode_tainted_iff (showTime : Int → String) (nodeName : String) (node : Node ρ)
    (taintsToAdd : List Taint) (distinct : (node.taints.map Taint.slot).Nodup) :
    (∀ trace stored,
      Runs Serves (addTaintsToNode showTime nodeName taintsToAdd).run node trace (.done (.ok ()))
      stored → Tainted node taintsToAdd stored) ↔ Covered node taintsToAdd := by
  constructor
  · intro tainted
    have returned {stored : Node ρ} (left : Left node taintsToAdd stored) : Tainted node taintsToAdd stored := by
      obtain ⟨trace, runs⟩ := runs_addTaintsToNode.mpr left
      exact tainted trace stored runs
    clear tainted
    match taintsToAdd with
    | [] | [_] => trivial
    | first :: second :: rest =>
      intro there taint last
      by_cases present : first ∈ node.taints
      · have member := (returned (.same fun _ same => Option.some.inj same ▸ present) taint).mpr (.inl last)
        by_cases same : taint.slot = first.slot
        · exact .inl (List.inj_on_of_nodup_map distinct member present same)
        · exact .inr ⟨member, same⟩
      · have second := there.resolve_left present
        exact Go.Keyed.mem_put.mp
          ((returned (.added present fun _ same => Option.some.inj same ▸ second) taint).mpr
            (.inl last))
  · intro covered trace stored runs
    have left := runs_addTaintsToNode.mp ⟨trace, runs⟩
    clear runs
    cases left with
    | same ends =>
      refine tainted_of distinct ?_ fun _ _ => Iff.rfl
      intro taint last
      match taintsToAdd with
      | [] => exact absurd last.mem List.not_mem_nil
      | [only] => exact List.mem_singleton.mp last.mem ▸ ends only rfl
      | first :: second :: rest =>
        obtain rfl | ⟨member, -⟩ := covered (.inl (ends first rfl)) taint last
        · exact ends taint rfl
        · exact member
    | @added first rest absent ends =>
      apply tainted_of (Go.Keyed.distinct_put distinct)
      · intro taint last
        match rest with
        | [] => exact Go.Keyed.mem_put.mpr (.inl (List.mem_singleton.mp last.mem))
        | second :: rest => exact Go.Keyed.mem_put.mpr (covered (.inr (ends second rfl)) taint last)
      · intro taint unlisted
        have apart : taint.slot ≠ first.slot := fun same => unlisted (same ▸ List.mem_cons_self)
        simp only [Node.stored, Go.Keyed.mem_put, and_iff_left apart]
        exact or_iff_right fun same => apart (congrArg Taint.slot same)

end Wanted

def master : Taint :=
    { key := "node-role.kubernetes.io/master", value := "true", effect := "NoSchedule" }

def dedicated : Taint := { key := "dedicated", value := "storage", effect := "NoExecute" }

def masterNode : Node Unit := ⟨1, [master], ()⟩

theorem addTaintsToNode_tainted_dedicated :
    (masterNode.taints.map Taint.slot).Nodup ∧ dedicated ∉ masterNode.taints ∧
    ∀ trace stored, Runs Serves (addTaintsToNode toString "10.0.0.1" [dedicated, master]).run
      masterNode trace (.done (.ok ())) stored → Tainted masterNode [dedicated, master] stored := by
  have covered : Covered masterNode [dedicated, master] := by
    intro _ taint last
    obtain rfl | rfl : taint = dedicated ∨ taint = master := by simpa using last.mem
    · exact .inl rfl
    · exact .inr (by decide)
  refine ⟨by decide, by decide, ?_⟩
  exact (addTaintsToNode_tainted_iff toString "10.0.0.1" masterNode [dedicated, master]
    (by decide)).mpr covered

/-- The second taint is not added, since the first one is there already; no error is returned. -/
theorem present_taint_hides_missing : ∃ trace stored,
    Runs Serves (addTaintsToNode toString "10.0.0.1" [master, dedicated]).run masterNode trace
      (.done (.ok ())) stored ∧ dedicated ∉ stored.taints := by
  have ends : Ends masterNode [master, dedicated] := by
    rintro _ ⟨⟩
    exact List.mem_cons_self
  obtain ⟨trace, runs⟩ := runs_addTaintsToNode.mpr (.same ends)
  exact ⟨trace, masterNode, runs, by decide⟩

end Nodelet.Kubeutils
