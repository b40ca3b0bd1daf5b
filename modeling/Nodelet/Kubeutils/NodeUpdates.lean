import Nodelet.Go.Map
import Nodelet.Go.Optimistic
import Nodelet.Kubeutils.Taints

/-! The labels, annotations and taints of a node, which are changed by several processes at a time.
The API server rejects what is not based on the latest version, so that no update undoes another. -/
namespace Nodelet.Kubeutils
open Go (Error Resumption)
open Go.Keyed (put)
open Go.Optimistic (Versioned Jobs Effect Serial Store serializes)
open Transition (Reaches)

/-- A nil map is not an empty one. -/
structure ObjectMeta (ρ : Type) where
  labels : Option (Go.Map String String)
  annotations : Option (Go.Map String String)
  rest : ρ

/-- The entries of another map, in the order in which it is visited. -/
def putAll (m : Option (Go.Map String String)) (order : List (String × String)) :
    Go.Map String String :=
  order.foldl (fun m entry => m.insert entry.1 entry.2) (m.getD ∅)

namespace ObjectMeta
variable {ρ : Type}

def addLabels (info : ObjectMeta ρ) (labelsToAdd : List (String × String)) : ObjectMeta ρ :=
  { info with labels := some (putAll info.labels labelsToAdd) }

def addAnnotations (info : ObjectMeta ρ) (annotsToAdd : List (String × String)) : ObjectMeta ρ :=
  { info with annotations := some (putAll info.annotations annotsToAdd) }

/-- Nothing is to be removed from a nil map. -/
def removeAnnotations (info : ObjectMeta ρ) (annotsToRemove : List String) :
    Option (ObjectMeta ρ) :=
  info.annotations.map fun annotations =>
    { info with annotations := some (annotsToRemove.foldl (fun m name => m.erase name) annotations) }

end ObjectMeta

section Source
variable {ρ : Type} (nodeName : String)

/-- A map as `%v` prints it, in the order of the keys. -/
def mapText (entries : List (String × String)) : String :=
  "map" ++ sliceText ((entries.mergeSort fun a b => a.1 ≤ b.1).map fun entry =>
    entry.1 ++ ":" ++ entry.2)

def addLabelsToNode (labelsToAdd : List (String × String)) : Remote (ObjectMeta ρ) Unit := do
  let node ← Go.Remote.annotate
    ("failed to add labels: " ++ mapText labelsToAdd ++ " to node: " ++ nodeName ++ ": ")
    (getNodeFromK8sApi nodeName)
  Go.Remote.annotate "failed to update node with newly added labels: "
    (update { node with rest := node.rest.addLabels labelsToAdd })

def addAnnotationsToNode (annotsToAdd : List (String × String)) : Remote (ObjectMeta ρ) Unit := do
  let node ← Go.Remote.annotate
    ("failed to add annotations: " ++ mapText annotsToAdd ++ " to node: " ++ nodeName ++ ": ")
    (getNodeFromK8sApi nodeName)
  Go.Remote.annotate "failed to update node with newly added annotations: "
    (update { node with rest := node.rest.addAnnotations annotsToAdd })

def removeAnnotationsFromNode (annotsToRemove : List String) : Remote (ObjectMeta ρ) Unit := do
  let node ← Go.Remote.annotate
    ("failed to remove annotations: " ++ sliceText annotsToRemove ++ " from node: " ++ nodeName ++
      ": ")
    (getNodeFromK8sApi nodeName)
  match node.rest.removeAnnotations annotsToRemove with
  | none => pure ()
  | some info =>
    Go.Remote.annotate "failed to update node with removed annotations: "
      (update { node with rest := info })

end Source

/-- What a process does to the node. -/
inductive NodeUpdate where
  | addLabels (labelsToAdd : List (String × String))
  | addAnnotations (annotsToAdd : List (String × String))
  | removeAnnotations (annotsToRemove : List String)
  | addTaints (taintsToAdd : List Taint)

def NodeUpdate.program {ρ : Type} (showTime : Int → String) (nodeName : String) :
    NodeUpdate → Remote (ObjectMeta ρ) Unit
  | .addLabels labelsToAdd => addLabelsToNode nodeName labelsToAdd
  | .addAnnotations annotsToAdd => addAnnotationsToNode nodeName annotsToAdd
  | .removeAnnotations annotsToRemove => removeAnnotationsFromNode nodeName annotsToRemove
  | .addTaints taintsToAdd => addTaintsToNode showTime nodeName taintsToAdd

/-- A node without its version. -/
structure Contents (ρ : Type) where
  taints : List Taint
  info : ObjectMeta ρ

section Store
variable {ρ : Type} (showTime : Int → String) (nodeName : String)

def Contents.node (s : Versioned (Contents ρ)) : Node (ObjectMeta ρ) :=
    ⟨s.version, s.value.taints, s.value.info⟩

/-- The requests as the store sees them. -/
def implement : (request : Request (ObjectMeta ρ)) →
    Resumption (Go.Optimistic.Request (Contents ρ)) Go.Optimistic.Request.Answer request.Answer
  | .getNode _ => .call .read fun (answer : Except Error (Versioned (Contents ρ))) =>
    .done (answer.map Contents.node)
  | .update node => .call (.write node.resourceVersion ⟨node.taints, node.rest⟩) .done

namespace NodeUpdate

/-- What is written, one after the other, if the node was this. -/
def writes : NodeUpdate → Contents ρ → List (Contents ρ)
  | .addLabels labelsToAdd, node => [{ node with info := node.info.addLabels labelsToAdd }]
  | .addAnnotations annotsToAdd, node =>
    [{ node with info := node.info.addAnnotations annotsToAdd }]
  | .removeAnnotations annotsToRemove, node =>
    ((node.info.removeAnnotations annotsToRemove).map fun info => { node with info }).toList
  | .addTaints taintsToAdd, node =>
    (taintsToAdd.takeWhile (· ∉ node.taints)).map fun taint =>
      { node with taints := put Taint.slot taint node.taints }

def readError (job : NodeUpdate) : Error :=
  match job with
  | .addLabels labelsToAdd =>
    "failed to add labels: " ++ mapText labelsToAdd ++ " to node: " ++ nodeName ++ ": "
  | .addAnnotations annotsToAdd =>
    "failed to add annotations: " ++ mapText annotsToAdd ++ " to node: " ++ nodeName ++ ": "
  | .removeAnnotations annotsToRemove =>
    "failed to remove annotations: " ++ sliceText annotsToRemove ++ " from node: " ++ nodeName ++
      ": "
  | .addTaints taintsToAdd =>
    "failed to add taints: " ++ sliceText (taintsToAdd.map (Taint.text showTime)) ++
      " to node: " ++ nodeName ++ ": "

def writeError : NodeUpdate → Error
  | .addLabels _ => "failed to update node with newly added labels: "
  | .addAnnotations _ => "failed to update node with newly added annotations: "
  | .removeAnnotations _ => "failed to update node with removed annotations: "
  | .addTaints _ => "failed to update node with newly added taints: "

end NodeUpdate

/-- The updates as jobs of the store. -/
def nodeUpdates : Jobs (Contents ρ) NodeUpdate where
  writes job := job.writes
  readError job err := job.readError showTime nodeName ++ err
  writeError job err := job.writeError ++ err

theorem translate_update (message : String) (node : Node (ObjectMeta ρ)) :
    (Go.Remote.annotate message (update node)).run.translate implement =
      Go.Optimistic.attempt (message ++ ·) node.resourceVersion [⟨node.taints, node.rest⟩] := by
  refine congrArg (Resumption.call _) (funext fun answer => ?_)
  cases answer with
  | ok => rfl
  | error err => rfl

theorem translate_update_bind (message : String) (node : Node (ObjectMeta ρ))
    (next : Remote (ObjectMeta ρ) Unit) (rest : List (Contents ρ))
    (later : next.run.translate implement =
      Go.Optimistic.attempt (message ++ ·) node.resourceVersion rest) :
    (Go.Remote.annotate message (update node) >>= fun _ => next).run.translate implement =
      Go.Optimistic.attempt (message ++ ·) node.resourceVersion
      (⟨node.taints, node.rest⟩ :: rest) := by
  refine congrArg (Resumption.call _) (funext fun answer => ?_)
  cases answer with
  | ok => exact later
  | error err => rfl

theorem translate_addTaints (s : Versioned (Contents ρ)) (taints : List Taint) :
    (addTaints (Contents.node s) taints).run.translate implement =
      Go.Optimistic.attempt ("failed to update node with newly added taints: " ++ ·) s.version
        ((NodeUpdate.addTaints taints).writes s.value) := by
  induction taints with
  | nil => rfl
  | cons taint rest ih =>
    by_cases present : taint ∈ s.value.taints
    · have ends : Ends (Contents.node s) (taint :: rest) := by
        rintro _ ⟨⟩
        exact present
      rw [addTaints_of_ends ends, NodeUpdate.writes, List.takeWhile_cons_of_neg (by simpa using present)]
      rfl
    · rw [addTaints_of_absent present, NodeUpdate.writes, List.takeWhile_cons_of_pos (by simpa using present),
        List.map_cons]
      exact translate_update_bind _ { Contents.node s with taints := put Taint.slot taint s.value.taints } _ _ ih

theorem translate_read (job : NodeUpdate) (next : Node (ObjectMeta ρ) → Remote (ObjectMeta ρ) Unit)
    (later : ∀ s, (next (Contents.node s)).run.translate implement =
      Go.Optimistic.attempt (job.writeError ++ ·) s.version (job.writes s.value)) :
    (Go.Remote.annotate (job.readError showTime nodeName) (getNodeFromK8sApi nodeName) >>=
      next).run.translate implement = (nodeUpdates showTime nodeName).program job := by
  refine congrArg (Resumption.call _) (funext fun answer => ?_)
  cases answer with
  | ok s => exact later s
  | error err => rfl

/-- The source's programs are jobs of the store. -/
theorem program_eq (job : NodeUpdate) :
    (job.program showTime nodeName : Remote (ObjectMeta ρ) Unit).run.translate implement =
    (nodeUpdates showTime nodeName).program job := by
  cases job with
  | addLabels labelsToAdd => exact translate_read showTime nodeName (.addLabels _) _ fun s => translate_update _ _
  | addAnnotations annotsToAdd =>
    exact translate_read showTime nodeName (.addAnnotations _) _ fun s => translate_update _ _
  | addTaints taintsToAdd => exact translate_read showTime nodeName (.addTaints _) _ fun s => translate_addTaints s taintsToAdd
  | removeAnnotations annotsToRemove =>
    refine translate_read showTime nodeName (.removeAnnotations _) _ fun s => ?_
    have same : (Contents.node s).rest.removeAnnotations annotsToRemove =
        s.value.info.removeAnnotations annotsToRemove := rfl
    rw [same, NodeUpdate.writes]
    cases s.value.info.removeAnnotations annotsToRemove with
    | none => rfl
    | some info => exact translate_update _ _

/-- Processes that each make one update, and others that change the node as they like. -/
def nodeMachine (ρ : Type) (showTime : Int → String) (nodeName : String) :
    Go.Machine (Versioned (Contents ρ)) NodeUpdate Go.Optimistic.Reply
    (Contents ρ → Contents ρ) (Go.Optimistic.Request.Answer (V := Contents ρ)) (Except Error Unit)
      where
  program job := (job.program showTime nodeName).run.translate implement
  serve := Go.Optimistic.serve
  move change s := some ⟨s.version + 1, change s.value⟩

theorem nodeMachine_eq :
    nodeMachine ρ showTime nodeName = (nodeUpdates showTime nodeName).machine := by
  unfold nodeMachine Jobs.machine
  congr
  exact funext (program_eq showTime nodeName)

/-- What an update does to the node if nobody else is there. -/
def NodeUpdate.effect (node : Contents ρ) : NodeUpdate → Contents ρ
  | .addLabels labelsToAdd => { node with info := node.info.addLabels labelsToAdd }
  | .addAnnotations annotsToAdd => { node with info := node.info.addAnnotations annotsToAdd }
  | .removeAnnotations annotsToRemove =>
    { node with info := (node.info.removeAnnotations annotsToRemove).getD node.info }
  | .addTaints [] => node
  | .addTaints (taint :: _) =>
    -- the second taint is put into the node as it was read, which is then outdated
    { node with taints := if taint ∈ node.taints then node.taints else put Taint.slot taint node.taints }

/-- The node after an update or after what others did. -/
def Contents.after (node : Contents ρ) : Effect (Contents ρ) NodeUpdate → Contents ρ
  | .update _ job => job.effect node
  | .move change => change node

theorem apply_eq (node : Contents ρ) (effect : Effect (Contents ρ) NodeUpdate) :
    (nodeUpdates showTime nodeName).apply node effect = node.after effect := by
  cases effect with
  | move change => rfl
  | update i job =>
    change (job.writes node).head?.getD node = job.effect node
    cases job with
    | addLabels | addAnnotations => rfl
    | removeAnnotations annotsToRemove =>
      rw [NodeUpdate.writes, NodeUpdate.effect]
      cases node.info.removeAnnotations annotsToRemove <;> rfl
    | addTaints taintsToAdd =>
      cases taintsToAdd with
      | nil => rfl
      | cons taint rest =>
        rw [NodeUpdate.writes, NodeUpdate.effect]
        by_cases present : taint ∈ node.taints
        · rw [List.takeWhile_cons_of_neg (by simpa using present), if_pos present]
          rfl
        · rw [List.takeWhile_cons_of_pos (by simpa using present), if_neg present]
          rfl

section Interleaved
variable {showTime : Int → String} {nodeName : String} {s : Versioned (Contents ρ)}
  {pool : Store (Contents ρ) NodeUpdate}
  {permitted : Go.Threads.Choice NodeUpdate Go.Optimistic.Reply (Contents ρ → Contents ρ) →
    Store (Contents ρ) NodeUpdate → Prop}

/-- However the requests of all processes interleave, and whichever of them fail or get lost, the
node is what it would be if updates were made one after the other: each at most once, and all that
were reported as made. -/
theorem node_updates_serialize
    (reached : Reaches (nodeMachine ρ showTime nodeName).step permitted { shared := s } pool) :
    ∃ effects :
    List (Effect (Contents ρ) NodeUpdate), pool.shared.value =
      effects.foldl Contents.after s.value ∧ (Go.Optimistic.happened effects).Nodup ∧
      (∀ i job, .update i job ∈ effects → (pool.threads[i]?).map Go.Threads.Thread.job = some job) ∧
      ∀ i job, pool.result i = some (job, .ok ()) → .update i job ∈ effects := by
  rw [nodeMachine_eq] at reached
  obtain ⟨effects, serial, returned⟩ := serializes (fun _ => True) (fun _ _ _ => trivial) reached
  have same : (nodeUpdates showTime nodeName).apply = Contents.after (ρ := ρ) :=
    funext₂ (apply_eq showTime nodeName)
  exact ⟨effects, same ▸ serial.value, serial.once, serial.known, returned⟩

/-- A label and an annotation are added at the same time. The update of the label is based on an old
version and has to be made again. -/
def interleaved :
    List (Go.Threads.Choice NodeUpdate Go.Optimistic.Reply (Contents Unit → Contents Unit)) :=
  [.spawn (.addLabels [("role", "master")]), .spawn (.addAnnotations [("UserNodeCordon", "true")]),
    .run 0 .answers,
    .run 1 .answers, .run 1 .answers, .run 0 .answers, .spawn (.addLabels [("role", "master")]),
      .run 2 .answers,
    .run 2 (.loses "timeout"), .spawn (.addLabels [("role", "master")]), .run 3 .answers,
      .run 3 .answers]

def unlabelled : Versioned (Contents Unit) := ⟨1, [], none, none, ()⟩

/-- Nobody else changes the node. -/
def alone
    (choice : Go.Threads.Choice NodeUpdate Go.Optimistic.Reply (Contents Unit → Contents Unit))
    (_ : Store (Contents Unit) NodeUpdate) : Bool :=
  match choice with
  | .move _ => false
  | _ => true

theorem follow_interleaved :
    ∃ pool, Reaches (nodeMachine Unit toString "host").step (fun choice pool => alone choice pool)
      { shared := unlabelled } pool ∧
      pool.result 3 = some (.addLabels [("role", "master")], .ok ()) ∧
    pool.threads.map Go.Threads.Thread.job = [.addLabels [("role", "master")],
      .addAnnotations [("UserNodeCordon", "true")], .addLabels [("role", "master")],
      .addLabels [("role", "master")]] := by
  have followed :
    Transition.follow (nodeMachine Unit toString "host").step (fun choice pool =>
      alone choice pool) interleaved { shared := unlabelled } = some _ := rfl
  exact ⟨_, Transition.follow_reaches followed, rfl, rfl⟩

theorem node_updates_serialize_interleaved : ∃ (pool : Store (Contents Unit) NodeUpdate)
    (effects : List (Effect (Contents Unit) NodeUpdate)),
    pool.shared.value = effects.foldl Contents.after unlabelled.value ∧
      (Go.Optimistic.happened effects).Nodup ∧
      .update 3 (.addLabels [("role", "master")]) ∈ effects := by
  obtain ⟨pool, reached, returned, -⟩ := follow_interleaved
  obtain ⟨effects, value, once, -, happened⟩ := node_updates_serialize reached
  exact ⟨pool, effects, value, once, happened 3 _ returned⟩

def Contents.label (node : Contents ρ) (key : String) : Option String :=
    node.info.labels.bind (·.lookup key)

variable {order : List (String × String)} {node : Contents ρ}

theorem lookup_foldl_insert {m : Go.Map String String}
    (agree : ∀ other, (key, other) ∈ order → other = value)
    (known : (key, value) ∈ order ∨ m.lookup key = some value) :
    (order.foldl (fun m entry => m.insert entry.1 entry.2) m).lookup key = some value := by
  induction order generalizing m with
  | nil => simpa using known
  | cons entry rest ih =>
    refine ih (fun other member => agree other (List.mem_cons_of_mem _ member)) ?_
    by_cases same : entry.1 = key
    · subst same
      obtain rfl := agree entry.2 List.mem_cons_self
      exact .inr (Finmap.lookup_insert m)
    · dsimp only
      rw [Finmap.lookup_insert_of_ne m (Ne.symm same)]
      exact known.imp_left fun member => (List.mem_cons.mp member).resolve_left fun here =>
        same (congrArg Prod.fst here.symm)

theorem label_addLabels (agree : ∀ other, (key, other) ∈ order → other = value)
    (known : (key, value) ∈ order ∨ node.label key = some value) :
    (NodeUpdate.effect node (.addLabels order)).label key = some value := by
  refine lookup_foldl_insert agree (known.imp_right fun found => ?_)
  obtain ⟨labels, there, found⟩ := Option.bind_eq_some_iff.mp found
  rw [there]
  exact found

/-- The other updates leave the labels alone. -/
theorem label_effect {job : NodeUpdate} (other : ∀ order, job ≠ .addLabels order) :
    (job.effect node).label key = node.label key := by
  cases job with
  | addLabels order => exact absurd rfl (other order)
  | addAnnotations => rfl
  | removeAnnotations annotsToRemove =>
    rw [NodeUpdate.effect, ObjectMeta.removeAnnotations]
    cases node.info.annotations <;> rfl
  | addTaints taintsToAdd => cases taintsToAdd <;> rfl

/-- A label that was added stays what it is, as long as no other update gives it another value and
nobody else touches it. -/
theorem added_label_stays
    (reached : Reaches (nodeMachine ρ showTime nodeName).step permitted { shared := s } pool)
    (returned : pool.result i = some (.addLabels labelsToAdd, .ok ()))
    (added : (key, value) ∈ labelsToAdd)
    (agree : ∀ thread ∈ pool.threads, ∀ order other, thread.job = .addLabels order →
      (key, other) ∈ order → other = value)
    (apart : ∀ change pool, permitted (.move change) pool →
      ∀ node, (change node).label key = node.label key) :
    pool.shared.value.label key = some value := by
  rw [nodeMachine_eq] at reached
  obtain ⟨effects, serial, happened⟩ := serializes _ apart reached
  have agrees (i : Nat) (order : List (String × String))
    (member : .update i (.addLabels order) ∈ effects) :
      ∀ other, (key, other) ∈ order → other = value := by
    obtain ⟨thread, found, same⟩ := Option.map_eq_some_iff.mp (serial.known i _ member)
    exact fun other => agree thread (List.mem_of_getElem? found) order other same
  -- after the update of this thread every effect keeps the label
  have keeps (node : Contents ρ) (effect : Effect (Contents ρ) NodeUpdate)
    (member : effect ∈ effects)
      (known : node.label key = some value) : (node.after effect).label key = some value := by
    cases effect with
    | move change => exact (serial.moves change member node).trans known
    | update j job =>
      by_cases labels : ∃ order, job = .addLabels order
      · obtain ⟨order, rfl⟩ := labels
        exact label_addLabels (agrees j order member) (.inr known)
      · exact (label_effect fun order same => labels ⟨order, same⟩).trans known
  obtain ⟨before, after, split⟩ := List.append_of_mem (happened i _ returned)
  have same : (nodeUpdates showTime nodeName).apply = Contents.after (ρ := ρ) :=
    funext₂ (apply_eq showTime nodeName)
  rw [serial.value, same, split, List.foldl_append, List.foldl_cons]
  have made :
      (NodeUpdate.effect (before.foldl Contents.after s.value) (.addLabels labelsToAdd)).label
        key = some value :=
    label_addLabels (agrees i labelsToAdd (happened i _ returned)) (.inl added)
  refine List.foldlRecOn (motive := fun node => node.label key = some value) after Contents.after
    made ?_
  intro node known effect member
  exact keeps node effect (by simp [split, member]) known

theorem added_label_stays_interleaved : ∃ pool, Reaches (nodeMachine Unit toString "host").step
      (fun choice pool => alone choice pool) { shared := unlabelled } pool ∧
    pool.shared.value.label "role" = some "master" := by
  obtain ⟨pool, reached, returned, jobs⟩ := follow_interleaved
  refine ⟨pool, reached, added_label_stays reached returned List.mem_cons_self ?_ ?_⟩
  · intro thread member order other same inside
    have job := List.mem_map_of_mem (f := Go.Threads.Thread.job) member
    rw [jobs, same] at job
    obtain rfl : order = [("role", "master")] := by simpa using job
    simpa using inside
  · intro change pool moved
    contradiction

end Interleaved
end Store
end Nodelet.Kubeutils
