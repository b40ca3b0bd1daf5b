import Nodelet.Cordon

/-! How a property of the cordon is proved of all interleavings: an invariant between
operations, and for each operation a proof outline that is stable under what the
user may do while it runs. -/
namespace Nodelet.Cordon
open Go (Surroundings)

/-- The parts of a proof: which steps are allowed, what holds between operations and
all along, the user's moves during an operation, and what an operation leaves when it
fails and when it returns. -/
structure Plan where
  allowed : Choice → System → Prop
  idle : Cluster → Prop
  inv : Cluster → Prop
  moves : Operation → Cluster → Cluster → Prop
  failed : Operation → Cluster → Prop
  post : Operation → Outcome → Cluster → Prop

namespace Plan

def around (plan : Plan) (operation : Operation) : Surroundings Cluster Request Request.Answer where
  answers request c answer c' := ∃ reply node, serve reply request c.node = some (answer, node) ∧
    c' = { c with node := node }
  fails request c c' := c' = c ∨
    ∃ reply answer node, serve reply request c.node = some (answer, node) ∧
    c' = { c with node := node }
  moves := plan.moves operation
  inv := plan.inv
  failed := plan.failed operation

def Fine (plan : Plan) (s : System) : Prop :=
  match s.running with
  | none => plan.idle s.cluster
  | some (operation, program) =>
    (plan.around operation).Held (plan.post operation) program s.cluster

structure Correct (plan : Plan) : Prop where
  inv : ∀ c, plan.idle c → plan.inv c
  user : ∀ c action, plan.idle c → plan.idle (c.act action)
  moves : ∀ c operation program action, plan.allowed (.user action) ⟨c, some (operation, program)⟩ →
    plan.moves operation c (c.act action)
  begin : ∀ c operation, plan.idle c → plan.allowed (.begin operation) ⟨c, none⟩ →
    (plan.around operation).Held (plan.post operation) operation.program
      { c with undisturbed := true }
  fail : ∀ s t effect operation program, s.running = some (operation, program) →
    plan.allowed (.fail effect) s → step (.fail effect) s = some t →
      plan.failed operation t.cluster → plan.idle t.cluster
  finish : ∀ c operation outcome, plan.post operation outcome c →
    plan.idle (c.finish operation outcome)

variable {plan : Plan} {s t : System}

theorem Correct.step (correct : plan.Correct) (fine : plan.Fine s) (allowed : plan.allowed choice s)
    (taken : Cordon.step choice s = some t) : plan.Fine t := by
  cases step_stepped taken with
  | @user c running action =>
    match running, fine with
    | none, idle => exact correct.user c action idle
    | some (operation, program), held =>
      exact held.moved (correct.moves c operation program action allowed)
  | @begin c operation => exact correct.begin c operation fine allowed
  | answered served => exact fine.answered ⟨_, _, served, rfl⟩
  | failed => exact correct.fail _ _ none _ _ rfl allowed taken (fine.failed (.inl rfl))
  | failedLate served =>
    exact correct.fail _ _ (some _) _ _ rfl allowed taken
      (fine.failed (.inr ⟨_, _, _, served, rfl⟩))
  | finished => exact correct.finish _ _ _ fine.returned

theorem Correct.run (correct : plan.Correct) (run : Run plan.allowed s t) (fine : plan.Fine s) :
    plan.Fine t := by
  induction run with
  | refl => exact fine
  | next _ allowed taken ih => exact correct.step ih allowed taken

theorem Correct.inv_of_run (correct : plan.Correct) (run : Run plan.allowed s t)
    (fine : plan.Fine s) : plan.inv t.cluster := by
  have reached := correct.run run fine
  obtain ⟨c, running⟩ := t
  match running, reached with
  | none, idle => exact correct.inv c idle
  | some (operation, program), held => exact held.inv

end Plan

/-- The node that was read is still there, or has been changed since. -/
def Seen (node : Node) (c : Cluster) : Prop :=
  c.node = node ∨ node.resourceVersion < c.node.resourceVersion

theorem Seen.act {c : Cluster} (seen : Seen node c) (action : UserAction) :
    Seen node (c.act action) := by
  refine .inr ?_
  rcases seen with rfl | older
  · exact Nat.lt_succ_self _
  · exact Nat.lt_succ_of_lt older

/-- An update is accepted only of the node as it is. -/
theorem Seen.current {node changed : Node} {c : Cluster} (seen : Seen node c)
    (served : serve reply (.updateNode changed) c.node = some (answer, after))
    (version : changed.resourceVersion = node.resourceVersion) :
    c.node = node ∧ after = changed.touched := by
  simp only [serve] at served
  split_ifs at served with current
  cases served
  refine ⟨seen.resolve_right ?_, rfl⟩
  omega

/-- A request that leaves the node as it is. -/
def Request.quiet : Request → Bool
  | .updateNode _ | .patchUnschedulable _ => false
  | _ => true

variable {request : Request}

theorem Request.node_of_quiet {node after : Node}
    (quiet : request.quiet = true) (served : serve reply request node = some (answer, after)) :
    after = node := by
  cases request with
  | updateNode | patchUnschedulable => contradiction
  | _ =>
    cases served
    rfl

def Cluster.annotate (c : Cluster) (change : Annotations → Annotations) : Cluster :=
  { c with node := { c.node with annotations := some (change (c.node.annotations.getD {})) }.touched }

def Cluster.schedule (c : Cluster) (unschedulable : Bool) : Cluster :=
  { c with node := { c.node with unschedulable := unschedulable }.touched }

namespace Cluster
variable (c : Cluster) (change : Annotations → Annotations) (b : Bool) (action : UserAction)

@[simp] theorem act_cordoned : (c.act action).cordoned ↔ action = .cordon := by simp [act, cordoned]
@[simp] theorem act_unschedulable :
    (c.act action).node.unschedulable = decide (action = .cordon) := rfl
@[simp] theorem act_noticed : (c.act action).noticed = false := rfl
@[simp] theorem act_undisturbed : (c.act action).undisturbed = false := rfl
@[simp] theorem annotate_cordoned : (c.annotate change).cordoned ↔ c.cordoned := Iff.rfl
@[simp] theorem annotate_unschedulable :
    (c.annotate change).node.unschedulable = c.node.unschedulable := rfl
@[simp] theorem annotate_noticed : (c.annotate change).noticed = c.noticed := rfl
@[simp] theorem annotate_undisturbed : (c.annotate change).undisturbed = c.undisturbed := rfl
@[simp] theorem annotate_userNodeCordon :
    (c.annotate change).node.userNodeCordon =
      (change (c.node.annotations.getD {})).userNodeCordon := rfl
@[simp] theorem annotate_kubeStackShutDown :
    (c.annotate change).node.kubeStackShutDown =
      (change (c.node.annotations.getD {})).kubeStackShutDown := rfl
@[simp] theorem schedule_cordoned : (c.schedule b).cordoned ↔ c.cordoned := Iff.rfl
@[simp] theorem schedule_unschedulable : (c.schedule b).node.unschedulable = b := rfl
@[simp] theorem schedule_noticed : (c.schedule b).noticed = c.noticed := rfl
@[simp] theorem schedule_undisturbed : (c.schedule b).undisturbed = c.undisturbed := rfl
@[simp] theorem schedule_userNodeCordon :
    (c.schedule b).node.userNodeCordon = c.node.userNodeCordon := rfl

end Cluster

section Rules
variable {plan : Plan} {operation : Operation} {post : α → Cluster → Prop} {P R : Cluster → Prop}

/-- An assertion that also covers a failure of the next call. -/
structure Plan.Point (plan : Plan) (operation : Operation) (P : Cluster → Prop) : Prop where
  stable : ∀ c action, plan.moves operation c (c.act action) → P c → P (c.act action)
  inv : ∀ c, P c → plan.inv c
  failed : ∀ c, P c → plan.failed operation c

/-- The user's moves are all that happens during an operation. -/
def Plan.UserMoves (plan : Plan) : Prop :=
  ∀ operation c c', plan.moves operation c c' → ∃ action, c' = c.act action

theorem Plan.Point.assertion (point : plan.Point operation P) (users : plan.UserMoves) :
    (plan.around operation).Assertion P where
  stable c c' holds move := by
    obtain ⟨action, rfl⟩ := users operation c c' move
    exact point.stable c action move holds
  inv := point.inv

theorem Plan.Point.and {extra : Cluster → Prop} (point : plan.Point operation P)
    (kept : ∀ c action, plan.moves operation c (c.act action) → extra c → extra (c.act action)) :
    plan.Point operation fun c => P c ∧ extra c where
  stable c action move holds := ⟨point.stable c action move holds.1, kept c action move holds.2⟩
  inv c holds := point.inv c holds.1
  failed c holds := point.failed c holds.1

theorem Plan.Point.seen (point : plan.Point operation P) (node : Node) :
    plan.Point operation fun c => P c ∧ Seen node c :=
  point.and fun _ action _ seen => seen.act action

variable (users : plan.UserMoves)
include users

theorem outline_quiet {next : request.Answer → Api α} (quiet : request.quiet = true)
    (point : plan.Point operation P)
    (rest : ∀ answer, (plan.around operation).Outline post (next answer) P) :
    (plan.around operation).Outline post (ask request >>= next) P := by
  refine .perform_bind (fun _ => P) (fun _ => point.assertion users) ?_ ?_ rest
  · rintro c _ holds (rfl | ⟨reply, answer, node, served, rfl⟩)
    · exact point.failed _ holds
    · cases request.node_of_quiet quiet served
      exact point.failed _ holds
  · rintro c answer _ holds ⟨reply, node, served, rfl⟩
    cases request.node_of_quiet quiet served
    exact holds

theorem outline_getNode {Q : Node → Cluster → Prop} {next : Node → Api α}
    (point : plan.Point operation P) (points : ∀ node, plan.Point operation (Q node))
    (read : ∀ c, P c → Q c.node c)
    (rest : ∀ node, (plan.around operation).Outline post (next node) (Q node)) :
    (plan.around operation).Outline post (ask .getNode >>= next) P := by
  refine .perform_bind Q (fun node => (points node).assertion users) ?_ ?_ rest
  · rintro c _ holds (rfl | ⟨reply, answer, node, served, rfl⟩)
    · exact point.failed _ holds
    · cases served
      exact point.failed _ holds
  · rintro c answer _ holds ⟨reply, node, served, rfl⟩
    cases served
    exact read c holds

theorem outline_perform {P : Cluster → Prop} {Q : request.Answer → Cluster → Prop}
    (point : plan.Point operation P) (points : ∀ answer, plan.Point operation (Q answer))
    (served : ∀ c reply answer node, P c → serve reply request c.node = some (answer, node) →
      Q answer { c with node := node }) : (plan.around operation).Outline Q (ask request) P := by
  refine ⟨?_, Q, fun answer => (points answer).assertion users, ?_, fun answer c holds => holds⟩
  · rintro c _ holds (rfl | ⟨reply, answer, node, answered, rfl⟩)
    · exact point.failed _ holds
    · exact (points answer).failed _ (served c reply answer node holds answered)
  · rintro c answer _ holds ⟨reply, node, answered, rfl⟩
    exact served c reply answer node holds answered

theorem outline_addAnnotations {add : Annotations → Annotations} (before : plan.Point operation P)
    (after : plan.Point operation R) (added : ∀ c, P c → R (c.annotate add)) :
    (plan.around operation).Outline (fun _ => R) (addAnnotationsToNode add) P := by
  refine outline_getNode users before before.seen (fun c holds => ⟨holds, .inl rfl⟩) fun node => ?_
  refine outline_perform users (before.seen node) (fun _ => after) ?_
  rintro c reply answer _ ⟨holds, seen⟩ served
  obtain ⟨rfl, rfl⟩ := seen.current served rfl
  exact added c holds

theorem outline_removeAnnotations {remove : Annotations → Annotations}
    (before : plan.Point operation P) (after : plan.Point operation R)
    (kept : ∀ c, P c → c.node.annotations = none → R c)
    (removed : ∀ c, P c → R (c.annotate remove)) :
    (plan.around operation).Outline (fun _ => R) (removeAnnotationsFromNode remove) P := by
  have reading (node : Node) : plan.Point operation fun c =>
      P c ∧ Seen node c ∧ (node.annotations = none → R c) :=
    before.and fun c action move holds =>
      ⟨holds.1.act action, fun none => after.stable c action move (holds.2 none)⟩
  refine outline_getNode users before reading (fun c holds => ⟨holds, .inl rfl, kept c holds⟩) ?_
  rintro ⟨unschedulable, annotations, version⟩
  cases annotations with
  | none => exact .pure fun c holds => holds.2.2 rfl
  | some annotations =>
    refine outline_perform users (reading _) (fun _ => after) ?_
    rintro c reply answer _ ⟨holds, seen, _⟩ served
    obtain ⟨same, rfl⟩ := seen.current served rfl
    have result := removed c holds
    simpa only [Cluster.annotate, same, Option.getD_some] using result

theorem outline_cordonOrUncordon {desired : Bool} (before : plan.Point operation P)
    (after : plan.Point operation R) (already : ∀ c, P c → c.node.unschedulable = desired → R c)
    (patched : ∀ c, P c → R (c.schedule desired)) :
    (plan.around operation).Outline (fun _ => R) (cordonOrUncordonNode desired) P := by
  have reading (node : Node) : plan.Point operation fun c => P c ∧
      (node.unschedulable = desired → R c) :=
    before.and fun c action move holds same => after.stable c action move (holds same)
  refine outline_getNode users before reading (fun c holds => ⟨holds, already c holds⟩) fun node =>
    ?_
  apply Surroundings.Outline.ite
  · exact fun same => .pure fun c holds => holds.2 same
  · intro _
    refine outline_perform users (reading node) (fun _ => after) ?_
    rintro c reply answer _ ⟨holds, _⟩ served
    cases served
    exact patched c holds

end Rules
end Nodelet.Cordon
