import Nodelet.Cordon.Plan

/-! A user's cordon survives restarts of the stack that come after a Status has
noticed it. Without that, Start takes the cordon for the agent's own. -/
namespace Nodelet.Cordon
open Go (Surroundings)

/-- The operation under way. -/
def System.operation (s : System) : Option Operation := s.running.map Prod.fst

/-- The user does not cordon the node while Start runs, and Start begins after a Status has
noticed the user's cordon. -/
def Attentive : Choice → System → Prop
  | .user .cordon, s => s.operation ≠ some .start
  | .begin .start, s => s.cluster.lastAction = some .cordon → s.cluster.noticed = true
  | _, _ => True

instance instDecidableAttentive : (choice : Choice) → (s : System) → Decidable (Attentive choice s)
  | .user .cordon, s => inferInstanceAs (Decidable (s.operation ≠ some .start))
  | .begin .start, s =>
    inferInstanceAs (Decidable (s.cluster.lastAction = some .cordon → s.cluster.noticed = true))
  | .user .uncordon, _ | .begin .status, _ | .begin .stop, _ | .answer _, _ | .fail _, _ | .finish,
    _ => isTrue trivial

/-- The node is cordoned as the user wants it, and marked so once that was noticed. -/
structure Kept (c : Cluster) : Prop where
  unschedulable : c.cordoned → c.node.unschedulable = true
  annotated : c.cordoned → c.noticed = true → c.node.userNodeCordon = true
  disturbed : c.undisturbed = false → c.noticed = false

theorem Kept.act (c : Cluster) (action : UserAction) : Kept (c.act action) := by
  constructor <;> simp

def survival : Plan where
  allowed := Attentive
  idle := Kept
  inv c := c.cordoned → c.node.unschedulable = true
  moves operation c c' := ∃ action, c' = c.act action ∧ (operation = .start → action = .uncordon)
  failed _ := Kept
  post operation outcome c := Kept c ∧ (operation = .status → outcome = .returned true →
    c.undisturbed = true → c.cordoned → c.node.userNodeCordon = true)

theorem survival_userMoves : survival.UserMoves :=
  fun _ _ _ ⟨action, same, _⟩ => ⟨action, same⟩

theorem kept_point (operation : Operation) : survival.Point operation Kept where
  stable c action _ _ := .act c action
  inv _ kept := kept.unschedulable
  failed _ kept := kept

/-- What Status read of the cordon is still so, unless the user has acted. -/
def Looked (node : Node) (c : Cluster) : Prop :=
  c.undisturbed = true →
    c.node.unschedulable = node.unschedulable ∧ c.node.kubeStackShutDown = node.kubeStackShutDown

theorem Looked.act (node : Node) (c : Cluster) (action : UserAction) :
    Looked node (c.act action) := by
  simp [Looked]

theorem Kept.annotate (kept : Kept c) {change : Annotations → Annotations}
    (marked : c.cordoned → c.noticed = true →
      (change (c.node.annotations.getD {})).userNodeCordon = true) : Kept (c.annotate change) where
  unschedulable := by simpa using kept.unschedulable
  annotated := by simpa using marked
  disturbed := by simpa using kept.disturbed

/-- A Status that saw the node uncordoned was disturbed, or the user has not cordoned it. -/
theorem Kept.not_cordoned (kept : Kept c) (looked : Looked node c)
    (free : node.unschedulable = false) (undisturbed : c.undisturbed = true) : ¬ c.cordoned := by
  intro cordoned
  have same := (looked undisturbed).1
  rw [kept.unschedulable cordoned, free] at same
  contradiction

/-- So it can take the mark of a user's cordon away. -/
theorem Kept.unmark (kept : Kept c) (looked : Looked node c) (free : node.unschedulable = false) :
    Kept (c.annotate fun annotations => { annotations with userNodeCordon := false }) := by
  refine kept.annotate fun cordoned noticed => ?_
  by_cases undisturbed : c.undisturbed = true
  · exact absurd cordoned (kept.not_cordoned looked free undisturbed)
  · rw [kept.disturbed (Bool.of_not_eq_true undisturbed)] at noticed
    contradiction

theorem survival_status (c : Cluster) (kept : Kept c) :
    (survival.around .status).Held (survival.post .status) UncordonNodePhase.status
    { c with undisturbed := true } := by
  have users := survival_userMoves
  have point := kept_point .status
  have looking (node : Node) : survival.Point .status fun c => Kept c ∧ Looked node c :=
    point.and fun c action _ _ => .act node c action
  have noted : survival.Point .status fun c => Kept c ∧
      (c.undisturbed = true → c.cordoned → c.node.userNodeCordon = true) :=
    point.and fun c action _ _ => by simp
  have ended (c : Cluster) (holds : Kept c) : survival.post .status (.returned false) c :=
    ⟨holds, by simp⟩
  refine ⟨Kept, point.assertion users, ?_, kept.unschedulable, kept.annotated, by simp⟩
  refine outline_quiet users rfl point fun _ => ?_
  refine outline_quiet users rfl point fun _ => ?_
  refine outline_quiet users rfl point fun booting => ?_
  refine .ite (fun _ => .pure ended) fun _ => ?_
  refine outline_getNode users point looking (fun c holds => ⟨holds, fun _ => ⟨rfl, rfl⟩⟩)
    fun node => ?_
  refine .ite (fun _ => .pure fun c holds => ended c holds.1) fun _ => ?_
  refine .ite (fun _ => ?_) fun notCordoned => ?_
  · refine .bind (outline_addAnnotations users (looking node) noted ?_) fun _ =>
      .pure fun c holds => ?_
    · exact fun c holds => ⟨holds.1.annotate (by simp), by simp⟩
    · exact ⟨holds.1, fun _ _ => holds.2⟩
  · have free : node.unschedulable = false := Bool.of_not_eq_true notCordoned
    refine .bind (outline_removeAnnotations users (looking node) noted ?_ ?_) fun _ =>
      .pure fun c holds => ?_
    · exact fun c holds _ => ⟨holds.1, fun undisturbed cordoned =>
        absurd cordoned (holds.1.not_cordoned holds.2 free undisturbed)⟩
    · exact fun c holds => ⟨holds.1.unmark holds.2 free, fun undisturbed cordoned =>
        absurd cordoned (holds.1.not_cordoned holds.2 free undisturbed)⟩
    · exact ⟨holds.1, fun _ _ => holds.2⟩

theorem survival_stop (c : Cluster) (kept : Kept c) :
    (survival.around .stop).Held (survival.post .stop) DrainNodePhase.stop
    { c with undisturbed := true } := by
  have users := survival_userMoves
  have point := kept_point .stop
  refine ⟨Kept, point.assertion users, ?_, kept.unschedulable, kept.annotated, by simp⟩
  refine outline_quiet users rfl point fun _ => ?_
  refine outline_quiet users rfl point fun _ => ?_
  refine outline_quiet users rfl point fun _ => ?_
  have drained : (survival.around .stop).Outline (fun _ => Kept) drainNodeFromApiServer Kept := by
    refine .bind (outline_cordonOrUncordon users point point (fun c kept _ => kept) fun c kept =>
      ?_) fun _ => ?_
    · exact ⟨by simp, by simpa using kept.annotated, by simpa using kept.disturbed⟩
    · exact outline_perform users point (fun _ => point) (fun c _ _ _ kept served => by cases served; exact kept)
  refine .bind drained fun _ => ?_
  refine .bind (outline_addAnnotations users point point fun c kept =>
    kept.annotate kept.annotated) fun _ => ?_
  exact .pure fun c kept => ⟨kept, by simp⟩

/-- During Start a user's cordon stays marked: the user does not make a new one. -/
theorem survival_start (c : Cluster) (kept : Kept c) (noticed : c.cordoned → c.noticed = true) :
    (survival.around .start).Held (survival.post .start) UncordonNodePhase.start
    { c with undisturbed := true } := by
  have users := survival_userMoves
  have uncordoned (c : Cluster) (action : UserAction)
      (move : survival.moves .start c (c.act action)) : ¬ (c.act action).cordoned := by
    obtain ⟨other, same, only⟩ := move
    rw [same, only rfl]
    simp
  have marked : survival.Point .start fun c => Kept c ∧
      (c.cordoned → c.node.userNodeCordon = true) :=
    (kept_point .start).and fun c action move _ cordoned =>
      absurd cordoned (uncordoned c action move)
  have read (node : Node) : survival.Point .start fun c =>
      (Kept c ∧ (c.cordoned → c.node.userNodeCordon = true)) ∧ (node.userNodeCordon = false → ¬ c.cordoned) :=
    marked.and fun c action move _ _ => uncordoned c action move
  have free : survival.Point .start fun c => Kept c ∧ ¬ c.cordoned :=
    (kept_point .start).and fun c action move _ => uncordoned c action move
  refine ⟨_, marked.assertion users, ?_, ⟨kept.unschedulable, kept.annotated, by simp⟩,
    fun cordoned => kept.annotated cordoned (noticed cordoned)⟩
  refine outline_quiet users rfl marked fun _ => ?_
  refine outline_quiet users rfl marked fun nodeIdentifier => ?_
  refine .ite (fun _ => .pure fun c holds => ⟨holds.1, by simp⟩) fun _ => ?_
  refine .bind
    (outline_removeAnnotations users marked marked (fun c holds _ => holds) fun c holds =>
    ⟨holds.1.annotate fun cordoned _ => holds.2 cordoned, holds.2⟩) fun _ => ?_
  refine outline_getNode users marked read (fun c holds => ⟨holds, fun unmarked cordoned => ?_⟩)
    fun node => ?_
  · rw [holds.2 cordoned] at unmarked
    contradiction
  refine .ite (fun _ => .pure fun c holds => ⟨holds.1.1, by simp⟩) fun unmarked => ?_
  have unmarked : node.userNodeCordon = false := Bool.of_not_eq_true unmarked
  refine .bind (outline_cordonOrUncordon users (read node) free ?_ ?_) fun _ => ?_
  · exact fun c holds _ => ⟨holds.1.1, holds.2 unmarked⟩
  · intro c holds
    have other := holds.2 unmarked
    exact ⟨⟨fun cordoned => absurd cordoned other, fun cordoned => absurd cordoned other,
      by simpa using holds.1.1.disturbed⟩, other⟩
  · refine outline_quiet users rfl free fun _ => ?_
    exact .pure fun c holds => ⟨holds.1, by simp⟩

theorem survival_correct : survival.Correct where
  inv _ kept := kept.unschedulable
  user c action _ := .act c action
  moves c operation program action allowed := by
    refine ⟨action, rfl, ?_⟩
    rintro rfl
    cases action with
    | cordon => exact absurd rfl allowed
    | uncordon => rfl
  begin c operation kept allowed := by
    cases operation with
    | status => exact survival_status c kept
    | stop => exact survival_stop c kept
    | start => exact survival_start c kept allowed
  fail _ _ _ _ _ _ _ _ failed := failed
  finish c operation outcome returned := by
    obtain ⟨kept, noted⟩ := returned
    unfold Cluster.finish
    split
    · refine ⟨kept.unschedulable, fun cordoned noticed => ?_, fun disturbed => ?_⟩
      · simp only [Bool.or_eq_true] at noticed
        rcases noticed with earlier | now
        · exact kept.annotated cordoned earlier
        · exact noted rfl rfl now cordoned
      · have was : c.undisturbed = false := disturbed
        simp [was, kept.disturbed was]
    · exact kept

/-- Whatever the user and the phases do, and wherever the phases fail: a node the user has
cordoned last is cordoned. -/
theorem user_cordon_survives (node : Node) (run : Run Attentive { cluster := { node := node } } t)
    (cordoned : t.cluster.lastAction = some .cordon) : t.cluster.node.unschedulable = true := by
  have fine : survival.Fine { cluster := { node := node } } :=
    (⟨nofun, nofun, nofun⟩ : Kept { node := node })
  exact survival_correct.inv_of_run run fine cordoned

/-- An operation whose calls all succeed. -/
def whole (operation : Operation) (calls : Nat) : List Choice :=
  .begin operation :: List.replicate calls (.answer {}) ++ [.finish]

/-- A cordon that Status notices, then a restart of the stack. -/
def noticedRestart : List Choice :=
  .user .cordon :: whole .status 6 ++ whole .stop 7 ++ whole .start 5

theorem user_cordon_survives_noticed :
    ∃ t, Run Attentive {} t ∧ t.cluster.lastAction = some .cordon ∧
    t.cluster.node.unschedulable = true := by
  have evaluated : (runChoices Attentive noticedRestart {}).map (·.cluster.lastAction) = some (some .cordon) := by
    decide
  obtain ⟨t, ran, cordoned⟩ := Option.map_eq_some_iff.mp evaluated
  exact ⟨t, runChoices_run ran, cordoned, user_cordon_survives {} (runChoices_run ran) cordoned⟩

/-- A cordon and then a restart, with no Status in between: Start makes the node schedulable. -/
theorem user_cordon_lost : ∃ t, Run (fun _ _ => True) {} t ∧ t.cluster.lastAction = some .cordon ∧
    t.cluster.node.unschedulable = false := by
  have evaluated :
    (runChoices (fun _ _ => True) (.user .cordon :: whole .stop 7 ++ whole .start 8) {}).map
      (fun t => (t.cluster.lastAction, t.cluster.node.unschedulable)) = some (some .cordon, false) := by
    decide
  obtain ⟨t, ran, seen⟩ := Option.map_eq_some_iff.mp evaluated
  exact ⟨t, runChoices_run ran, congrArg Prod.fst seen, congrArg Prod.snd seen⟩

end Nodelet.Cordon
