import Nodelet.Cordon.Survival

/-! Start makes the node schedulable again unless the user wants it cordoned, as long as
no operation that failed has left a cordon of its own behind without a mark, and a
Status has noticed the user's last action before. -/
namespace Nodelet.Cordon
open Go (Surroundings)

/-- A cordon that is not the user's is marked by the agent. -/
def Marked (c : Cluster) : Prop :=
  c.node.unschedulable = true → c.node.kubeStackShutDown = true ∨ c.lastAction = some .cordon

instance (c : Cluster) : Decidable (Marked c) := inferInstanceAs (Decidable (_ → _ ∨ _))

/-- The request may take effect: a cordon that it makes or writes back is marked, or the user's. -/
def Request.Harmless (c : Cluster) : Request → Prop
  | .patchUnschedulable true => c.node.kubeStackShutDown = true ∨ c.lastAction = some .cordon
  | .patchUnschedulable false => True
  | .updateNode changed => changed.resourceVersion = c.node.resourceVersion →
    changed.unschedulable = true →
      changed.kubeStackShutDown = true ∨ c.lastAction = some .cordon
  | _ => Marked c

instance instDecidableHarmless (c : Cluster) : (request : Request) → Decidable (request.Harmless c)
  | .patchUnschedulable true => inferInstanceAs (Decidable (_ ∨ _))
  | .patchUnschedulable false => isTrue trivial
  | .updateNode _ => inferInstanceAs (Decidable (_ → _ → _ ∨ _))
  | .newClient | .getNodeIdentifier | .k8sApiAvailable | .statStartFileMarker | .getNode |
    .runNodeDrain
  | .preventAutoReattach => inferInstanceAs (Decidable (Marked c))

/-- The request that is answered next may fail, with or without its effect. -/
def System.Spared (effect : Option Reply) (s : System) : Prop :=
  match s.running with
  | some (_, .call request _) => if effect = none then Marked s.cluster
    else request.Harmless s.cluster
  | _ => True

instance (effect : Option Reply) : (s : System) → Decidable (s.Spared effect)
  | ⟨_, some (_, .call _ _)⟩ => inferInstanceAs (Decidable (ite _ _ _))
  | ⟨_, some (_, .done _)⟩ | ⟨_, none⟩ => isTrue trivial

/-- Stop and Start do not fail where the cordon is unmarked, or where the request would leave it so,
and Start begins after a Status has noticed the user's last action. -/
def Undamaging : Choice → System → Prop
  | .begin .start, s => s.cluster.noticed = true
  | .fail effect, s => s.operation = some .status ∨ s.Spared effect
  | _, _ => True

instance instDecidableUndamaging :
    (choice : Choice) → (s : System) → Decidable (Undamaging choice s)
  | .begin .start, s => inferInstanceAs (Decidable (s.cluster.noticed = true))
  | .fail effect, s => inferInstanceAs (Decidable (s.operation = some .status ∨ s.Spared effect))
  | .user _, _ | .begin .status, _ | .begin .stop, _ | .answer _, _ | .finish, _ => isTrue trivial

theorem Request.Harmless.marked {c : Cluster} (harmless : request.Harmless c)
    (served : serve reply request c.node = some (answer, node)) : Marked { c with node } := by
  cases request with
  | patchUnschedulable desired =>
    cases served
    cases desired with
    | true => exact fun _ => harmless
    | false => exact nofun
  | updateNode changed =>
    simp only [serve] at served
    split_ifs at served with current
    cases served
    exact harmless current
  | _ =>
    cases served
    exact harmless

theorem System.Spared.marked {s t : System} (spared : s.Spared effect)
    (taken : step (.fail effect) s = some t) : Marked t.cluster := by
  obtain ⟨c, running⟩ := s
  generalize choice : Choice.fail effect = choice' at taken
  cases step_stepped taken with
  | failed =>
    cases choice
    exact spared
  | failedLate served =>
    cases choice
    exact Request.Harmless.marked spared served
  | _ => contradiction

/-- The mark of a user's cordon is not there once it was noticed that the user wants none. -/
structure Unblamed (c : Cluster) : Prop where
  annotated : c.noticed = true → ¬ c.cordoned → c.node.userNodeCordon = false
  disturbed : c.undisturbed = false → c.noticed = false

theorem Unblamed.act (c : Cluster) (action : UserAction) : Unblamed (c.act action) := by
  constructor <;> simp

theorem Marked.act (c : Cluster) (action : UserAction) : Marked (c.act action) := by
  cases action with
  | cordon => exact fun _ => .inr rfl
  | uncordon => simp [Marked]

/-- The node is free, unless the user wants it cordoned. -/
def Released (c : Cluster) : Prop := c.cordoned ∨ c.node.unschedulable = false

theorem Released.act (c : Cluster) (action : UserAction) : Released (c.act action) := by
  cases action with
  | cordon => exact .inl rfl
  | uncordon => exact .inr rfl

theorem Released.marked (released : Released c) : Marked c := by
  intro unschedulable
  rcases released with cordoned | free
  · exact .inr cordoned
  · rw [free] at unschedulable
    contradiction

def release : Plan where
  allowed := Undamaging
  idle c := Unblamed c ∧ Marked c
  inv := Unblamed
  moves _ c c' := ∃ action, c' = c.act action
  failed operation c := Unblamed c ∧ (operation = .status → Marked c)
  post operation outcome c := (Unblamed c ∧ Marked c) ∧
    (operation = .status → outcome = .returned true → c.undisturbed = true → ¬ c.cordoned →
      c.node.userNodeCordon = false) ∧
    (operation = .start → ∀ looked, outcome = .returned looked → Released c)

theorem release_userMoves : release.UserMoves := fun _ _ _ moved => moved

theorem unblamed_point (operation : Operation) (acts : operation ≠ .status) :
    release.Point operation Unblamed where
  stable c action _ _ := .act c action
  inv _ holds := holds
  failed _ holds := ⟨holds, fun status => absurd status acts⟩

theorem marked_point (operation : Operation) :
    release.Point operation fun c => Unblamed c ∧ Marked c where
  stable c action _ _ := ⟨.act c action, .act c action⟩
  inv _ holds := holds.1
  failed _ holds := ⟨holds.1, fun _ => holds.2⟩

theorem Unblamed.annotate (unblamed : Unblamed c) {change : Annotations → Annotations}
    (unmarked : c.noticed = true → ¬ c.cordoned →
      (change (c.node.annotations.getD {})).userNodeCordon = false) :
    Unblamed (c.annotate change) where
  annotated := by simpa using unmarked
  disturbed := by simpa using unblamed.disturbed

theorem release_status (c : Cluster) (idle : Unblamed c ∧ Marked c) :
    (release.around .status).Held (release.post .status) UncordonNodePhase.status
    { c with undisturbed := true } := by
  have users := release_userMoves
  have point := marked_point .status
  have looking (node : Node) : release.Point .status fun c => (Unblamed c ∧ Marked c) ∧
    Looked node c := point.and fun c action _ _ => .act node c action
  have noted : release.Point .status fun c => (Unblamed c ∧ Marked c) ∧
      (c.undisturbed = true → ¬ c.cordoned → c.node.userNodeCordon = false) :=
    point.and fun c action _ _ => by simp
  have ended (c : Cluster) (holds : Unblamed c ∧ Marked c) :
    release.post .status (.returned false) c := ⟨holds, by simp, by simp⟩
  have looked (c : Cluster) (holds : (Unblamed c ∧ Marked c) ∧
      (c.undisturbed = true → ¬ c.cordoned → c.node.userNodeCordon = false)) :
      release.post .status (.returned true) c := ⟨holds.1, fun _ _ => holds.2, by simp⟩
  refine ⟨_, point.assertion users, ?_, ⟨idle.1.annotated, by simp⟩, idle.2⟩
  refine outline_quiet users rfl point fun _ => ?_
  refine outline_quiet users rfl point fun _ => ?_
  refine outline_quiet users rfl point fun booting => ?_
  refine .ite (fun _ => .pure ended) fun _ => ?_
  refine outline_getNode users point looking (fun c holds => ⟨holds, fun _ => ⟨rfl, rfl⟩⟩)
    fun node => ?_
  refine .ite (fun _ => .pure fun c holds => ended c holds.1) fun notShutDown => ?_
  refine .ite (fun cordoned => ?_) fun notCordoned => ?_
  · -- an unmarked cordon that nobody has disturbed is the user's
    have users' (c : Cluster) (holds : (Unblamed c ∧ Marked c) ∧
        Looked node c) (undisturbed : c.undisturbed = true) : c.cordoned := by
      obtain ⟨unschedulable, shutDown⟩ := holds.2 undisturbed
      refine (holds.1.2 (unschedulable.trans cordoned)).resolve_left ?_
      rw [shutDown]
      exact notShutDown
    refine .bind (outline_addAnnotations users (looking node) noted fun c holds => ?_) fun _ =>
      .pure looked
    refine ⟨⟨holds.1.1.annotate fun noticed other => ?_, holds.1.2⟩, fun undisturbed other => ?_⟩
    · by_cases undisturbed : c.undisturbed = true
      · exact absurd (users' c holds undisturbed) other
      · rw [holds.1.1.disturbed (Bool.of_not_eq_true undisturbed)] at noticed
        contradiction
    · exact absurd (users' c holds undisturbed) other
  · refine .bind (outline_removeAnnotations users (looking node) noted ?_ ?_) fun _ => .pure looked
    · refine fun c holds none => ⟨holds.1, fun _ _ => ?_⟩
      simp [Node.userNodeCordon, none]
    · exact fun c holds => ⟨⟨holds.1.1.annotate (by simp), holds.1.2⟩, by simp⟩

theorem release_stop (c : Cluster) (idle : Unblamed c ∧ Marked c) :
    (release.around .stop).Held (release.post .stop) DrainNodePhase.stop
    { c with undisturbed := true } := by
  have users := release_userMoves
  have point := unblamed_point .stop (by decide)
  refine ⟨Unblamed, point.assertion users, ?_, idle.1.annotated, by simp⟩
  refine outline_quiet users rfl point fun _ => ?_
  refine outline_quiet users rfl point fun _ => ?_
  refine outline_quiet users rfl point fun _ => ?_
  have drained :
      (release.around .stop).Outline (fun _ => Unblamed) drainNodeFromApiServer Unblamed := by
    refine .bind (outline_cordonOrUncordon users point point (fun c holds _ => holds) fun c holds => ?_) fun _ => ?_
    · exact ⟨by simpa using holds.annotated, by simpa using holds.disturbed⟩
    · exact outline_perform users point (fun _ => point) (fun c _ _ _ holds served => by cases served; exact holds)
  refine .bind drained fun _ => ?_
  refine .bind (outline_addAnnotations users point (marked_point .stop) fun c holds => ?_) fun _ =>
    ?_
  · exact ⟨holds.annotate holds.annotated, fun _ => .inl rfl⟩
  · exact .pure fun c holds => ⟨holds, by simp, by simp⟩

/-- During Start the node is free, or wanted cordoned, or not marked as cordoned by the user. -/
theorem release_start (c : Cluster) (idle : Unblamed c ∧ Marked c) (noticed : c.noticed = true) :
    (release.around .start).Held (release.post .start) UncordonNodePhase.start
    { c with undisturbed := true } := by
  have users := release_userMoves
  have acts : Operation.start ≠ .status := by decide
  have unmarked : release.Point .start fun c => Unblamed c ∧
      (Released c ∨ c.node.userNodeCordon = false) :=
    (unblamed_point .start acts).and fun c action _ _ => .inl (.act c action)
  have beginning : release.Point .start fun c =>
      (Unblamed c ∧ (Released c ∨ c.node.userNodeCordon = false)) ∧ Marked c :=
    unmarked.and fun c action _ _ => .act c action
  have read (node : Node) : release.Point .start fun c =>
      (Unblamed c ∧ (Released c ∨ c.node.userNodeCordon = false)) ∧ (node.userNodeCordon = true → Released c) :=
    unmarked.and fun c action _ _ _ => .act c action
  have released : release.Point .start fun c => Unblamed c ∧ Released c :=
    (unblamed_point .start acts).and fun c action _ _ => .act c action
  have ended (c : Cluster) (holds : Unblamed c ∧ Released c) :
      release.post .start (.returned true) c :=
    ⟨⟨holds.1, holds.2.marked⟩, by simp, fun _ _ _ => holds.2⟩
  have initially : Released c ∨ c.node.userNodeCordon = false := by
    by_cases cordoned : c.cordoned
    · exact .inl (.inl cordoned)
    · exact .inr (idle.1.annotated noticed cordoned)
  refine ⟨_, beginning.assertion users, ?_, ⟨⟨idle.1.annotated, by simp⟩, initially⟩, idle.2⟩
  refine outline_quiet users rfl beginning fun _ => ?_
  refine outline_quiet users rfl beginning fun nodeIdentifier => ?_
  refine .ite (fun _ => .pure fun c holds => ⟨⟨holds.1.1, holds.2⟩, by simp, by simp⟩) fun _ => ?_
  refine .bind
    (outline_removeAnnotations users beginning unmarked (fun c holds _ => holds.1) fun c holds =>
    ⟨holds.1.1.annotate holds.1.1.annotated, holds.1.2⟩) fun _ => ?_
  refine outline_getNode users unmarked read (fun c holds => ⟨holds, fun marked => ?_⟩) fun node =>
    ?_
  · refine holds.2.resolve_right ?_
    rw [marked]
    exact Bool.noConfusion
  refine .ite (fun marked => .pure fun c holds => ended c ⟨holds.1.1, holds.2 marked⟩) fun _ => ?_
  refine .bind (outline_cordonOrUncordon users (read node) released ?_ ?_) fun _ => ?_
  · exact fun c holds free => ⟨holds.1.1, .inr free⟩
  · exact fun c holds =>
      ⟨⟨by simpa using holds.1.1.annotated, by simpa using holds.1.1.disturbed⟩, .inr rfl⟩
  · refine outline_quiet users rfl released fun _ => ?_
    exact .pure ended

theorem release_correct : release.Correct where
  inv _ idle := idle.1
  user c action _ := ⟨.act c action, .act c action⟩
  moves c _ _ action _ := ⟨action, rfl⟩
  begin c operation idle allowed := by
    cases operation with
    | status => exact release_status c idle
    | stop => exact release_stop c idle
    | start => exact release_start c idle allowed
  fail s t effect operation program running allowed taken failed := by
    refine ⟨failed.1, ?_⟩
    rcases allowed with status | spared
    · rw [System.operation, running] at status
      exact failed.2 (Option.some.inj status)
    · exact spared.marked taken
  finish c operation outcome returned := by
    obtain ⟨⟨unblamed, marked⟩, noted, _⟩ := returned
    unfold Cluster.finish
    split
    · refine ⟨⟨fun noticed other => ?_, fun disturbed => ?_⟩, marked⟩
      · simp only [Bool.or_eq_true] at noticed
        rcases noticed with earlier | now
        · exact unblamed.annotated earlier other
        · exact noted rfl rfl now other
      · have was : c.undisturbed = false := disturbed
        simp [was, unblamed.disturbed was]
    · exact ⟨unblamed, marked⟩

/-- The operation that is about to return, with its outcome. -/
def System.returning (s : System) : Option (Operation × Outcome) :=
  match s.running with
  | some (operation, .done outcome) => some (operation, outcome)
  | _ => none

theorem System.running_of_returning {s : System} {ended : Operation × Outcome}
    (returned : s.returning = some ended) : s.running = some (ended.1, .done ended.2) := by
  unfold returning at returned
  split at returned
  · cases returned
    assumption
  · contradiction

/-- Whenever Start returns nil and the user does not want the node cordoned, it is schedulable. -/
theorem start_releases (node : Node) (schedulable : node.unschedulable = false)
    (unmarked : node.userNodeCordon = false)
    (run : Run Undamaging { cluster := { node := node } } t)
    (returned : t.returning = some (.start, .returned looked))
    (other : t.cluster.lastAction ≠ some .cordon) : t.cluster.node.unschedulable = false := by
  have fine : release.Fine { cluster := { node := node } } := by
    refine ⟨⟨fun _ _ => unmarked, nofun⟩, fun cordoned => ?_⟩
    rw [schedulable] at cordoned
    contradiction
  have held := release_correct.run run fine
  have running := System.running_of_returning returned
  obtain ⟨c, _⟩ := t
  cases running
  exact (held.returned.2.2 rfl looked rfl).resolve_left other

/-- The user cordons and uncordons the node, and a Status follows each; then a restart. -/
def changedMind : List Choice :=
  .user .cordon :: whole .status 6 ++ .user .uncordon :: whole .status 6 ++ whole .stop 8 ++
    .begin .start :: List.replicate 8 (.answer {})

theorem start_releases_changedMind :
    ∃ t, Run Undamaging {} t ∧ t.returning = some (.start, .returned true) ∧
    t.cluster.lastAction = some .uncordon ∧ t.cluster.node.unschedulable = false := by
  have evaluated :
    (runChoices Undamaging changedMind {}).map (fun t => (t.returning, t.cluster.lastAction)) =
      some (some (.start, .returned true), some .uncordon) := by
    decide
  obtain ⟨t, ran, seen⟩ := Option.map_eq_some_iff.mp evaluated
  have returned : t.returning = some (.start, .returned true) := congrArg Prod.fst seen
  have last : t.cluster.lastAction = some .uncordon := congrArg Prod.snd seen
  refine ⟨t, runChoices_run ran, returned, last, ?_⟩
  exact start_releases {} rfl rfl (runChoices_run ran) returned (by rw [last]; decide)

/-- The drain fails after its cordon; Status takes that for the user's, who never acted, and
Start leaves the node cordoned. -/
theorem start_keeps_own_cordon : ∃ t, Run (fun _ _ => True) {} t ∧
    t.returning = some (.start, .returned true) ∧ t.cluster.lastAction = none ∧
    t.cluster.node.unschedulable = true := by
  have evaluated : (runChoices (fun _ _ => True)
      (.begin .stop :: List.replicate 5 (.answer {}) ++ .fail none :: whole .status 6 ++
        .begin .start :: List.replicate 5 (.answer {})) {}).map
      (fun t => (t.returning, t.cluster.lastAction, t.cluster.node.unschedulable)) =
        some (some (.start, .returned true), none, true) := by
    decide
  obtain ⟨t, ran, seen⟩ := Option.map_eq_some_iff.mp evaluated
  exact ⟨t, runChoices_run ran, congrArg Prod.fst seen, congrArg (·.2.1) seen,
    congrArg (·.2.2) seen⟩

end Nodelet.Cordon
