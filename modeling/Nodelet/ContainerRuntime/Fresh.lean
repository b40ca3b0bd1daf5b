import Nodelet.ContainerRuntime.Ensured

/-! A container that is created anew and run to its end. -/
namespace Nodelet.ContainerRuntime
open Go (Error)
open Go.Resumption (Runs Wlp Ensures)

variable {s t : Daemon} {c : Container} {ns containerName image : String}

theorem Serves.next_le (served : Serves s event t) : s.next ≤ t.next := by
  obtain ⟨middle, same, -, handled⟩ := served
  rw [← same]
  obtain ⟨request, answer⟩ := event
  cases request with
  | other request =>
    cases request with
    | containers | task | taskStatus | select =>
      obtain ⟨rfl, -⟩ := handled
      exact Nat.le_refl _
    | taskResume =>
      obtain rfl | ⟨-, rfl⟩ := handled
      · exact Nat.le_refl _
      · exact Nat.le_refl _
    | taskDelete =>
      obtain ⟨rfl | ⟨-, rfl⟩, -⟩ := handled
      · exact Nat.le_refl _
      · exact Nat.le_refl _
    | delete =>
      obtain ⟨⟨-, rfl⟩ | ⟨-, rfl⟩, -⟩ := handled
      · exact Nat.le_refl _
      · exact Nat.le_refl _
    | taskWait | taskKill | exit | ctxErr | image =>
      cases handled
      exact Nat.le_refl _
  | newContainer =>
    obtain ⟨-, rfl⟩ | ⟨-, rfl⟩ := handled
    · exact Nat.le_succ _
    · exact Nat.le_refl _
  | newTask =>
    obtain ⟨i, -, -, rfl⟩ | ⟨-, rfl⟩ := handled
    · exact Nat.le_refl _
    · exact Nat.le_refl _
  | taskStart =>
    obtain ⟨i, code, -, -, rfl⟩ | ⟨-, rfl⟩ := handled
    · exact Nat.le_refl _
    · exact Nat.le_refl _
  | exitStatus =>
    obtain ⟨rfl, -⟩ := handled
    exact Nat.le_refl _
  | getImage | pull =>
    cases handled
    exact Nat.le_refl _

theorem ensures_lift {α : Type} {operation : Operation α} {post : α → Daemon → Prop}
    (ensures : Ensures ServesOther operation s post fun _ _ => True) :
    Ensures Serves (Lifecycle.lift operation) s post fun _ _ => True := by
  have implements : ∀ request s, Wlp Serves (fun answer t => ServesOther s ⟨request, answer⟩ t)
      (Go.Resumption.perform (Lifecycle.Request.other request)) s := fun _ _ _ _ served => served
  exact Wlp.translate implements ensures

theorem serveNew {β : Type} {request : Lifecycle.Request}
    {next : request.Answer → Lifecycle.Operation β} {final : β → Daemon → Prop}
    (rest : ∀ answer t, Serves s ⟨request, answer⟩ t →
      Ensures Serves (next answer) t final fun _ _ => True) :
    Ensures Serves (Lifecycle.perform request >>= next) s final fun _ _ => True := rest

theorem newContainer_fresh {first : Nat} (from_ : first ≤ s.next) :
    Ensures Serves (Lifecycle.perform (.newContainer c image) >>= Lifecycle.orFail) s
      (fun _ t => ∃ n, first ≤ n ∧ t.container c = some ⟨n, image, none⟩) fun _ _ => True := by
  refine serveNew ?_
  rintro (_ | err) t ⟨middle, same, -, ⟨-, rfl⟩ | ⟨impossible, -⟩⟩
  · exact ⟨middle.next, same ▸ from_, Function.update_self ..⟩
  · exact absurd rfl impossible
  · trivial
  · trivial

theorem createContainer_fresh : Ensures Serves (Lifecycle.createContainer c image) s
    (fun _ t => ∃ n, s.next ≤ n ∧ t.container c = some ⟨n, image, none⟩) fun _ _ => True := by
  refine serveNew ?_
  rintro (_ | err) t served
  · exact newContainer_fresh served.next_le
  · refine serveNew ?_
    rintro (_ | err) u later
    · exact newContainer_fresh (Nat.le_trans served.next_le later.next_le)
    · trivial

variable {n : Nat} {β : Type} {next : Unit → Lifecycle.Operation β} {final : β → Daemon → Prop}

theorem newTask_bind (created : s.container c = some ⟨n, image, none⟩)
    (rest : ∀ t, (∃ task, t.container c = some ⟨n, image, some task⟩) →
      Ensures Serves (next ()) t final fun _ _ => True) :
    Ensures Serves (Lifecycle.perform (.newTask c) >>= fun err => Lifecycle.orFail err >>= next) s
      final fun _ _ => True := by
  refine serveNew ?_
  rintro (_ | err) t ⟨middle, -, drift, ⟨i, same, -, rfl⟩ | ⟨impossible, -⟩⟩
  · obtain rfl := Option.some.inj (same.symm.trans (created ▸ drift c).without)
    exact rest _ ⟨_, Function.update_self ..⟩
  · exact absurd rfl impossible
  · trivial
  · trivial

theorem taskWait_bind (made : ∃ task, s.container c = some ⟨n, image, some task⟩)
    (rest : ∀ t, (∃ task, t.container c = some ⟨n, image, some task⟩) →
      Ensures Serves (next ()) t final fun _ _ => True) :
    Ensures Serves (Lifecycle.perform (.other (.taskWait c)) >>= fun fault =>
      Lifecycle.lift (orFail fault) >>= next) s final fun _ _ => True := by
  obtain ⟨task, made⟩ := made
  refine serveNew ?_
  rintro (_ | fault) t ⟨middle, -, drift, rfl⟩
  · exact rest t (made ▸ drift c).task
  · trivial

theorem taskStart_bind (made : ∃ task, s.container c = some ⟨n, image, some task⟩)
    (rest : ∀ t, (∃ task, t.container c = some ⟨n, image, some task⟩) →
      Ensures Serves (next ()) t final fun _ _ => True) :
    Ensures Serves (Lifecycle.perform (.taskStart c) >>= fun err => Lifecycle.orFail err >>= next)
      s final fun _ _ => True := by
  obtain ⟨task, made⟩ := made
  refine serveNew ?_
  rintro (_ | err) t ⟨middle, -, drift, ⟨i, code, same, -, rfl⟩ | ⟨impossible, -⟩⟩
  · obtain ⟨task', ready⟩ := (made ▸ drift c).task
    obtain rfl := Option.some.inj (same.symm.trans ready)
    exact rest _ ⟨_, Function.update_self ..⟩
  · exact absurd rfl impossible
  · trivial
  · trivial

theorem exitStatus_stopped (made : ∃ task, s.container c = some ⟨n, image, some task⟩) :
    Ensures Serves (do
      match (← Lifecycle.perform (.exitStatus c) : Except Error Nat) with
      | .error err => throw err
      | .ok code =>
        if code ≠ 0 then throw ("task creation process exited with status code: " ++ toString code) else pure ()) s
      (fun _ t => t.container c = some ⟨n, image, some ⟨.stopped, 0⟩⟩) fun _ _ => True := by
  obtain ⟨task, made⟩ := made
  refine serveNew ?_
  rintro (err | code) t ⟨middle, -, drift, rfl, exited⟩
  · trivial
  · refine Ensures.ite (fun _ => trivial) fun zero => Ensures.pure ?_
    obtain ⟨i, same, taken⟩ := exited code rfl
    obtain ⟨task', still⟩ := (made ▸ drift c).task
    obtain rfl := Option.some.inj (same.symm.trans still)
    cases taken
    rw [same, not_ne_iff.mp zero]

theorem ensureFreshContainerRunning_ended :
    Ensures Serves (Lifecycle.ensureFreshContainerRunning ns containerName image) s
      (fun _ t => ∃ n, s.next ≤ n ∧
      t.container ⟨ns, containerName⟩ = some ⟨n, image, some ⟨.stopped, 0⟩⟩) fun _ _ => True := by
  have later : ∀ (first s : Daemon) event t, first.next ≤ s.next → Serves s event t →
    first.next ≤ t.next := fun _ _ _ _ before served => Nat.le_trans before served.next_le
  refine Ensures.bind
    ((ensures_lift (ensureContainerDestroyed_gone timeOut)).along (fun _ => Nat.le_refl _) later) ?_
  rintro _ t ⟨-, first⟩
  refine Ensures.bind (Go.Remote.ensures_annotate createContainer_fresh) ?_
  rintro _ t ⟨n, fresh, created⟩
  refine newTask_bind created fun t made => taskWait_bind made fun t made =>
    taskStart_bind made fun t made => ?_
  exact (exitStatus_stopped made).weaken (fun _ _ ended => ⟨n, Nat.le_trans first fresh, ended⟩)
    fun _ _ => id

/-- Where `EnsureFreshContainerRunning` returns without an error, the container of that name was
created by this call from that image, and it does not run any more: its process has ended with code
0. -/
theorem fresh_container_has_ended {trace : List (Go.Resumption.Event Lifecycle.Request.Answer)}
    (runs : Runs Serves (Lifecycle.ensureFreshContainerRunning ns containerName image).run s trace
      (.done (.ok ())) t) :
    ∃ n, s.next ≤ n ∧ t.container ⟨ns, containerName⟩ = some ⟨n, image, some ⟨.stopped, 0⟩⟩ :=
  ensureFreshContainerRunning_ended.returned runs

theorem fresh_container_has_ended_at_once : ∃ trace t, Runs Serves
    (Lifecycle.ensureFreshContainerRunning "k8s.io" "proxy" "proxy:v1").run (single 4 none) trace
    (.done (.ok ())) t ∧
    ∃ n, 4 ≤ n ∧ t.container proxy = some ⟨n, "proxy:v1", some ⟨.stopped, 0⟩⟩ := by
  have lists : Serves (single 4 none) ⟨.other (.containers "k8s.io"), .ok []⟩ (single 4 none) := by
    refine .at_once ⟨rfl, fun ids same id => ?_⟩
    cases same
    simp [single]
  have finds : Serves (single 4 none) ⟨.getImage "proxy:v1", none⟩ (single 4 none) := .at_once rfl
  have creates : Serves (single 4 none) ⟨.newContainer proxy "proxy:v1", none⟩
      (single 5 (some ⟨4, "proxy:v1", none⟩)) := by
    refine .at_once (.inl ⟨rfl, ?_⟩)
    rw [single_set]
    rfl
  have loads : Serves (single 5 (some ⟨4, "proxy:v1", none⟩)) ⟨.newTask proxy, none⟩
      (single 5 (some ⟨4, "proxy:v1", some ⟨.created, 0⟩⟩)) := .at_once (.inl ⟨_, rfl, rfl, (single_set ..).symm⟩)
  have waits :
    Serves (single 5 (some ⟨4, "proxy:v1", some ⟨.created, 0⟩⟩)) ⟨.other (.taskWait proxy), none⟩
      _ := .at_once rfl
  have starts :
    Serves (single 5 (some ⟨4, "proxy:v1", some ⟨.created, 0⟩⟩)) ⟨.taskStart proxy, none⟩
      running := .at_once (.inl ⟨_, 0, rfl, rfl, (single_set ..).symm⟩)
  have ends : Serves running ⟨.exitStatus proxy, .ok 0⟩
      (single 5 (some ⟨4, "proxy:v1", some ⟨.stopped, 0⟩⟩)) := by
    refine .after_exit ⟨rfl, fun code same => ?_⟩
    cases same
    exact ⟨_, rfl, rfl⟩
  obtain ⟨trace, runs⟩ : Go.Remote.Gets Serves
      (Lifecycle.ensureFreshContainerRunning "k8s.io" "proxy" "proxy:v1").run _ _ _ :=
    ⟨_, .call lists
      (.call finds (.call creates (.call loads (.call waits (.call starts (.call ends .refl))))))⟩
  exact ⟨trace, _, runs, fresh_container_has_ended runs⟩

end Nodelet.ContainerRuntime
