import Nodelet.ContainerRuntime.Lifecycle

/-! What is known of a container when it has been stopped or destroyed without an error. -/
namespace Nodelet.ContainerRuntime
open Go (Error Remote)
open Go.Resumption (Runs Wlp Ensures)

/-- How containerd serves the requests that do not start a container. -/
def ServesOther (s : Daemon) (event : ContainerRuntime.Event) (t : Daemon) : Prop :=
    Serves s ⟨.other event.1, event.2⟩ t

section Drift
variable {before after : Option Incarnation}

theorem Drift.hasTask (drift : Drift before after) (has : HasTask before) : HasTask after := by
  obtain rfl | ⟨i, task, code, -, -, -, rfl⟩ := drift
  · exact has
  · exact ⟨_, _, rfl, rfl⟩

variable {image : String}

theorem Drift.without {n : Nat} (drift : Drift (some ⟨n, image, .none⟩) after) :
    after = some ⟨n, image, .none⟩ := by
  obtain rfl | ⟨i, task, code, same, taken, -⟩ := drift
  · rfl
  · cases same
    cases taken

theorem Drift.task {n : Nat} {task : Task} (drift : Drift (some ⟨n, image, some task⟩) after) :
    ∃ task, after = some ⟨n, image, some task⟩ := by
  obtain rfl | ⟨i, task, code, same, -, -, rfl⟩ := drift
  · exact ⟨task, rfl⟩
  · cases same
    exact ⟨_, rfl⟩

theorem idle_of_not_hasTask (without : ¬ HasTask before) : Idle before :=
  fun i task same taken => absurd ⟨i, task, same, taken⟩ without

end Drift

section Requests
variable {β : Type} {s : Daemon} {c : Container} {final : β → Daemon → Prop}
  {serves : Daemon → ContainerRuntime.Event → Daemon → Prop}

theorem serve {request : ContainerRuntime.Request} {next : request.Answer → Operation β}
    (rest : ∀ answer t, serves s ⟨request, answer⟩ t →
      Ensures serves (next answer) t final fun _ _ => True) :
    Ensures serves (perform request >>= next) s final fun _ _ => True := rest

end Requests

/-- The wait for the end of a process does not break off with an error of its own. -/
def Waited : ContainerRuntime.Event → Prop
  | ⟨.select _ _ _, answer⟩ => ∀ err, (answer : Selected) ≠ .received (some err)
  | _ => True

def Attended (s : Daemon) (event : ContainerRuntime.Event) (t : Daemon) : Prop :=
  ServesOther s event t ∧ Waited event

section Stop
variable {s : Daemon} {c : Container}

/-- A wait that ends without an error has seen the process end; one with a timeout may have run out,
and then the status is still to come. -/
theorem waitContainerStop_bind {withTimeout : Bool}
    {next : Option Error × ExitChannel → Operation Unit} (stopped : ∀ t, Idle (t.container c) →
      Ensures Attended (next (none, .closed)) t (fun _ t => Idle (t.container c)) fun _ _ => True)
    (late : ∀ err t,
      Ensures Attended (next (some err, .pending)) t (fun _ t => Idle (t.container c))
      fun _ _ => True) :
    Ensures Attended (waitContainerStop c withTimeout .pending >>= next) s (fun _ t =>
      Idle (t.container c)) fun _ _ => True := by
  refine serve ?_
  rintro ((_ | err) | (_ | err)) t ⟨⟨middle, -, -, rfl, undone, ended⟩, waited⟩
  · exact absurd rfl undone
  · exact late _ t
  · exact stopped t fun i task same taken => .inr (ended rfl rfl i task same taken)
  · exact absurd rfl (waited err)

theorem kill_idle (paused : Bool) : Ensures Attended (StopContainer.kill c paused .pending) s
    (fun _ t => Idle (t.container c)) fun _ _ => True := by
  refine serve fun answer t _ => ?_
  cases (answer : Option Fault) with
  | some fault => trivial
  | none =>
    cases paused with
    | false => exact waitContainerStop_bind (fun _ idle => Ensures.pure idle) fun _ _ => trivial
    | true =>
      exact serve fun _ t _ => waitContainerStop_bind (fun _ idle => Ensures.pure idle) fun _ _ => trivial

/-- After the timeout the process is killed, unless the caller has given up. -/
theorem ctxErr_kill_idle (paused : Bool) :
    Ensures Attended
      (perform .ctxErr >>= fun err => orFailWith err >>= fun _ =>
      StopContainer.kill c paused .pending) s
      (fun _ t => Idle (t.container c)) fun _ _ => True := by
  refine serve fun answer t _ => ?_
  cases (answer : Option Error) with
  | some err => trivial
  | none => exact kill_idle paused

theorem terminate_idle (timeout : Int) (paused : Bool) :
    Ensures Attended (StopContainer.terminate c timeout paused) s
      (fun _ t => Idle (t.container c)) fun _ _ => True := by
  refine serve fun answer t _ => ?_
  cases (answer : Option Fault) with
  | some fault => trivial
  | none =>
    simp only [orFail]
    split
    · refine serve fun answer t _ => ?_
      cases (answer : Option Fault) with
      | some fault => trivial
      | none =>
        cases paused with
        | false =>
          exact waitContainerStop_bind (fun _ idle => Ensures.pure idle) fun _ _ => ctxErr_kill_idle false
        | true =>
          refine serve fun refused t _ => ?_
          exact waitContainerStop_bind (fun _ idle => Ensures.pure idle) fun _ _ => ctxErr_kill_idle _
    · exact kill_idle paused

theorem stopContainer_idle (seconds : Int) : Ensures Attended (stopContainer c seconds) s
    (fun _ t => Idle (t.container c)) fun _ _ => True := by
  unfold stopContainer
  cases Go.Time.parseSeconds seconds with
  | error err => trivial
  | ok timeout =>
    refine serve ?_
    rintro (_ | fault) t ⟨⟨middle, -, -, rfl, -, absent⟩, -⟩
    · refine serve ?_
      rintro (fault | status) t ⟨⟨middle, -, -, rfl, shown, -⟩, -⟩
      · trivial
      · obtain ⟨i, code, same, taken⟩ := shown status rfl
        have known : ∀ j task, t.container c = some j → j.task = some task → task.status = status := by
          rintro j task found taken'
          obtain rfl := Option.some.inj (same.symm.trans found)
          rw [← Option.some.inj (taken.symm.trans taken')]
        cases status with
        | created => exact Ensures.pure fun j task found taken => .inl (known j task found taken)
        | stopped => exact Ensures.pure fun j task found taken => .inr (known j task found taken)
        | paused | pausing => exact terminate_idle timeout true
        | running | unknown => exact terminate_idle timeout false
    · refine Ensures.ite (fun missing => ?_) fun _ => trivial
      exact Ensures.pure (idle_of_not_hasTask (absent fault rfl missing))

end Stop

section Remove
variable {s : Daemon} {c : Container}

theorem gone_of_delete {answer : Option Fault} {snapshot : Bool} {t : Daemon}
    (served : ServesOther s ⟨.delete c snapshot, answer⟩ t)
    (absent : ∀ fault, answer = some fault → fault.isNotFound = true) : t.container c = none := by
  obtain ⟨middle, -, -, attempts, missing⟩ := served
  cases answer with
  | none =>
    obtain ⟨-, rfl⟩ | ⟨impossible, -⟩ := attempts
    · exact Function.update_self ..
    · exact absurd rfl impossible
  | some fault =>
    obtain ⟨gone, rfl⟩ := missing fault rfl (absent fault rfl)
    exact gone

theorem deleteDirectly_gone : Ensures ServesOther (RemoveContainer.deleteDirectly c) s
    (fun _ t => t.container c = none) fun _ _ => True := by
  refine serve ?_
  rintro (_ | fault) t served
  · exact Ensures.pure (gone_of_delete served (by simp))
  · refine serve ?_
    rintro (_ | fault) t served
    · exact Ensures.pure (gone_of_delete served (by simp))
    · refine Ensures.ite (fun missing => ?_) fun _ => trivial
      exact Ensures.pure (gone_of_delete served (by simpa using missing))

theorem removeContainer_gone (force : Bool) : Ensures ServesOther (removeContainer c force) s
    (fun _ t => t.container c = none) fun _ _ => True := by
  refine serve ?_
  rintro (_ | fault) t ⟨middle, -, -, rfl, loaded, -⟩
  · refine serve ?_
    rintro (fault | status) t ⟨middle, -, drift, rfl, -, gone⟩
    · -- the task that was loaded is still there
      refine Ensures.ite (fun missing => ?_) fun _ => trivial
      exact absurd ((drift c).hasTask (loaded rfl)) (gone fault rfl missing)
    · refine Ensures.bind (Ensures.any _) fun _ t _ => ?_
      refine serve fun image t _ => serve ?_
      rintro (_ | fault) t served
      · exact Ensures.pure (gone_of_delete served (by simp))
      · trivial
  · exact Ensures.ite (fun _ => deleteDirectly_gone) fun _ => trivial

end Remove

section Named
variable {s : Daemon} {ns containerName : String}

theorem getContainerWithGivenName_found :
    Ensures ServesOther (getContainerWithGivenName ns containerName) s
    (fun found t => found = some ⟨ns, containerName⟩ ∨ found = none ∧
      t.container ⟨ns, containerName⟩ = none) fun _ _ => True := by
  refine serve ?_
  rintro (err | ids) t ⟨middle, -, -, rfl, listed⟩
  · trivial
  · refine Ensures.pure ?_
    cases found : (ids.map (Container.mk ns)).find? (·.id = containerName) with
    | none =>
      refine .inr ⟨rfl, not_not.mp fun exists_ => ?_⟩
      have member := (listed ids rfl containerName).mpr exists_
      have other := List.find?_eq_none.mp found _ (List.mem_map_of_mem member)
      simp at other
    | some container =>
      obtain ⟨id, -, rfl⟩ := List.mem_map.mp (List.mem_of_find?_eq_some found)
      have same : id = containerName := by simpa using List.find?_some found
      exact .inl (by rw [same])

theorem ensureContainerDestroyed_gone (seconds : Int) :
    Ensures ServesOther (ensureContainerDestroyed ns containerName seconds) s
      (fun _ t => t.container ⟨ns, containerName⟩ = none) fun _ _ => True := by
  refine Ensures.bind getContainerWithGivenName_found ?_
  rintro found t (rfl | ⟨rfl, gone⟩)
  · refine Ensures.bind (Ensures.any _) fun _ t _ => ?_
    exact Go.Remote.ensures_annotate (removeContainer_gone true)
  · exact Ensures.pure gone

theorem ensureContainerStoppedOrNonExistent_idle :
    Ensures Attended (ensureContainerStoppedOrNonExistent ns containerName) s
      (fun _ t => Idle (t.container ⟨ns, containerName⟩)) fun _ _ => True := by
  refine Ensures.bind (Wlp.restrict getContainerWithGivenName_found fun _ _ _ attended =>
    attended.1) ?_
  rintro found t (rfl | ⟨rfl, gone⟩)
  · exact Go.Remote.ensures_annotate (stopContainer_idle 10)
  · refine Ensures.pure fun i task same => ?_
    rw [gone] at same
    cases same

end Named

section Results
variable {s t : Daemon} {ns containerName : String}

/-- Where `EnsureContainerStoppedOrNonExistent` returns without an error and no wait of it has
broken off, no process of the container runs, be it that it was paused, that it did not end on
SIGTERM, or that it ended in the meantime. -/
theorem stopped_container_is_idle {trace : List ContainerRuntime.Event}
    (runs : Runs ServesOther (ensureContainerStoppedOrNonExistent ns containerName).run s trace
      (.done (.ok ())) t)
    (waited : ∀ event ∈ trace, Waited event) : Idle (t.container ⟨ns, containerName⟩) :=
  ensureContainerStoppedOrNonExistent_idle.returned (runs.keeping waited)

def proxy : Container := ⟨"k8s.io", "proxy"⟩

/-- There is at most the container of that name. -/
def single (next : Nat) (incarnation : Option Incarnation) : Daemon :=
  ⟨next, fun c => if c = proxy then incarnation else none⟩

theorem single_set (next : Nat) (before after : Option Incarnation) :
    (single next before).set proxy after = single next after := by
  simp only [single, Daemon.set, Daemon.mk.injEq, true_and]
  funext c
  by_cases same : c = proxy
  · simp [same]
  · simp [same]

def running : Daemon := single 5 (some ⟨4, "proxy:v1", some ⟨.running, 0⟩⟩)

variable {event : Go.Resumption.Event Lifecycle.Request.Answer}

theorem Serves.at_once {next : Nat} {incarnation : Option Incarnation}
    (handled : Handles (single next incarnation) event t) :
    Serves (single next incarnation) event t :=
  ⟨_, rfl, fun _ => .inl rfl, handled⟩

/-- The process of the container ends before the request is handled. -/
theorem Serves.after_exit {next number exitCode code : Nat}
    (handled : Handles (single next (some ⟨number, image, some ⟨.stopped, code⟩⟩)) event t) :
    Serves (single next (some ⟨number, image, some ⟨.running, exitCode⟩⟩)) event t := by
  refine ⟨single next (some ⟨number, image, some ⟨.stopped, code⟩⟩), rfl, fun c => ?_, handled⟩
  by_cases same : c = proxy
  · refine .inr ⟨⟨number, image, some ⟨.running, exitCode⟩⟩, ⟨.running, exitCode⟩, code, ?_, rfl,
      Status.noConfusion, ?_⟩
    · exact if_pos same
    · exact if_pos same
  · exact .inl ((if_neg same).trans (if_neg same).symm)

/-- The container of the name with a task in this state. -/
def tasked (status : Status) (code : Nat) : Daemon :=
    single 5 (some ⟨4, "proxy:v1", some ⟨status, code⟩⟩)

theorem tasked_looks (status : Status) (code : Nat) :
    ServesOther (tasked status code) ⟨.containers "k8s.io", .ok ["proxy"]⟩ (tasked status code) ∧
      ServesOther (tasked status code) ⟨.task proxy, none⟩ (tasked status code) ∧
      ServesOther (tasked status code) ⟨.taskStatus proxy, .ok status⟩ (tasked status code) := by
  refine ⟨Serves.at_once ⟨rfl, fun ids same id => ?_⟩,
    Serves.at_once ⟨rfl, fun _ => ⟨_, _, rfl, rfl⟩, by simp⟩,
    Serves.at_once ⟨rfl, fun shown same => ?_, fun _ same => ?_⟩⟩
  · cases same
    simp [single, proxy]
  · cases same
    exact ⟨_, _, rfl, rfl⟩
  · cases same

theorem stopped_container_is_idle_on_sigterm : ∃ trace t, Runs ServesOther
    (ensureContainerStoppedOrNonExistent "k8s.io" "proxy").run running trace
      (.done (.ok ())) t ∧ Idle (t.container proxy) := by
  obtain ⟨lists, loads, shows⟩ := tasked_looks .running 0
  have waits : ServesOther running ⟨.taskWait proxy, none⟩ running := Serves.at_once rfl
  have signals : ServesOther running ⟨.taskKill proxy .sigterm, none⟩ running := Serves.at_once rfl
  have ends : ServesOther running ⟨.select proxy true .pending, Selected.received none⟩ (tasked .stopped 143) := by
    refine Serves.after_exit ⟨rfl, Selected.noConfusion, fun _ _ i task same taken => ?_⟩
    cases same
    cases taken
    rfl
  have runs : Runs ServesOther (ensureContainerStoppedOrNonExistent "k8s.io" "proxy").run _ _ (.done (.ok ())) _ :=
    .call lists (.call loads (.call shows (.call waits (.call signals (.call ends .refl)))))
  refine ⟨_, _, runs, stopped_container_is_idle runs ?_⟩
  simp only [List.forall_mem_cons, Waited, List.not_mem_nil, false_implies, implies_true, and_true,
    true_and]
  exact fun err same => by cases same

/-- A wait that breaks off after SIGTERM leaves a closed channel, which the wait after SIGKILL takes
for an end: a container that cannot be resumed is still paused when no error is returned. -/
theorem broken_wait_leaves_process : ∃ trace, Runs ServesOther
    (ensureContainerStoppedOrNonExistent "k8s.io" "proxy").run (tasked .paused 0) trace
      (.done (.ok ())) (tasked .paused 0) ∧ ¬ Idle ((tasked .paused 0).container proxy) := by
  obtain ⟨lists, loads, shows⟩ := tasked_looks .paused 0
  have waits : ServesOther (tasked .paused 0) ⟨.taskWait proxy, none⟩ (tasked .paused 0) :=
    Serves.at_once rfl
  have signals (signal : Signal) :
      ServesOther (tasked .paused 0) ⟨.taskKill proxy signal, none⟩ (tasked .paused 0) :=
    Serves.at_once rfl
  have resumes :
      ServesOther (tasked .paused 0) ⟨.taskResume proxy, some ⟨"ttrpc: closed", false⟩⟩
        (tasked .paused 0) :=
    Serves.at_once (.inr ⟨by simp, rfl⟩)
  have breaks : ServesOther (tasked .paused 0)
      ⟨.select proxy true .pending, Selected.received (some "ttrpc: closed")⟩ (tasked .paused 0) :=
    Serves.at_once ⟨rfl, Selected.noConfusion, fun _ same => by cases same⟩
  have lives : ServesOther (tasked .paused 0) ⟨.ctxErr, none⟩ (tasked .paused 0) :=
    Serves.at_once rfl
  have closed :
      ServesOther (tasked .paused 0) ⟨.select proxy false .closed, Selected.received none⟩
        (tasked .paused 0) :=
    Serves.at_once ⟨rfl, Selected.noConfusion, fun pending => by cases pending⟩
  refine ⟨_, .call lists (.call loads (.call shows (.call waits (.call (signals .sigterm) (.call resumes (.call breaks
    (.call lives (.call (signals .sigkill) (.call resumes (.call closed .refl)))))))))),
      fun idle => ?_⟩
  simpa using idle _ _ rfl rfl

end Results
end Nodelet.ContainerRuntime
