import Nodelet.ContainerRuntime.Utils
import Nodelet.Go.Leads
import Nodelet.NativePhases

/-! Which containers are gone when all containers of a list of namespaces have been destroyed.
Others may remove containers between two calls. -/
namespace Nodelet.ContainerRuntime
open Go (Error)
open Go.Resumption (Runs Leads)
open Go.Remote (Gets)
open Constants

/-- The containers of each namespace. -/
abbrev Store := String → List String

/-- An error that says that there is nothing of that name is none. -/
def Absent (answer : Option Fault) : Prop := ∀ fault, answer = some fault → fault.isNotFound = true

def Consistent (s : Store) (event : Event) (t : Store) : Prop :=
  match event with
  | ⟨.containers ns, answer⟩ => ∀ ids, (answer : Except Error (List String)) = .ok ids →
    ∀ id, id ∈ ids ↔ id ∈ s ns
  | ⟨.delete container _, answer⟩ => Absent answer → container.id ∉ t container.ns
  | _ => True

/-- What containerd answers. Nobody creates a container. -/
def step (s : Store) (event : Event) (t : Store) : Prop :=
    (∀ ns, t ns ⊆ s ns) ∧ Consistent s event t

/-- An answer that no container is skipped for. -/
def Served : Event → Prop
  | ⟨.task _, answer⟩ | ⟨.taskDelete _ _, answer⟩ | ⟨.delete _ _, answer⟩ => Absent answer
  | ⟨.taskStatus _, answer⟩ => ∃ status, (answer : Except Fault Status) = .ok status
  | ⟨.taskWait _, answer⟩ | ⟨.taskKill _ _, answer⟩ => (answer : Option Fault) = none
  | ⟨.select container withTimeout exitCh, answer⟩ =>
    withTimeout = true ∨ (Selected.result container.id exitCh answer).1 = none
  | ⟨.ctxErr, answer⟩ => (answer : Option Error) = none
  | _ => True

def Deletes (container : Container) (event : Event) : Prop :=
  ∃ withSnapshotCleanup answer, event = ⟨.delete container withSnapshotCleanup, answer⟩

section Containers
variable {container : Container} {found : Event → Prop}

theorem waitContainerStop_served {withTimeout : Bool}
    {next : Option Error × ExitChannel → Operation Unit}
    (rest : ∀ result : Option Error × ExitChannel, withTimeout = true ∨ result.1 = none →
      Leads Served found (· = .ok ()) (next result).run) :
    Leads Served found (· = .ok ()) (waitContainerStop container withTimeout exitCh >>= next).run :=
  Leads.perform_bind fun _ served => .inr (rest _ served)

theorem kill_served (paused : Bool) (exitCh : ExitChannel) :
    Leads Served found (· = .ok ()) (StopContainer.kill container paused exitCh).run := by
  have waits : Leads Served found (· = .ok ())
      (waitContainerStop container false exitCh >>= fun waited => orFailWith waited.1 : Operation Unit).run := by
    refine waitContainerStop_served ?_
    rintro ⟨err, _⟩ (impossible | rfl)
    · contradiction
    · rfl
  refine Leads.perform_bind fun answer killed => .inr ?_
  cases (killed : (answer : Option Fault) = none)
  cases paused with
  | false => exact waits
  | true => exact Leads.perform_bind fun _ _ => .inr waits

theorem terminate_served (timeout : Int) (paused : Bool) :
    Leads Served found (· = .ok ()) (StopContainer.terminate container timeout paused).run := by
  refine Leads.perform_bind fun answer waits => .inr ?_
  cases (waits : (answer : Option Fault) = none)
  simp only [orFail]
  split
  · refine Leads.perform_bind fun answer killed => .inr ?_
    cases (killed : (answer : Option Fault) = none)
    have late (paused : Bool) (exitCh : ExitChannel) : Leads Served found (· = .ok ()) (do
        orFailWith (← perform .ctxErr)
        StopContainer.kill container paused exitCh : Operation Unit).run := by
      refine Leads.perform_bind fun answer alive => .inr ?_
      cases (alive : (answer : Option Error) = none)
      exact kill_served paused exitCh
    cases paused with
    | false =>
      refine waitContainerStop_served ?_
      rintro ⟨_ | _, exitCh⟩ _
      · rfl
      · exact late false exitCh
    | true =>
      refine Leads.perform_bind fun refused _ => .inr (waitContainerStop_served ?_)
      rintro ⟨_ | _, exitCh⟩ _
      · rfl
      · exact late _ exitCh
  · exact kill_served paused .pending

theorem stopContainer_served :
    Leads Served found (· = .ok ()) (stopContainer container timeOut).run := by
  refine Leads.perform_bind fun answer loaded => .inr ?_
  cases (answer : Option Fault) with
  | some fault => exact Leads.ite_pos (loaded fault rfl) rfl
  | none =>
    refine Leads.perform_bind fun answer shown => .inr ?_
    obtain ⟨status, rfl⟩ := (shown : ∃ status, (answer : Except Fault Status) = .ok status)
    cases status with
    | created | stopped => rfl
    | paused | pausing => exact terminate_served _ true
    | running | unknown => exact terminate_served _ false

theorem deleteTask_served (withProcessKill : Bool) :
    Leads Served found (· = .ok ()) (RemoveContainer.deleteTask container withProcessKill).run := by
  refine Leads.perform_bind fun answer deleted => .inr ?_
  cases (answer : Option Fault) with
  | none => rfl
  | some fault => exact Leads.ite_pos (deleted fault rfl) rfl

theorem endTask_served (status : Status) :
    Leads Served found (· = .ok ()) (RemoveContainer.endTask container true status).run := by
  have kills :
      Leads Served found (· = .ok ()) (RemoveContainer.endTask container true .running).run := by
    refine Leads.perform_bind fun answer killed => .inr ?_
    cases (killed : (answer : Option Fault) = none)
    refine Leads.perform_bind fun answer waits => .inr ?_
    cases (waits : (answer : Option Fault) = none)
    exact Leads.perform_bind fun _ _ => .inr (deleteTask_served true)
  cases status with
  | created | stopped => exact deleteTask_served false
  | paused => exact deleteTask_served true
  | running | pausing | unknown => exact kills

theorem removeContainer_served :
    Leads Served (Deletes container) (fun _ => False) (removeContainer container true).run := by
  refine Leads.perform_bind fun answer loaded => .inr ?_
  cases (answer : Option Fault) with
  | some fault =>
    refine Leads.ite_pos (loaded fault rfl) ?_
    exact Leads.perform_bind fun answer _ => .inl ⟨true, answer, rfl⟩
  | none =>
    refine Leads.perform_bind fun answer shown => .inr ?_
    obtain ⟨status, rfl⟩ := (shown : ∃ status, (answer : Except Fault Status) = .ok status)
    refine Leads.bindOk (endTask_served status) ?_
    refine Leads.perform_bind fun image _ => .inr ?_
    exact Leads.perform_bind fun answer _ => .inl ⟨_, answer, rfl⟩

variable {containers : List Container}

theorem ensureContainersDestroyed_served (member : container ∈ containers) :
    Leads Served (Deletes container) (fun _ =>
      False) (ensureContainersDestroyed timeOut containers).run := by
  induction containers with
  | nil => contradiction
  | cons head rest ih =>
    obtain rfl | later := List.mem_cons.mp member
    · refine Leads.lift_bind (Leads.bindOk stopContainer_served removeContainer_served) ?_
      intro _ impossible
      exact impossible.elim
    · exact Leads.lift_bind (Leads.any _) fun _ _ => ih later

end Containers

section Runs
variable {α : Type} {program remaining : Go.Resumption Request Request.Answer α} {s t : Store}
  {trace : List Event}

theorem subset_of_runs (runs : Runs step program s trace remaining t) (ns : String) :
    t ns ⊆ s ns := by
  induction runs with
  | refl => exact List.Subset.refl _
  | call taken _ ih => exact List.Subset.trans ih (taken.1 ns)

theorem deleted_of_runs (runs : Runs step program s trace remaining t)
    (member : event ∈ trace) (deletes : Deletes container event) (served : Served event) :
    container.id ∉ t container.ns := by
  induction runs with
  | refl => contradiction
  | call taken rest ih =>
    obtain rfl | later := List.mem_cons.mp member
    · obtain ⟨withSnapshotCleanup, answer, same⟩ := deletes
      cases same
      intro still
      exact taken.2 served (subset_of_runs rest _ still)
    · exact ih later

end Runs

/-- The containers that a namespace had when the call listed it, or when the call began if it never
did. -/
def Existed (s : Store) (trace : List Event) (ns id : String) : Prop :=
  (∃ ids, ⟨.containers ns, .ok ids⟩ ∈ trace ∧ id ∈ ids) ∨
    (∀ answer, ⟨.containers ns, answer⟩ ∉ trace) ∧ id ∈ s ns

def Destroyed (namespaces : List String) (s : Store) (trace : List Event) (t : Store) : Prop :=
  ∀ ns ∈ namespaces, ∀ id, Existed s trace ns id → id ∉ t ns

section Namespaces
variable {ns : String} {s t : Store} {trace : List Event}

theorem listed_of_runs
    (runs : Runs step (getContainersInNamespace ns).run s trace (.done (.ok containers)) t) :
    ∀ id ∈ s ns, ⟨ns, id⟩ ∈ containers := by
  obtain ⟨answer, middle, rest, -, taken, later⟩ := Go.Resumption.runs_call_done.mp runs
  cases shown : (answer : Except Error (List String)) with
  | error err =>
    subst shown
    exact absurd (Go.Resumption.runs_done.mp later).2.1 (by simp)
  | ok ids =>
    subst shown
    obtain ⟨-, same, -⟩ := Go.Resumption.runs_done.mp later
    cases same
    intro id exists_
    exact List.mem_map_of_mem ((taken.2 ids rfl id).mpr exists_)

theorem destroyContainersInNamespace_empties
    (runs : Runs step (destroyContainersInNamespace ns).run s trace (.done (.ok ())) t)
    (served : ∀ event ∈ trace, Served event) : t ns = [] := by
  have fewer := subset_of_runs runs ns
  obtain ⟨first, containers, middle, second, rfl, lists, destroys⟩ :=
    Go.Resumption.runs_bind_ok.mp runs
  rw [Go.Remote.annotate, Go.Remote.runs_mapError_ok] at lists destroys
  have late : ∀ event ∈ second, Served event := fun event member =>
    served event (List.mem_append_right first member)
  refine List.eq_nil_iff_forall_not_mem.mpr fun id still => ?_
  have listed := listed_of_runs lists id (fewer still)
  obtain ⟨event, member, deletes⟩ | impossible :=
    (ensureContainersDestroyed_served listed).found_or_returned destroys late
  · exact deleted_of_runs destroys member deletes (late event member) still
  · exact impossible

end Namespaces

/-! A namespace after the first is never listed: a run in which every request is served leaves what
it holds. -/

section Later
variable {ns : String} {s : Store}

def withoutContainer (s : Store) (container : Container) : Store :=
  Function.update s container.ns ((s container.ns).filter (· ≠ container.id))

/-- Containerd serves every request, and is not asked for the containers of `ns`. -/
def servingStep (ns : String) (s : Store) (event : Event) (t : Store) : Prop :=
  step s event t ∧ Served event ∧ event.1 ≠ .containers ns

theorem gets_destroyed (s : Store) (container : Container) :
    Gets (servingStep ns)
      (do stopContainer container timeOut; removeContainer container true : Operation Unit).run
      s (.ok ()) (withoutContainer s container) := by
  have noTask : servingStep ns s ⟨.task container, some ⟨"task not found", true⟩⟩ s := by
    refine ⟨⟨fun _ => List.Subset.refl _, trivial⟩, ?_, by simp⟩
    intro fault same
    cases same
    rfl
  have deletes :
      servingStep ns s ⟨.delete container true, none⟩ (withoutContainer s container) := by
    refine ⟨⟨fun other => ?_, fun _ => ?_⟩, ?_, by simp⟩
    · by_cases same : other = container.ns
      · subst same
        simp [withoutContainer]
      · simp [withoutContainer, same]
    · simp [withoutContainer]
    · intro fault same
      cases same
  exact ⟨_, .call noTask (.call noTask (.call deletes .refl))⟩

theorem gets_ensureContainersDestroyed (ns : String) (s : Store) (containers : List Container) :
    ∃ t, Gets (servingStep ns) (ensureContainersDestroyed timeOut containers).run s (.ok ()) t ∧
      ∀ other, (∀ container ∈ containers, container.ns ≠ other) → t other = s other := by
  induction containers generalizing s with
  | nil => exact ⟨s, .done, fun _ _ => rfl⟩
  | cons container rest ih =>
    obtain ⟨t, gets, kept⟩ := ih (withoutContainer s container)
    refine ⟨t, Gets.bindOk (Gets.lift (gets_destroyed s container)) gets, ?_⟩
    intro other elsewhere
    obtain ⟨apart, later⟩ := List.forall_mem_cons.mp elsewhere
    rw [kept other later, withoutContainer, Function.update_of_ne apart.symm]

theorem gets_destroyContainersInNamespace {first : String} (apart : first ≠ ns) :
    ∃ t, Gets (servingStep ns) (destroyContainersInNamespace first).run s (.ok ()) t ∧
      t ns = s ns := by
  obtain ⟨t, gets, kept⟩ := gets_ensureContainersDestroyed ns s ((s first).map (Container.mk first))
  have lists : servingStep ns s ⟨.containers first, .ok (s first)⟩ s := by
    refine ⟨⟨fun _ => List.Subset.refl _, ?_⟩, trivial, by simpa using apart⟩
    intro ids same id
    cases same
    exact Iff.rfl
  refine ⟨t, Gets.bindOk (Gets.mapError ⟨_, .call lists .refl⟩) (Gets.mapError gets), kept ns ?_⟩
  simp [apart]

end Later

/-- All containers are destroyed, where containerd serves every request, exactly if those of the
later namespaces do not have to be. -/
theorem destroyContainersInNamespacesList_destroys_iff (namespaces : List String) (s : Store) :
    (∀ trace t,
      Runs step (destroyContainersInNamespacesList namespaces).run s trace (.done (.ok ())) t →
      (∀ event ∈ trace, Served event) → Destroyed namespaces s trace t) ↔
    ∀ ns ∈ namespaces, namespaces.head? ≠ some ns → s ns = [] := by
  constructor
  · intro destroys ns member later
    cases namespaces with
    | nil => contradiction
    | cons first rest =>
      have apart : first ≠ ns := by simpa using later
      obtain ⟨t, ⟨trace, runs⟩, kept⟩ := gets_destroyContainersInNamespace (s := s) apart
      have events := runs.taken
      have quiet : ∀ answer, ⟨.containers ns, answer⟩ ∉ trace := by
        intro answer listed
        obtain ⟨_, _, _, _, unlisted⟩ := events _ listed
        exact unlisted rfl
      have served : ∀ event ∈ trace, Served event := by
        intro event happened
        obtain ⟨_, _, _, fine, _⟩ := events event happened
        exact fine
      have gone := destroys trace t (runs.weaken fun _ _ _ taken => taken.1) served ns member
      refine List.eq_nil_iff_forall_not_mem.mpr fun id existed => ?_
      exact gone id (.inr ⟨quiet, existed⟩) (kept ▸ existed)
  · intro empty trace t runs served ns member id _ still
    cases namespaces with
    | nil => contradiction
    | cons first rest =>
      by_cases same : first = ns
      · subst same
        rw [destroyContainersInNamespace_empties runs served] at still
        contradiction
      · have before := subset_of_runs runs ns still
        rw [empty ns member (by simpa using same)] at before
        contradiction

def oneContainer (ns id : String) : Store := fun other => if other = ns then [id] else []

/-- A container of the second namespace is never looked at, and one whose task cannot be killed is
skipped. No error is returned for either. -/
theorem containers_survive :
    (∃ trace, Runs step (destroyContainersInNamespacesList [k8sNamespace, mobyNamespace]).run
        (oneContainer mobyNamespace "registry") trace (.done (.ok ()))
        (oneContainer mobyNamespace "registry") ∧
      ¬ Destroyed [k8sNamespace, mobyNamespace] (oneContainer mobyNamespace "registry") trace
        (oneContainer mobyNamespace "registry")) ∧
    ∃ trace, Runs step (destroyContainersInNamespacesList [k8sNamespace]).run
      (oneContainer k8sNamespace "proxy") trace
        (.done (.ok ())) (oneContainer k8sNamespace "proxy") ∧
      ¬ Destroyed [k8sNamespace] (oneContainer k8sNamespace "proxy") trace
      (oneContainer k8sNamespace "proxy") := by
  have quiet {s : Store} {event : Event} (answered : Consistent s event s) : step s event s :=
    ⟨fun _ => List.Subset.refl _, answered⟩
  have lists {s : Store} {ns : String} : step s ⟨.containers ns, .ok (s ns)⟩ s := by
    refine quiet fun ids same id => ?_
    cases same
    exact Iff.rfl
  constructor
  · refine ⟨_, .call lists .refl, fun destroyed => ?_⟩
    refine destroyed mobyNamespace (by simp) "registry" (.inr ⟨?_, ?_⟩) ?_
    · intro answer listed
      have same := Request.containers.inj (Sigma.mk.inj (List.mem_singleton.mp listed)).1
      exact absurd same (by decide)
    · decide
    · decide
  · have loads : step (oneContainer k8sNamespace "proxy") ⟨.task ⟨k8sNamespace, "proxy"⟩, none⟩ _ := quiet trivial
    have shows : step (oneContainer k8sNamespace "proxy") ⟨.taskStatus ⟨k8sNamespace, "proxy"⟩, .ok .running⟩ _ :=
      quiet trivial
    have waits : step (oneContainer k8sNamespace "proxy") ⟨.taskWait ⟨k8sNamespace, "proxy"⟩, none⟩ _ := quiet trivial
    have fails : step (oneContainer k8sNamespace "proxy")
        ⟨.taskKill ⟨k8sNamespace, "proxy"⟩ .sigterm, some ⟨"context deadline exceeded", false⟩⟩ _ := quiet trivial
    refine ⟨_, .call lists (.call loads (.call shows (.call waits (.call fails .refl)))),
      fun destroyed => ?_⟩
    refine destroyed k8sNamespace (by simp) "proxy" (.inl ⟨["proxy"], ?_, ?_⟩) ?_
    · exact List.mem_cons_self
    · decide
    · decide

end Nodelet.ContainerRuntime
