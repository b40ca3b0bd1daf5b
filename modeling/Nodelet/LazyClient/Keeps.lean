import Nodelet.LazyClient

/-! What a call does once it has its client: it keeps it, and creates no other. -/
namespace Nodelet.LazyClient
open Go (Error Failure)
open Go.Faulty (Panics)
open Go.Resumption (Traces Emits)
open NativePhase (Client)

section Keeps
variable {program : Operation α} {next : α → Operation β}

theorem run_bind (client : Client) : (program >>= next) client = (program client).bind fun
    | (.ok value, client) => next value client
    | (.error failure, client) => .done (.error failure, client) := by
  refine congrArg (program client).bind (funext fun result => ?_)
  obtain ⟨_ | _, _⟩ := result <;> rfl

/-- No client is created, and the one that is there is kept; with one that is usable there is no
panic. -/
def Keeps (usable : Client → Prop) (program : Operation α) : Prop :=
  ∀ client, Emits (fun event : Event => event.1 ≠ .newClient)
    (fun result => result.2 = client ∧ (usable client → ¬ Panics result.1)) (program client)

variable {usable : Client → Prop}

theorem keeps_pure (value : α) : Keeps usable (pure value : Operation α) := by
  refine fun client => ⟨rfl, fun _ => ?_⟩
  rintro ⟨cause, panicked⟩
  cases panicked

theorem keeps_fail (err : Error) : Keeps usable (fail err : Operation α) := by
  refine fun client => ⟨rfl, fun _ => ?_⟩
  rintro ⟨cause, panicked⟩
  cases panicked

theorem keeps_orFail (err : Option Error) : Keeps usable (orFail err) := by
  cases err with
  | some err => exact keeps_fail err
  | none => exact keeps_pure ()

theorem keeps_perform (other : request ≠ .newClient) : Keeps usable (perform request) := by
  refine fun client answer => ⟨other, rfl, fun _ => ?_⟩
  rintro ⟨cause, panicked⟩
  cases panicked

theorem Keeps.bind (first : Keeps usable program) (rest : ∀ value, Keeps usable (next value)) :
    Keeps usable (program >>= next) := by
  intro client
  rw [run_bind]
  refine (first client).bind ?_
  rintro ⟨result, after⟩ ⟨same, safe⟩
  obtain rfl : after = client := same
  cases result with
  | ok value => exact rest value after
  | error failure =>
    refine ⟨rfl, fun ready => ?_⟩
    rintro ⟨cause, panicked⟩
    cases panicked
    exact safe ready ⟨cause, rfl⟩

theorem Keeps.ite {condition : Prop} [Decidable condition] {yes no : Operation α}
    (positive : Keeps usable yes)
    (negative : Keeps usable no) : Keeps usable (if condition then yes else no) := by
  split
  · exact positive
  · exact negative

theorem keeps_call (method : Method) : Keeps (· = .ready) (call method) := by
  intro client
  cases client with
  | ready => exact keeps_perform (by simp) .ready
  | unset => exact ⟨rfl, fun ready => by cases ready⟩
  | null => exact ⟨rfl, fun ready => by cases ready⟩

theorem keeps_callOrFail (method : Method) (answers : method.Answer = Option Error) :
    Keeps (· = .ready) (callOrFail method answers) :=
  (keeps_call method).bind fun _ => keeps_orFail _

theorem keeps_getNodeFromK8sApi : Keeps (· = .ready) getNodeFromK8sApi := by
  refine (keeps_call _).bind fun answer => ?_
  rcases (answer : Except Error Cordon.Node) with err | node
  · exact keeps_fail err
  · exact keeps_pure node

theorem keeps_getNodeIdentifier : Keeps usable getNodeIdentifier := by
  refine (keeps_perform (by simp)).bind fun answer => ?_
  rcases (answer : Except Error String) with err | nodeIdentifier
  · exact keeps_fail err
  · exact keeps_pure nodeIdentifier

theorem keeps_getOwnIdentifier : Keeps usable getOwnIdentifier :=
  keeps_getNodeIdentifier.bind fun _ => .ite (keeps_fail _) (keeps_pure _)

theorem keeps_ask (other : request ≠ .newClient) (answers : request.Answer = Option Error) :
    Keeps usable (do orFail (answers ▸ (← perform request))) :=
  (keeps_perform other).bind fun _ => keeps_orFail _

end Keeps

section Parts
variable (cfg : Config)

theorem keeps_label : Keeps (· = .ready) (LabelTaintNodePhase.label cfg) := by
  refine keeps_getOwnIdentifier.bind fun _ => (keeps_callOrFail _ _).bind fun _ => ?_
  exact .ite (keeps_callOrFail _ _) (keeps_pure _)

theorem keeps_notice : Keeps (· = .ready) UncordonNodePhase.notice := by
  refine keeps_getNodeIdentifier.bind fun _ =>
    (keeps_perform (by simp)).bind fun (booting : Bool) => ?_
  cases booting with
  | true => exact keeps_pure _
  | false =>
    refine keeps_getNodeFromK8sApi.bind fun node => ?_
    exact .ite (keeps_pure _) (.ite (keeps_callOrFail _ _) (keeps_callOrFail _ _))

theorem keeps_uncordon : Keeps (· = .ready) UncordonNodePhase.uncordon := by
  refine keeps_getOwnIdentifier.bind fun _ => (keeps_callOrFail _ _).bind fun _ => ?_
  refine keeps_getNodeFromK8sApi.bind fun node => .ite (keeps_pure _) ?_
  exact (keeps_callOrFail _ _).bind fun _ => keeps_ask (by simp) rfl

theorem keeps_look : Keeps (· = .ready) MiscPhase.look := by
  refine (keeps_perform (by simp)).bind fun err => (keeps_orFail err).bind fun _ => ?_
  exact keeps_getNodeFromK8sApi.bind fun _ => keeps_pure _

theorem keeps_drain : Keeps (· = .ready) DrainNodePhase.drain := by
  refine (keeps_perform (by simp)).bind fun err => (keeps_orFail err).bind fun _ => ?_
  refine keeps_getNodeIdentifier.bind fun _ => (keeps_callOrFail _ _).bind fun _ => ?_
  exact keeps_callOrFail _ _

theorem keeps_deploy : Keeps usable (DeployAppCatalogPhase.deploy cfg) :=
  .ite (keeps_ask (by simp) rfl) (keeps_pure _)

theorem keeps_removeMarker : Keeps usable DrainNodePhase.start := by
  refine (keeps_perform (by simp)).bind fun answer => ?_
  rcases (answer : Option (Error × Bool)) with _ | ⟨err, _ | _⟩
  · exact keeps_pure _
  · exact keeps_fail err
  · exact keeps_pure _

end Parts

end Nodelet.LazyClient
