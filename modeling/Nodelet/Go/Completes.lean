import Nodelet.Go.Remote

/-! Total correctness next to other goroutines. Whatever the surroundings answer, and whatever the
others do in between, a program never waits in vain, keeps to what it guarantees to the
others, and comes to an end with its postcondition. -/
namespace Go
namespace Resumption
variable {σ Request α β ε : Type} {Answer : Request → Type}

/-- The others may change the state as `rely` says before each request and before the program
returns. -/
def Completes (step : σ → Event Answer → σ → Prop) (rely guar : σ → σ → Prop)
    (post : α → σ → Prop) : Resumption Request Answer α → σ → Prop
  | .done value, s => ∀ t, rely s t → post value t
  | .call request next, s => ∀ t, rely s t → (∃ answer u, step t ⟨request, answer⟩ u) ∧
      ∀ answer u, step t ⟨request, answer⟩ u → guar t u ∧ Completes step rely guar post (next answer) u

namespace Completes
variable {step : σ → Event Answer → σ → Prop} {rely guar : σ → σ → Prop} {post : α → σ → Prop}
  {s t : σ}
  {program : Resumption Request Answer α}

theorem moved [IsTrans σ rely] (completes : Completes step rely guar post program s)
    (move : rely s t) : Completes step rely guar post program t := by
  cases program with
  | done value => exact fun u later => completes u (IsTrans.trans _ _ _ move later)
  | call request next => exact fun u later => completes u (IsTrans.trans _ _ _ move later)

variable {stronger wider : σ → σ → Prop} {weaker : α → σ → Prop} {final : β → σ → Prop}

theorem weaken (completes : Completes step rely guar post program s)
    (relies : ∀ s t, stronger s t → rely s t) (guarantees : ∀ s t, guar s t → wider s t)
    (returns : ∀ value t, post value t → weaker value t) :
    Completes step stronger wider weaker program s := by
  induction program generalizing s with
  | done value => exact fun t move => returns value t (completes t (relies s t move))
  | call request next ih =>
    intro t move
    obtain ⟨answered, goesOn⟩ := completes t (relies s t move)
    refine ⟨answered, fun answer u taken => ?_⟩
    obtain ⟨kept, rest⟩ := goesOn answer u taken
    exact ⟨guarantees t u kept, ih answer rest⟩

theorem bind {next : α → Resumption Request Answer β}
    (first : Completes step rely guar post program s)
    (rest : ∀ value t, (∀ u, rely t u → post value u) →
      Completes step rely guar final (next value) t) :
    Completes step rely guar final (program.bind next) s := by
  induction program generalizing s with
  | done value => exact rest value s first
  | call request continuation ih =>
    intro t move
    obtain ⟨answered, goesOn⟩ := first t move
    refine ⟨answered, fun answer u taken => ?_⟩
    obtain ⟨kept, later⟩ := goesOn answer u taken
    exact ⟨kept, ih answer later⟩

theorem perform {post : Answer request → σ → Prop}
    (answered : ∀ t, rely s t → ∃ answer u, step t ⟨request, answer⟩ u)
    (keeps : ∀ t answer u, rely s t → step t ⟨request, answer⟩ u → guar t u)
    (holds : ∀ t answer u v, rely s t → step t ⟨request, answer⟩ u → rely u v → post answer v) :
    Completes step rely guar post (perform request) s :=
  fun t move => ⟨answered t move, fun answer u taken =>
    ⟨keeps t answer u move taken, fun v later => holds t answer u v move taken later⟩⟩

theorem returned [Std.Refl rely] {value : α} (completes : Completes step rely guar post program s)
    (runs : Runs step program s trace (.done value) t) : post value t := by
  generalize ended : Resumption.done value = remaining at runs
  induction runs with
  | refl =>
    subst ended
    exact completes _ (refl _)
  | call taken _ ih => exact ih ((completes _ (refl _)).2 _ _ taken).2 ended

/-- What neither the program nor the others change. -/
theorem frame {Q : σ → Prop} (completes : Completes step rely guar post program s) (holds : Q s)
    (relies : ∀ s t, rely s t → Q s → Q t) (guarantees : ∀ s t, guar s t → Q s → Q t) :
    Completes step rely guar (fun value t => post value t ∧ Q t) program s := by
  induction program generalizing s with
  | done value => exact fun t move => ⟨completes t move, relies s t move holds⟩
  | call request next ih =>
    intro t move
    obtain ⟨answered, goesOn⟩ := completes t move
    refine ⟨answered, fun answer u taken => ?_⟩
    obtain ⟨kept, rest⟩ := goesOn answer u taken
    exact ⟨kept, ih answer rest (guarantees t u kept (relies s t move holds))⟩

/-- A child and its parent that tolerate each other. What the child has brought about lasts. -/
theorem parallel [Std.Refl rely] [IsTrans σ rely] {choose : Resumption Request Answer Bool}
    {child : Resumption Request Answer Unit} {parent : Resumption Request Answer (Except ε α)}
    {post : Except ε α → σ → Prop} {Q : σ → Prop}
    (choosing : ∀ s, Completes step rely rely (fun _ _ => True) choose s)
    (first : Completes step rely rely (fun _ => Q) child s)
    (second : Completes step rely rely post parent s) (lasts : ∀ s t, rely s t → Q s → Q t) :
    Completes step rely rely (fun result t => post result t ∧ ∀ value, result = .ok value → Q t)
      (parallel choose child parent) s := by
  induction child generalizing parent s with
  | done =>
    have framed := second.frame (first s (refl s)) lasts lasts
    exact framed.weaken (fun _ _ => id) (fun _ _ => id) fun _ _ both => ⟨both.1, fun _ _ => both.2⟩
  | call request next ih =>
    rw [Resumption.parallel]
    induction parent generalizing s with
    | done result =>
      cases result with
      | error err => exact fun t move => ⟨second t move, by simp⟩
      | ok value =>
        intro t move
        obtain ⟨answered, goesOn⟩ := first t move
        refine ⟨answered, fun answer u taken => ?_⟩
        obtain ⟨kept, later⟩ := goesOn answer u taken
        exact ⟨kept, ih answer later ((second.moved move).moved kept)⟩
    | call other continuation ihParent =>
      have both := (choosing s).frame (Q := fun t => Completes step rely rely (fun _ => Q) (.call request next) t ∧
        Completes step rely rely post (.call other continuation) t) ⟨first, second⟩
        (fun _ _ move both => ⟨both.1.moved move, both.2.moved move⟩)
        fun _ _ move both => ⟨both.1.moved move, both.2.moved move⟩
      refine both.bind fun b t held => ?_
      obtain ⟨-, first, second⟩ := held t (refl t)
      cases b with
      | true =>
        intro u move
        obtain ⟨answered, goesOn⟩ := first u move
        refine ⟨answered, fun answer v taken => ?_⟩
        obtain ⟨kept, later⟩ := goesOn answer v taken
        exact ⟨kept, ih answer later ((second.moved move).moved kept)⟩
      | false =>
        intro u move
        obtain ⟨answered, goesOn⟩ := second u move
        refine ⟨answered, fun answer v taken => ?_⟩
        obtain ⟨kept, later⟩ := goesOn answer v taken
        exact ⟨kept, ihParent answer ((first.moved move).moved kept) later⟩

end Completes
end Resumption

namespace Remote
open Resumption (Event Runs Completes)
variable {σ Request α β : Type} {Answer : Request → Type} {step : σ → Event Answer → σ → Prop}
  {rely guar : σ → σ → Prop} {s : σ} {program : Remote Request Answer α}

/-- The program returns a value. -/
def Succeeds (post : α → σ → Prop) (result : Except Error α) (s : σ) : Prop :=
    ∃ value, result = .ok value ∧ post value s

/-- Whatever the answers, the program comes to an end without an error. -/
def Completes (step : σ → Event Answer → σ → Prop) (rely guar : σ → σ → Prop) (post : α → σ → Prop)
    (program : Remote Request Answer α) (s : σ) : Prop :=
  Resumption.Completes step rely guar (Succeeds post) program.run s

namespace Completes
variable {post : α → σ → Prop}

theorem pure {value : α} (holds : ∀ t, rely s t → post value t) :
    Completes step rely guar post (pure value : Remote Request Answer α) s :=
  fun t move => ⟨value, rfl, holds t move⟩

theorem weaken (completes : Completes step rely guar post program s)
    (relies : ∀ s t, stronger s t → rely s t) (guarantees : ∀ s t, guar s t → wider s t)
    (returns : ∀ value t, post value t → weaker value t) :
    Completes step stronger wider weaker program s := by
  refine Resumption.Completes.weaken completes relies guarantees fun result t => ?_
  rintro ⟨value, rfl, holds⟩
  exact ⟨value, rfl, returns value t holds⟩

theorem bind [Std.Refl rely] {next : α → Remote Request Answer β}
    (first : Completes step rely guar post program s)
    (rest : ∀ value t, post value t → Completes step rely guar final (next value) t) :
    Completes step rely guar final (program >>= next) s := by
  rw [Completes, Resumption.run_bind]
  refine Resumption.Completes.bind first fun result t held => ?_
  obtain ⟨value, rfl, holds⟩ := held t (refl t)
  exact rest value t holds

theorem mapError [Std.Refl rely] {change : Error → Error}
    (completes : Completes step rely guar post program s) :
    Completes step rely guar post (Remote.mapError change program) s := by
  refine Resumption.Completes.bind completes fun result t held => ?_
  obtain ⟨value, rfl, -⟩ := held t (refl t)
  exact held

theorem lift {call : Resumption Request Answer α}
    (completes : Resumption.Completes step rely guar post call s) :
    Completes step rely guar post (ExceptT.lift call : Remote Request Answer α) s :=
  Resumption.Completes.bind completes fun value _ held u move => ⟨value, rfl, held u move⟩

theorem frame {Q : σ → Prop} (completes : Completes step rely guar post program s) (holds : Q s)
    (relies : ∀ s t, rely s t → Q s → Q t) (guarantees : ∀ s t, guar s t → Q s → Q t) :
    Completes step rely guar (fun value t => post value t ∧ Q t) program s := by
  refine (Resumption.Completes.frame completes holds relies guarantees).weaken (fun _ _ =>
    id) (fun _ _ => id) ?_
  rintro _ t ⟨⟨value, rfl, returned⟩, kept⟩
  exact ⟨value, rfl, returned, kept⟩

theorem alone [Std.Refl rely] (completes : Completes step rely guar post program s) :
    Completes step Eq (fun _ _ => True) post program s :=
  completes.weaken (fun s _ same => same ▸ refl s) (fun _ _ _ => trivial) fun _ _ => id

theorem here (completes : Completes step Eq Eq post program s) :
    Completes step Eq Eq (fun value t => post value t ∧ t = s) program s :=
  completes.frame rfl (fun _ _ same kept => same ▸ kept) fun _ _ same kept => same ▸ kept

end Completes
end Remote
end Go
