import Nodelet.Go.Faulty
import Nodelet.Go.Remote

/-! The weakest liberal precondition of a program whose requests are served on a state, each in one
of several ways: however they are served, the outcome of a run that ends satisfies the
postcondition. -/
namespace Go.Resumption
variable {σ Request α β : Type} {Answer : Request → Type}

def Wlp (step : σ → Event Answer → σ → Prop) (post : α → σ → Prop) :
    Resumption Request Answer α → σ → Prop
  | .done value, s => post value s
  | .call request next, s => ∀ answer t, step s ⟨request, answer⟩ t → Wlp step post (next answer) t

namespace Wlp
variable {step : σ → Event Answer → σ → Prop} {post : α → σ → Prop} {s t : σ}
  {program : Resumption Request Answer α} {trace : List (Event Answer)} {weaker : α → σ → Prop}

theorem returned {value : α} (wlp : Wlp step post program s)
    (runs : Runs step program s trace (.done value) t) : post value t := by
  generalize ends : Resumption.done value = remaining at runs
  induction runs with
  | refl =>
    subst ends
    exact wlp
  | call taken _ ih => exact ih (wlp _ _ taken) ends

theorem any (program : Resumption Request Answer α) (s : σ) :
    Wlp step (fun _ _ => True) program s := by
  induction program generalizing s with
  | done value => trivial
  | call request next ih => exact fun answer t _ => ih answer t

theorem weaken (wlp : Wlp step post program s)
    (implies : ∀ value t, post value t → weaker value t) : Wlp step weaker program s := by
  induction program generalizing s with
  | done value => exact implies value s wlp
  | call request next ih => exact fun answer t taken => ih answer (wlp answer t taken)

theorem restrict {stricter : σ → Event Answer → σ → Prop} (wlp : Wlp step post program s)
    (implies : ∀ s event t, stricter s event t → step s event t) : Wlp stricter post program s := by
  induction program generalizing s with
  | done value => exact wlp
  | call request next ih => exact fun answer t taken => ih answer (wlp answer t (implies _ _ _ taken))

theorem bind {next : α → Resumption Request Answer β} {final : β → σ → Prop}
    (first : Wlp step post program s)
    (rest : ∀ value t, post value t → Wlp step final (next value) t) :
    Wlp step final (program.bind next) s := by
  induction program generalizing s with
  | done value => exact rest value s first
  | call request continuation ih => exact fun answer t taken => ih answer (first answer t taken)

/-- Requests may be answered by programs that keep to what is required of the answers. -/
theorem translate {Request' : Type} {Answer' : Request' → Type}
    {lower : σ → Event Answer' → σ → Prop}
    {implement : (request : Request) → Resumption Request' Answer' (Answer request)}
    (implements : ∀ request s,
      Wlp lower (fun answer t => step s ⟨request, answer⟩ t) (implement request) s)
    (wlp : Wlp step post program s) : Wlp lower post (program.translate implement) s := by
  induction program generalizing s with
  | done value => exact wlp
  | call request next ih => exact (implements request s).bind fun answer t taken => ih answer (wlp answer t taken)

theorem along {Before : σ → σ → Prop} {first : σ} (wlp : Wlp step post program s)
    (extend : ∀ first s event t, Before first s → step s event t → Before first t)
    (before : Before first s) :
    Wlp step (fun value t => post value t ∧ Before first t) program s := by
  induction program generalizing s with
  | done value => exact ⟨wlp, before⟩
  | call request next ih => exact fun answer t taken => ih answer (wlp answer t taken) (extend _ _ _ _ before taken)

end Wlp

section Ensures
variable {ε : Type}

def ends (post : α → σ → Prop) (failed : ε → σ → Prop) : Except ε α → σ → Prop
  | .ok value, t => post value t
  | .error failure, t => failed failure t

/-- However its requests are served, the program returns with `post` or fails with `failed`. -/
def Ensures (step : σ → Event Answer → σ → Prop) (program : ExceptT ε (Resumption Request Answer) α)
    (s : σ) (post : α → σ → Prop) (failed : ε → σ → Prop) : Prop :=
  Wlp step (ends post failed) program.run s

namespace Ensures
variable {step : σ → Event Answer → σ → Prop} {s t : σ}
  {program : ExceptT ε (Resumption Request Answer) α}
  {post : α → σ → Prop} {failed : ε → σ → Prop}

theorem returned {value : α} (ensures : Ensures step program s post failed)
    (runs : Runs step program.run s trace (.done (.ok value)) t) : post value t := by
  have holds : ends post failed (.ok value) t := Wlp.returned ensures runs
  exact holds

theorem threw {failure : ε} (ensures : Ensures step program s post failed)
    (runs : Runs step program.run s trace (.done (.error failure)) t) : failed failure t := by
  have holds : ends post failed (.error failure) t := Wlp.returned ensures runs
  exact holds

theorem pure {value : α} (holds : post value s) :
    Ensures step (pure value : ExceptT ε (Resumption Request Answer) α) s post failed := holds

theorem throw {failure : ε} (holds : failed failure s) :
    Ensures step (throw failure : ExceptT ε (Resumption Request Answer) α) s post failed := holds

theorem any (program : ExceptT ε (Resumption Request Answer) α) :
    Ensures step program s (fun _ _ => True) (fun _ _ => True) := by
  refine Wlp.weaken (Wlp.any program.run s) ?_
  rintro (failure | value) t holds
  · exact holds
  · exact holds

theorem weaken {weakerFailed : ε → σ → Prop} (ensures : Ensures step program s post failed)
    (implies : ∀ value t, post value t → weaker value t)
    (whenFailed : ∀ failure t, failed failure t → weakerFailed failure t) :
    Ensures step program s weaker weakerFailed := by
  refine Wlp.weaken ensures ?_
  rintro (failure | value) t holds
  · exact whenFailed failure t holds
  · exact implies value t holds

variable {final : β → σ → Prop}

theorem bind {next : α → ExceptT ε (Resumption Request Answer) β}
    (first : Ensures step program s post failed)
    (rest : ∀ value t, post value t → Ensures step (next value) t final failed) :
    Ensures step (program >>= next) s final failed := by
  unfold Ensures
  rw [run_bind]
  refine Wlp.bind first ?_
  rintro (failure | value) t holds
  · exact holds
  · exact rest value t holds

/-- The rule for one request. -/
theorem perform_bind {request : Request}
    {next : Answer request → ExceptT ε (Resumption Request Answer) β}
    (rest : ∀ answer t, step s ⟨request, answer⟩ t → Ensures step (next answer) t final failed) :
    Ensures step (ExceptT.mk (.call request fun answer => .done (.ok answer)) >>= next) s final
      failed := rest

theorem ite {condition : Prop} [Decidable condition]
    {yes no : ExceptT ε (Resumption Request Answer) α}
    (whenTrue : condition → Ensures step yes s post failed)
    (whenFalse : ¬ condition → Ensures step no s post failed) :
    Ensures step (if condition then yes else no) s post failed := by
  split
  · exact whenTrue ‹_›
  · exact whenFalse ‹_›

/-- What each step implies, and what goes on from step to step, holds from the beginning to the
end. -/
theorem along {Before : σ → σ → Prop} (ensures : Ensures step program s post fun _ _ => True)
    (refl : ∀ s, Before s s)
    (extend : ∀ first s event t, Before first s → step s event t → Before first t) :
    Ensures step program s (fun value t => post value t ∧ Before s t) fun _ _ => True := by
  refine Wlp.weaken (Wlp.along ensures extend (refl s)) ?_
  rintro (failure | value) t ⟨holds, before⟩
  · trivial
  · exact ⟨holds, before⟩

end Ensures
end Ensures
end Go.Resumption

namespace Go.Faulty
open Resumption (Event Runs Wlp Ensures)
variable {σ Request α β : Type} {Answer : Request → Type} {step : σ → Event Answer → σ → Prop}
  {s t : σ}

/-- Return another error in place of the one of the program; a panic goes through. -/
def mapError (change : Error → Error) (program : Faulty Request Answer α) :
    Faulty Request Answer α :=
  ExceptT.mk (program.run.bind fun outcome => .done (outcome.mapError fun
    | .error err => .error (change err)
    | .panic cause => .panic cause))

section Rules
variable {program : Faulty Request Answer α} {post : α → σ → Prop} {failed : Failure → σ → Prop}
  {err : Option Error} {result : Except Error α} {change : Error → Error}

theorem ensures_orFail {next : Unit → Faulty Request Answer β} {final : β → σ → Prop}
    (failing : ∀ text, err = some text → failed (.error text) s)
    (rest : err = none → Ensures step (next ()) s final failed) :
    Ensures step (orFail err >>= next) s final failed := by
  cases err with
  | some text => exact failing text rfl
  | none => exact rest rfl

theorem ensures_ofExcept {next : α → Faulty Request Answer β} {final : β → σ → Prop}
    (failing : ∀ text, result = .error text → failed (.error text) s)
    (rest : ∀ value, result = .ok value → Ensures step (next value) s final failed) :
    Ensures step (ofExcept result >>= next) s final failed := by
  cases result with
  | error text => exact failing text rfl
  | ok value => exact rest value rfl

theorem ensures_mapError (ensures : Ensures step program s post failed)
    (changes : ∀ err t, failed (.error err) t → failed (.error (change err)) t) :
    Ensures step (Faulty.mapError change program) s post failed := by
  refine Wlp.bind ensures ?_
  rintro ((err | cause) | value) t holds
  · exact changes err t holds
  · exact holds
  · exact holds

end Rules

section Emits
open Remote (Emits Sends)
variable {P : Event Answer → Prop} {post : α → Prop} {final : β → Prop}
  {program : Faulty Request Answer α}

theorem emits_perform_bind {request : Request} {next : Answer request → Faulty Request Answer β}
    (allowed : ∀ answer, P ⟨request, answer⟩) (rest : ∀ answer, Emits P final (next answer)) :
    Emits P final (perform request >>= next) := fun answer => ⟨allowed answer, rest answer⟩

theorem emits_orFail : Sends P (orFail err : Faulty Request Answer Unit) := by
  cases err <;> trivial

theorem emits_ofExcept : Sends P (ofExcept result : Faulty Request Answer α) := by
  cases result <;> trivial

theorem emits_mapError (emits : Emits P post program) :
    Emits P post (Faulty.mapError change program) := by
  refine Resumption.Emits.bind emits ?_
  rintro (failure | value) holds
  · exact holds
  · exact holds

end Emits
end Go.Faulty

namespace Go.Remote
open Resumption (Event Wlp Ensures)
variable {σ Request α : Type} {Answer : Request → Type} {step : σ → Event Answer → σ → Prop} {s : σ}

theorem ensures_annotate {message : String} {program : Remote Request Answer α}
    {post : α → σ → Prop} (ensures : Ensures step program s post fun _ _ => True) :
    Ensures step (annotate message program) s post fun _ _ => True := by
  refine Wlp.bind ensures ?_
  rintro (err | value) t holds
  · trivial
  · exact holds

end Go.Remote
