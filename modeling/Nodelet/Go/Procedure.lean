import Nodelet.Go.Program

/-! Programs that may return an error or halt the process, and that keep what they did
before it. -/
namespace Go

abbrev Procedure (σ α : Type) := ExceptT Error (Program σ) α

namespace Procedure
variable {σ α β : Type} {program : Procedure σ α} {s : σ} {post : α → σ → Prop} {failed : σ → Prop}

/-- What the program returns from this state, and the state it leaves. -/
def result (program : Procedure σ α) (s : σ) : Except Halt (Except Error α × σ) := program s

theorem result_bind (next : α → Procedure σ β) :
    result (program >>= next) s =
      match result program s with
      | .ok (.ok value, t) => result (next value) t
      | .ok (.error err, t) => .ok (.error err, t)
      | .error halt => .error halt := by
  simp only [result, Bind.bind, ExceptT.bind, ExceptT.mk, StateT.bind, Except.bind]
  rcases program s with _ | ⟨_ | _, _⟩ <;> rfl

theorem result_tryCatch (handler : Error → Procedure σ α) :
    result (tryCatch program handler) s =
      match result program s with
      | .ok (.ok value, t) => .ok (.ok value, t)
      | .ok (.error err, t) => result (handler err) t
      | .error halt => .error halt := by
  simp only [result, tryCatch, tryCatchThe, MonadExceptOf.tryCatch, ExceptT.tryCatch, ExceptT.mk,
    Bind.bind, StateT.bind, Except.bind]
  rcases program s with _ | ⟨_ | _, _⟩ <;> rfl

/-- The program returns from this state with `post`, or an error and `failed`; it halts the
process only where that is allowed. -/
def Settles (halts : Prop) (program : Procedure σ α) (s : σ) (post : α → σ → Prop)
    (failed : σ → Prop) : Prop :=
  match result program s with
  | .ok (.ok value, t) => post value t
  | .ok (.error _, t) => failed t
  | .error _ => halts

/-- What holds where the program returns, and nothing else is said. -/
abbrev Leaves (program : Procedure σ α) (s : σ) (post : α → σ → Prop) (failed : σ → Prop) : Prop :=
  Settles True program s post failed

namespace Settles
variable {halts : Prop}

theorem returned {value : α} {t : σ} (settles : Settles halts program s post failed)
    (ran : result program s = .ok (.ok value, t)) : post value t := by
  rwa [Settles, ran] at settles

theorem threw {t : σ} (settles : Settles halts program s post failed)
    (ran : result program s = .ok (.error err, t)) : failed t := by
  rwa [Settles, ran] at settles

theorem halted (settles : Settles halts program s post failed)
    (ran : result program s = .error halt) : halts := by
  rwa [Settles, ran] at settles

theorem weaken {allowed : Prop} {weaker : α → σ → Prop} {weakerFailed : σ → Prop}
    (settles : Settles halts program s post failed)
    (implies : ∀ value t, post value t → weaker value t)
    (whenFailed : ∀ t, failed t → weakerFailed t) (whenHalted : halts → allowed) :
    Settles allowed program s weaker weakerFailed := by
  unfold Settles at settles ⊢
  split at settles
  · exact implies _ _ settles
  · exact whenFailed _ settles
  · exact whenHalted settles

theorem pure {value : α} (holds : post value s) :
    Settles halts (pure value : Procedure σ α) s post failed :=
  holds

theorem bind {next : α → Procedure σ β} {final : β → σ → Prop}
    (first : Settles halts program s post failed)
    (rest : ∀ value t, post value t → Settles halts (next value) t final failed) :
    Settles halts (program >>= next) s final failed := by
  rcases ran : result program s with halt | ⟨err | value, t⟩
  · have holds := first.halted ran
    rwa [Settles, result_bind, ran]
  · have holds := first.threw ran
    rwa [Settles, result_bind, ran]
  · have holds := rest value t (first.returned ran)
    rwa [Settles, result_bind, ran]

theorem tryCatch {handler : Error → Procedure σ α} {later : σ → Prop}
    (first : Settles halts program s post failed)
    (rest : ∀ err t, failed t → Settles halts (handler err) t post later) :
    Settles halts (tryCatch program handler) s post later := by
  rcases ran : result program s with halt | ⟨err | value, t⟩
  · have holds := first.halted ran
    rwa [Settles, result_tryCatch, ran]
  · have handled := rest err t (first.threw ran)
    rwa [Settles, result_tryCatch, ran]
  · have holds := first.returned ran
    rwa [Settles, result_tryCatch, ran]

/-- Nothing is asked of the states. -/
theorem trivial : Leaves program s (fun _ _ => True) (fun _ => True) := by
  unfold Leaves Settles
  split <;> exact True.intro

end Settles
end Procedure
end Go
