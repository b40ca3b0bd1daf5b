import Nodelet.Go.Program

/-! Programs that may return an error, and that keep what they did before it. -/
namespace Go

abbrev Fallible (σ α : Type) := ExceptT Error (StateM σ) α

namespace Fallible
variable {σ α β : Type} {program : Fallible σ α} {s : σ} {post : α → σ → Prop} {failed : σ → Prop}

/-- What the program returns from this state, and the state it leaves. -/
def result (program : Fallible σ α) (s : σ) : Except Error α × σ := program s

theorem result_bind (next : α → Fallible σ β) :
    result (program >>= next) s =
      match result program s with
      | (.ok value, t) => result (next value) t
      | (.error err, t) => (.error err, t) := by
  simp only [result, Bind.bind, ExceptT.bind, ExceptT.mk, StateT.bind]
  rcases program s with ⟨_ | _, _⟩ <;> rfl

theorem result_tryCatch (handler : Error → Fallible σ α) :
    result (tryCatch program handler) s =
      match result program s with
      | (.ok value, t) => (.ok value, t)
      | (.error err, t) => result (handler err) t := by
  simp only [result, tryCatch, tryCatchThe, MonadExceptOf.tryCatch, ExceptT.tryCatch, ExceptT.mk,
    Bind.bind, StateT.bind]
  rcases program s with ⟨_ | _, _⟩ <;> rfl

/-- The program ends from this state with `post`, or with an error and `failed`. -/
def Ensures (program : Fallible σ α) (s : σ) (post : α → σ → Prop) (failed : σ → Prop) : Prop :=
  match result program s with
  | (.ok value, t) => post value t
  | (.error _, t) => failed t

namespace Ensures

theorem returned {value : α} {t : σ} (ensures : Ensures program s post failed)
    (ran : result program s = (.ok value, t)) : post value t := by
  rwa [Ensures, ran] at ensures

theorem always {P : σ → Prop} (ensures : Ensures program s (fun _ => P) P) :
    P (result program s).2 := by
  unfold Ensures at ensures
  split at ensures <;> simp_all

theorem weaken {weaker : α → σ → Prop} {weakerFailed : σ → Prop}
    (ensures : Ensures program s post failed) (implies : ∀ value t, post value t → weaker value t)
    (whenFailed : ∀ t, failed t → weakerFailed t) : Ensures program s weaker weakerFailed := by
  unfold Ensures at ensures ⊢
  split at ensures
  · exact implies _ _ ensures
  · exact whenFailed _ ensures

theorem pure {value : α} (holds : post value s) :
    Ensures (pure value : Fallible σ α) s post failed := holds

theorem throw {err : Error} (holds : failed s) :
    Ensures (throw err : Fallible σ α) s post failed := holds

variable {final : β → σ → Prop}

theorem bind {next : α → Fallible σ β} (first : Ensures program s post failed)
    (rest : ∀ value t, post value t → Ensures (next value) t final failed) :
    Ensures (program >>= next) s final failed := by
  rcases ran : result program s with ⟨_ | value, t⟩
  · rw [Ensures, ran] at first
    rwa [Ensures, result_bind, ran]
  · have holds := rest value t (first.returned ran)
    rwa [Ensures, result_bind, ran]

theorem tryCatch {handler : Error → Fallible σ α} {later : σ → Prop}
    (first : Ensures program s post failed)
    (rest : ∀ err t, failed t → Ensures (handler err) t post later) :
    Ensures (tryCatch program handler) s post later := by
  rcases ran : result program s with ⟨err | value, t⟩
  · have holds : failed t := by rwa [Ensures, ran] at first
    have handled := rest err t holds
    rwa [Ensures, result_tryCatch, ran]
  · have holds := first.returned ran
    rwa [Ensures, result_tryCatch, ran]

theorem get_bind {next : σ → Fallible σ β} (rest : Ensures (next s) s final failed) :
    Ensures (MonadState.get >>= next) s final failed :=
  rest

theorem modify {update : σ → σ} {final : PUnit → σ → Prop} (holds : final ⟨⟩ (update s)) :
    Ensures (modify update : Fallible σ PUnit) s final failed :=
  holds

theorem ite {condition : Prop} [Decidable condition] {yes no : Fallible σ α}
    (whenTrue : condition → Ensures yes s post failed) (whenFalse : ¬ condition →
      Ensures no s post failed) : Ensures (if condition then yes else no) s post failed := by
  split
  · exact whenTrue ‹_›
  · exact whenFalse ‹_›

end Ensures
end Fallible
end Go
