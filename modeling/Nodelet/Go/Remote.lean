import Nodelet.Go.Trace

/-! Programs that call services and return a value or an error, with the shape of their
traces: an error ends a sequence, and what has been done before it stays in the
trace. -/
namespace Go

abbrev Remote (Request : Type) (Answer : Request → Type) (α : Type) :=
    ExceptT Error (Resumption Request Answer) α

namespace Remote
open Resumption
  (Event Runs Traces runs_bind runs_bind_done runs_done runs_call_done run_bind runs_bind_ok)
variable {σ Request α β : Type} {Answer : Request → Type}

/-- Return another error in place of the one of the program. -/
def mapError (change : Error → Error) (program : Remote Request Answer α) :
    Remote Request Answer α :=
  ExceptT.mk (program.run.bind fun
    | .ok value => .done (.ok value)
    | .error err => .done (.error (change err)))

/-- `fmt.Errorf("message: %s", err)` for the error of the program. -/
def annotate (message : String) (program : Remote Request Answer α) : Remote Request Answer α :=
  mapError (message ++ ·) program

variable {step : σ → Event Answer → σ → Prop} {s t u : σ} {trace : List (Event Answer)}
  {program : Remote Request Answer α} {next : α → Remote Request Answer β} {change : Error → Error}
  {result : Except Error α} {value : α} {call : Resumption Request Answer α}

theorem runs_bind_error :
    Runs step (program >>= next).run s trace (.done (.error err)) u ↔
      Runs step program.run s trace (.done (.error err)) u ∨
      ∃ first middle t second, trace = first ++ second ∧
      Runs step program.run s first (.done (.ok middle)) t ∧
        Runs step (next middle).run t second (.done (.error err)) u := by
  rw [run_bind, runs_bind_done]
  constructor
  · rintro ⟨first, result, t, second, rfl, runs, later⟩
    cases result with
    | ok middle => exact .inr ⟨first, middle, t, second, rfl, runs, later⟩
    | error early =>
      obtain ⟨rfl, ended, rfl⟩ := runs_done.mp later
      cases ended
      rw [List.append_nil]
      exact .inl runs
  · rintro (runs | ⟨first, middle, t, second, rfl, runs, later⟩)
    · exact ⟨trace, .error err, u, [], (List.append_nil _).symm, runs, .refl⟩
    · exact ⟨first, .ok middle, t, second, rfl, runs, later⟩

theorem runs_bind_cases {after : Resumption Request Answer (Except Error β)}
    (runs : Runs step (program >>= next).run s trace after u) :
    (∃ remaining, Runs step program.run s trace remaining u) ∨
      ∃ first middle t second, trace = first ++ second ∧
      Runs step program.run s first (.done (.ok middle)) t ∧
        Runs step (next middle).run t second after u := by
  rw [run_bind, runs_bind] at runs
  obtain ⟨remaining, runs, -⟩ | ⟨first, result, t, second, rfl, runs, later⟩ := runs
  · exact .inl ⟨remaining, runs⟩
  · cases result with
    | ok middle => exact .inr ⟨first, middle, t, second, rfl, runs, later⟩
    | error err =>
      obtain ⟨rfl, -, rfl⟩ := runs_done.mp later
      rw [List.append_nil]
      exact .inl ⟨_, runs⟩

theorem runs_bind_first {result : Except Error β}
    (runs : Runs step (program >>= next).run s trace (.done result) u) :
    ∃ first early t second, trace = first ++ second ∧
      Runs step program.run s first (.done early) t := by
  rw [run_bind, runs_bind_done] at runs
  obtain ⟨first, early, t, second, same, runs, -⟩ := runs
  exact ⟨first, early, t, second, same, runs⟩

theorem runs_mapError_done
    (runs : Runs step (mapError change program).run s trace (.done result) u) :
    ∃ early, Runs step program.run s trace (.done early) u := by
  rw [mapError, ExceptT.run_mk, runs_bind_done] at runs
  obtain ⟨first, early, t, second, rfl, runs, later⟩ := runs
  have last : second = [] ∧
    u = t := by cases early <;> exact ⟨(runs_done.mp later).1, (runs_done.mp later).2.2⟩
  obtain ⟨rfl, rfl⟩ := last
  exact ⟨early, by rwa [List.append_nil]⟩

theorem runs_mapError_ok :
    Runs step (mapError change program).run s trace (.done (.ok value)) u ↔
      Runs step program.run s trace (.done (.ok value)) u := by
  rw [mapError, ExceptT.run_mk, runs_bind_done]
  constructor
  · rintro ⟨first, result, t, second, rfl, runs, later⟩
    cases result with
    | ok middle =>
      obtain ⟨rfl, ended, rfl⟩ := runs_done.mp later
      cases ended
      rwa [List.append_nil]
    | error err => simp at later
  · exact fun runs => ⟨trace, .ok value, u, [], (List.append_nil _).symm, runs, .refl⟩

theorem runs_mapError_error
    (runs : Runs step (mapError change program).run s trace (.done (.error err)) u) :
    ∃ early, Runs step program.run s trace (.done (.error early)) u := by
  rw [mapError, ExceptT.run_mk, runs_bind_done] at runs
  obtain ⟨first, result, t, second, rfl, runs, later⟩ := runs
  cases result with
  | ok value => simp at later
  | error early =>
    obtain ⟨rfl, -, rfl⟩ := runs_done.mp later
    exact ⟨early, by rwa [List.append_nil]⟩

theorem runs_mapError_cases {after : Resumption Request Answer (Except Error α)}
    (runs : Runs step (mapError change program).run s trace after u) :
    ∃ remaining, Runs step program.run s trace remaining u := by
  rw [mapError, ExceptT.run_mk, runs_bind] at runs
  obtain ⟨remaining, runs, -⟩ | ⟨first, result, t, second, rfl, runs, later⟩ := runs
  · exact ⟨remaining, runs⟩
  · have last : second = [] ∧
      u = t := by cases result <;> exact ⟨(runs_done.mp later).1, (runs_done.mp later).2.2⟩
    obtain ⟨rfl, rfl⟩ := last
    rw [List.append_nil]
    exact ⟨_, runs⟩

theorem runs_lift :
    Runs step (ExceptT.lift call : Remote Request Answer α).run s trace (.done result) u ↔
      ∃ value, result = .ok value ∧ Runs step call s trace (.done value) u := by
  refine runs_bind_done.trans ⟨?_, ?_⟩
  · rintro ⟨first, value, t, second, rfl, runs, later⟩
    obtain ⟨rfl, ended, rfl⟩ := runs_done.mp later
    cases ended
    rw [List.append_nil]
    exact ⟨value, rfl, runs⟩
  · rintro ⟨value, rfl, runs⟩
    exact ⟨trace, value, u, [], (List.append_nil _).symm, runs, .refl⟩

section Emits
variable {ε : Type} {P : Event Answer → Prop} {post : α → Prop}
  {program : ExceptT ε (Resumption Request Answer) α}

/-- Nothing is said about an error. -/
def OnOk (post : α → Prop) : Except ε α → Prop
  | .ok value => post value
  | .error _ => True

/-- Whatever the answers, the events satisfy `P`, and a value that is returned satisfies `post`. -/
def Emits (P : Event Answer → Prop) (post : α → Prop)
    (program : ExceptT ε (Resumption Request Answer) α) : Prop :=
  Resumption.Emits P (OnOk post) program.run

/-- Nothing is said about the value either. -/
abbrev Sends (P : Event Answer → Prop) (program : ExceptT ε (Resumption Request Answer) α) : Prop :=
  Emits P (fun _ => True) program

namespace Emits

theorem pure {value : α} (holds : post value) :
    Emits P post (pure value : ExceptT ε (Resumption Request Answer) α) := holds

theorem throw {err : ε} :
    Emits P post (throw err : ExceptT ε (Resumption Request Answer) α) := trivial

variable {final : β → Prop} {next : α → ExceptT ε (Resumption Request Answer) β}

theorem bind (first : Emits P post program)
    (rest : ∀ value, post value → Emits P final (next value)) :
    Emits P final (program >>= next) := by
  rw [Emits, run_bind]
  refine Resumption.Emits.bind first fun result holds => ?_
  cases result with
  | ok value => exact rest value holds
  | error err => trivial

/-- After a program that never returns a value, nothing is done. -/
theorem stops (never : Emits P (fun _ => False) program) : Emits P final (program >>= next) :=
  never.bind fun _ impossible => impossible.elim

theorem mapError {program : Remote Request Answer α} (emits : Emits P post program) :
    Emits P post (Remote.mapError change program) := by
  refine Resumption.Emits.bind emits fun result holds => ?_
  cases result with
  | ok value => exact holds
  | error err => trivial

theorem lift (emits : Resumption.Emits P post call) :
    Emits P post (ExceptT.lift call : Remote Request Answer α) :=
  Resumption.Emits.bind emits fun _ holds => holds

theorem attempt {call : Resumption Request Answer (Except Error α)}
    (emits : Resumption.Emits P (fun _ => True) call) : Sends P (ExceptT.mk call) :=
  Resumption.Emits.weaken emits (fun _ => id) fun result _ => by cases result <;> trivial

theorem ite {condition : Prop} [Decidable condition]
    {yes no : ExceptT ε (Resumption Request Answer) α}
    (whenTrue : Emits P post yes) (whenFalse : Emits P post no) :
    Emits P post (if condition then yes else no) := by
  split
  · exact whenTrue
  · exact whenFalse

end Emits
end Emits

/-- Some answers lead from the program and this state to this value and that state. -/
def Gets (step : σ → Event Answer → σ → Prop) (program : Resumption Request Answer α) (s : σ)
    (value : α) (t : σ) : Prop :=
  ∃ trace, Runs step program s trace (.done value) t

/-- Some allowed answers make the program return this. -/
abbrev Can (allowed : Event Answer → Prop) (program : Resumption Request Answer α) (value : α) :
    Prop :=
  Gets (fun (_ : Unit) event _ => allowed event) program () value ()

namespace Gets

theorem done {value : α} : Gets step (.done value) s value s := ⟨[], .refl⟩

theorem perform (taken : step s ⟨request, answer⟩ t) :
    Gets step (Resumption.perform request) s answer t :=
  ⟨_, .call taken .refl⟩

theorem weaken {weaker : σ → Event Answer → σ → Prop} (gets : Gets step call s value t)
    (implies : ∀ s event t, step s event t → weaker s event t) : Gets weaker call s value t := by
  obtain ⟨trace, runs⟩ := gets
  exact ⟨trace, runs.weaken implies⟩

theorem bind {next : α → Resumption Request Answer β} {final : β} (first : Gets step call s value t)
    (rest : Gets step (next value) t final u) : Gets step (call.bind next) s final u := by
  obtain ⟨_, runs⟩ := first
  obtain ⟨_, later⟩ := rest
  exact ⟨_, runs.bind.trans later⟩

theorem bindOk {final : Except Error β} (first : Gets step program.run s (.ok value) t)
    (rest : Gets step (next value).run t final u) : Gets step (program >>= next).run s final u := by
  rw [run_bind]
  exact first.bind rest

theorem mapError (gets : Gets step program.run s (.ok value) t) :
    Gets step (Remote.mapError change program).run s (.ok value) t :=
  gets.bind done

theorem lift (gets : Gets step call s value t) :
    Gets step (ExceptT.lift call : Remote Request Answer α).run s (.ok value) t :=
  gets.bind done

end Gets

/-- Some answers lead from the program and this state to an error and that state. -/
def Aborts (step : σ → Event Answer → σ → Prop) (program : Remote Request Answer α) (s t : σ) :
    Prop :=
  ∃ err, Gets step program.run s (.error err) t

namespace Aborts

theorem throw {err : Error} : Aborts step (throw err : Remote Request Answer α) s s := ⟨err, .done⟩

theorem bind (first : Aborts step program s t) : Aborts step (program >>= next) s t := by
  obtain ⟨err, gets⟩ := first
  refine ⟨err, ?_⟩
  rw [run_bind]
  exact gets.bind .done

theorem later (first : Gets step program.run s (.ok value) t)
    (rest : Aborts step (next value) t u) : Aborts step (program >>= next) s u := by
  obtain ⟨err, gets⟩ := rest
  exact ⟨err, first.bindOk gets⟩

theorem mapError (aborts : Aborts step program s t) :
    Aborts step (Remote.mapError change program) s t := by
  obtain ⟨err, gets⟩ := aborts
  exact ⟨change err, gets.bind .done⟩

end Aborts
end Remote
end Go
