import Nodelet.Kubelet.Utils

/-! What the phase of the kubelet makes of the state that `systemctl is-active` prints. -/
namespace Nodelet.Kubelet
open Go (Faulty Failure Error)
open Go.Resumption (Traces runs_done runs_call_done)

inductive Call where
  | status
  | start (cfg : Config)

/-- `Status` and `Start` of `KubeletConfigureStartPhase`, without what they note in the host
phase. -/
def Call.operation (sprintf : String → String) : Call → Operation Unit
  | .status => do
    if !(← isKubeletRunning) then throw (.error "pf9-kubelet is not active")
  | .start cfg => ensureKubeletRunning sprintf cfg

/-- A call that has come to its end. -/
structure Ended (sprintf : String → String) where
  call : Call
  trace : List Event
  outcome : Except Failure Unit
  runs : Traces (fun _ => True) (call.operation sprintf).run trace (.done outcome)

/-- The state of the unit, which both calls ask for first. -/
def Printed (trace : List Event) (state : String) : Prop :=
  ∃ (output : Output) (rest : List Event),
    trace = ⟨.runCommandWithStdOutStdErr isActiveCommand, output⟩ :: rest ∧
      output.stdOut.head? = some state

def Started (event : Event) : Prop :=
  ∃ output : Output, event = ⟨.runCommandWithStdErr startCommand, output⟩ ∧ output.err = none

variable {sprintf : String → String}

/-- A call that returns nil has seen an active kubelet, or is a `Start` that has started it. -/
def Ended.Sound (ended : Ended sprintf) : Prop :=
  ended.outcome = .ok () → Printed ended.trace "active" ∨
    (∃ cfg, ended.call = .start cfg) ∧ ∃ event ∈ ended.trace, Started event

/-- What `IsKubeletRunning` makes of the output of its command. -/
def verdict (output : Output) : Except Failure Bool :=
  match output.stdOut with
  | [] => .error (.panic .indexOutOfRange)
  | state :: _ =>
    if state = "inactive" then
      match output.stdErr with
      | [] => .error (.panic .indexOutOfRange)
      | _ :: _ => .ok false
    else .ok true

theorem run_isKubeletRunning : isKubeletRunning.run =
    .call (.runCommandWithStdOutStdErr isActiveCommand) fun (output : Output) =>
      .done (verdict output) := by
  refine congrArg (Go.Resumption.call _) (funext fun output => ?_)
  rcases (output : Output) with ⟨exitCode, stdOut, stdErr, err⟩
  cases stdOut with
  | nil => rfl
  | cons state rest =>
    by_cases inactive : state = "inactive"
    · subst inactive
      cases stdErr <;> rfl
    · change (if state = "inactive" then _ else _ : Operation Bool).run = _
      simp only [verdict, if_neg inactive]
      rfl

theorem traces_isKubeletRunning_bind {next : Bool → Operation Unit} {outcome : Except Failure Unit}
    (runs : Traces (fun _ => True) (isKubeletRunning >>= next).run trace (.done outcome)) :
    ∃ (output : Output) (rest : List Event), trace =
      ⟨.runCommandWithStdOutStdErr isActiveCommand, output⟩ :: rest ∧
      ((∃ running, verdict output = .ok running ∧
      Traces (fun _ => True) (next running).run rest (.done outcome)) ∨
        ∃ failure, verdict output = .error failure ∧ outcome = .error failure) := by
  rw [Go.Resumption.run_bind, run_isKubeletRunning] at runs
  obtain ⟨output, ⟨⟩, rest, rfl, -, later⟩ := runs_call_done.mp runs
  refine ⟨output, rest, rfl, ?_⟩
  cases judged : verdict output with
  | ok running =>
    simp only [judged] at later
    exact .inl ⟨running, rfl, later⟩
  | error failure =>
    simp only [judged] at later
    obtain ⟨-, ended, -⟩ := runs_done.mp later
    exact .inr ⟨failure, rfl, Go.Resumption.done.inj ended⟩

theorem needs_kubeletStart : Faulty.Needs Started kubeletStart := by
  intro trace value runs
  obtain ⟨output, _, rest, rfl, -, later⟩ := runs_call_done.mp runs
  refine ⟨_, List.mem_cons_self, output, rfl, ?_⟩
  rcases (output : Output) with ⟨exitCode, stdOut, stdErr, err⟩
  cases err with
  | none => rfl
  | some err =>
    -- neither the error nor the panic is a return of nil
    cases stdErr <;> cases (runs_done.mp later).2.1

theorem needs_bringUp (cfg : Config) : Faulty.Needs Started (bringUp sprintf cfg) :=
  .bind fun _ => .bind fun _ => .bind fun _ => .bind fun _ => .bind fun _ => .bind fun _ =>
    needs_kubeletStart

/-- A kubelet that is taken for running ends the call. Otherwise nil comes from a `Start` that has
started it. -/
theorem Call.operation_eq (sprintf : String → String) (call : Call) :
    ∃ next, call.operation sprintf = isKubeletRunning >>= next ∧ next true = pure () ∧
      ∀ rest, Traces (fun _ => True) (next false).run rest (.done (.ok ())) →
        (∃ cfg, call = .start cfg) ∧ ∃ event ∈ rest, Started event := by
  cases call with
  | status =>
    refine ⟨_, rfl, rfl, fun rest runs => ?_⟩
    obtain ⟨-, ended, -⟩ := runs_done.mp runs
    cases ended
  | start cfg => exact ⟨_, rfl, rfl, fun rest runs => ⟨⟨cfg, rfl⟩, needs_bringUp cfg rest () runs⟩⟩

/-- Every state but one is taken for a running kubelet. -/
theorem verdict_true_iff :
    verdict output = .ok true ↔ ∃ state, output.stdOut.head? = some state ∧ state ≠ "inactive" := by
  rcases output with ⟨exitCode, stdOut, stdErr, err⟩
  cases stdOut with
  | nil => simp [verdict]
  | cons state rest =>
    by_cases inactive : state = "inactive"
    · cases stdErr <;> simp [verdict, inactive]
    · simp [verdict, inactive]

theorem Ended.sound_iff (ended : Ended sprintf) :
    ended.Sound ↔ ∀ state, Printed ended.trace state → state = "active" ∨ state = "inactive" := by
  obtain ⟨call, trace, outcome, runs⟩ := ended
  obtain ⟨next, split, taken, otherwise⟩ := call.operation_eq sprintf
  rw [split] at runs
  obtain ⟨output, rest, rfl, outcomes⟩ := traces_isKubeletRunning_bind runs
  constructor
  · rintro sound state ⟨output', rest', same, printed⟩
    cases same
    by_contra other
    obtain ⟨apart, active⟩ := not_or.mp other
    -- the call returns at once, and has only asked for the state
    have running := verdict_true_iff.mpr ⟨state, printed, active⟩
    obtain ⟨running', judged, later⟩ | ⟨failure, judged, -⟩ := outcomes
    · cases running.symm.trans judged
      rw [taken] at later
      obtain ⟨rfl, ended, -⟩ := runs_done.mp later
      obtain ⟨output', rest', same, found⟩ | ⟨-, event, member, output', rfl, -⟩ :=
        sound (Go.Resumption.done.inj ended)
      · cases same
        exact apart (Option.some.inj (printed.symm.trans found))
      · cases List.mem_singleton.mp member
    · cases running.symm.trans judged
  · rintro known rfl
    obtain ⟨running, judged, later⟩ | ⟨failure, -, failed⟩ := outcomes
    · cases running with
      | true =>
        obtain ⟨state, printed, other⟩ := verdict_true_iff.mp judged
        have active := (known state ⟨output, rest, rfl, printed⟩).resolve_right other
        exact .inl ⟨output, rest, rfl, active ▸ printed⟩
      | false =>
        obtain ⟨start, event, member, started⟩ := otherwise rest later
        exact .inr ⟨start, event, List.mem_cons_of_mem _ member, started⟩
    · cases failed

theorem ended_sound_iff (history : List (Ended sprintf)) :
    (∀ ended ∈ history, ended.Sound) ↔
      ∀ ended ∈ history, ∀ state, Printed ended.trace state → state = "active" ∨
      state = "inactive" :=
  forall₂_congr fun ended _ => ended.sound_iff

/-- What `systemctl is-active` does for a unit that has crashed. -/
def crashedUnit : Output where
  exitCode := 3
  stdOut := ["failed"]
  stdErr := []
  err := some "exit status 3"

theorem unsound_of_crashed
    (runs : Traces (fun _ => True) (call.operation id).run
      [⟨.runCommandWithStdOutStdErr isActiveCommand, crashedUnit⟩] (.done (.ok ()))) :
    ∃ ended : Ended id, ended.call = call ∧
      ended.trace = [⟨.runCommandWithStdOutStdErr isActiveCommand, crashedUnit⟩] ∧
        ended.outcome = .ok () ∧ ¬ ended.Sound := by
  refine ⟨⟨call, _, _, runs⟩, rfl, rfl, rfl, fun sound => ?_⟩
  have known := (Ended.sound_iff _).mp sound "failed" ⟨crashedUnit, [], rfl, rfl⟩
  exact absurd known (by decide)

/-- A crashed kubelet passes the status check, and is not started. -/
theorem crashed_kubelet_passes :
    (∃ ended : Ended id, ended.call = .status ∧
      ended.trace = [⟨.runCommandWithStdOutStdErr isActiveCommand, crashedUnit⟩] ∧
        ended.outcome = .ok () ∧ ¬ ended.Sound) ∧
    (∃ ended : Ended id, ended.call = .start {} ∧
      ended.trace = [⟨.runCommandWithStdOutStdErr isActiveCommand, crashedUnit⟩] ∧
        ended.outcome = .ok () ∧ ¬ ended.Sound) :=
  ⟨unsound_of_crashed (.call trivial .refl), unsound_of_crashed (.call trivial .refl)⟩

end Nodelet.Kubelet
