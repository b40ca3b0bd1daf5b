import Nodelet.LazyClient.Keeps

/-! Every call that needs a client refreshes the one it has; one of them does not notice a nil
pointer. -/
namespace Nodelet.LazyClient
open Go (Error Failure)
open Go.Faulty (Panics)
open Go.Resumption (Traces runs_done)
open NativePhase (Client isInterfaceNil)

/-- The calls that use a client. -/
def Needs : Phase → Call → Prop
  | .labelTaintNode, call | .pf9CoreDNS, call | .deployAppCatalog, call => call = .start
  | .uncordonNode, call | .misc, call => call = .status ∨ call = .start
  | .drainNode, call => call = .stop

/-- A call that has come to its end. -/
structure Ended (phase : Phase) where
  cfg : Config
  call : Call
  before : Client
  trace : List Event
  result : Except Failure Unit
  after : Client
  runs : Traces (fun _ => True) (operation cfg phase call before) trace (.done (result, after))

/-- The calls on a phase, one after the other. -/
structure History (phase : Phase) where
  calls : List (Ended phase)
  first : ∀ ended ∈ calls.head?, ended.before = .unset
  linked : calls.IsChain fun ended next => next.before = ended.after

variable {phase : Phase}

/-- No method is called on a nil pointer; a creation that fails is an error, and leaves no client;
and a call that needs a client and has none attempts to create it, unless it has failed before it
comes to that. -/
structure Ended.Careful (ended : Ended phase) : Prop where
  returns : ¬ Panics ended.result
  failed : ∀ err, (⟨.newClient, some err⟩ : Event) ∈ ended.trace →
    ended.result = .error (.error err) ∧ ended.after ≠ .ready
  attempts : Needs phase ended.call → ended.before ≠ .ready →
    (∃ answer, (⟨.newClient, answer⟩ : Event) ∈ ended.trace) ∨
      phase = .misc ∧ ended.call = .status ∧ ∃ err, ended.result = .error (.error err)

/-- The call of one phase finds a nil pointer in its interface. -/
def Ended.Misled (ended : Ended phase) : Prop :=
    phase = .uncordonNode ∧ ended.call = .start ∧ ended.before = .null

section Refresh
variable {stale : Client → Bool} {rest : Operation Unit} {client after : Client}
  {trace : List Event}
  {result : Except Failure Unit}

theorem run_refreshClient_of_stale (old : stale client = true) :
    (refreshClient stale >>= fun _ => rest) client =
    .call .newClient fun (answer : Option Error) => answer.elim (rest .ready) fun err =>
      .done (.error (.error err), .null) := by
  have attempt : refreshClient stale client = .call .newClient fun (answer : Option Error) =>
      answer.elim (.done (.ok (), .ready)) fun err => .done (.error (.error err), .null) := by
    change (if stale client = true then _ else _ : Operation Unit) client = _
    rw [if_pos old]
    refine congrArg (Go.Resumption.call _) (funext fun answer => ?_)
    cases (answer : Option Error) <;> rfl
  rw [run_bind, attempt]
  refine congrArg (Go.Resumption.call _) (funext fun answer => ?_)
  cases (answer : Option Error) <;> rfl

theorem run_refreshClient_of_fresh (fresh : stale client = false) :
    (refreshClient stale >>= fun _ => rest) client = rest client := by
  have kept : refreshClient stale client = .done (.ok (), client) := by
    change (if stale client = true then _ else _ : Operation Unit) client = _
    rw [if_neg (by simp [fresh])]
    rfl
  rw [run_bind, kept]
  rfl

theorem traces_refreshClient_bind
    (runs : Traces (fun _ => True) ((refreshClient stale >>= fun _ => rest) client) trace
      (.done (result, after))) :
    stale client = false ∧ Traces (fun _ => True) (rest client) trace (.done (result, after)) ∨
      stale client = true ∧
      ((∃ err, trace = [⟨.newClient, some err⟩] ∧ result = .error (.error err) ∧ after = .null) ∨
        ∃ later, trace = ⟨.newClient, none⟩ :: later ∧
        Traces (fun _ => True) (rest .ready) later (.done (result, after))) := by
  cases old : stale client with
  | false =>
    rw [run_refreshClient_of_fresh old] at runs
    exact .inl ⟨rfl, runs⟩
  | true =>
    rw [run_refreshClient_of_stale old] at runs
    obtain ⟨answer, ⟨⟩, later, rfl, -, runs⟩ := Go.Resumption.runs_call_done.mp runs
    cases (answer : Option Error) with
    | none => exact .inr ⟨rfl, .inr ⟨later, rfl, runs⟩⟩
    | some err =>
      obtain ⟨rfl, ended, -⟩ := runs_done.mp runs
      cases ended
      exact .inr ⟨rfl, .inl ⟨err, rfl, rfl, rfl⟩⟩

end Refresh

section Careful
variable {stale : Client → Bool} {usable : Client → Prop} {rest : Operation Unit}
  {client after : Client}
  {trace : List Event} {result : Except Failure Unit}

theorem Keeps.traces {program : Operation α} {result : Except Failure α}
    (keeps : Keeps usable program)
    (runs : Traces (fun _ => True) (program client) trace (.done (result, after))) :
    after = client ∧ (usable client → ¬ Panics result) ∧
      ∀ answer, (⟨.newClient, answer⟩ : Event) ∉ trace := by
  obtain ⟨same, safe⟩ := (keeps client).returned runs
  exact ⟨same, safe, fun answer member => (keeps client).mem runs _ member rfl⟩

/-- What is asked of every call, and of one that has to make an attempt. -/
structure Tried (client : Client) (trace : List Event) (result : Except Failure Unit)
    (after : Client) : Prop where
  returns : ¬ Panics result
  failed : ∀ err, (⟨.newClient, some err⟩ : Event) ∈ trace → result = .error (.error err) ∧
    after ≠ .ready
  attempts : client ≠ .ready → ∃ answer, (⟨.newClient, answer⟩ : Event) ∈ trace

theorem tried_of_refresh (guard : stale client = false → client = .ready)
    (keeps : Keeps (· = .ready) rest)
    (runs : Traces (fun _ => True) ((refreshClient stale >>= fun _ => rest) client) trace
      (.done (result, after))) : Tried client trace result after := by
  obtain ⟨fresh, whole⟩ | ⟨-, ⟨err, rfl, rfl, rfl⟩ | ⟨later, rfl, tail⟩⟩ :=
    traces_refreshClient_bind runs
  · have ready := guard fresh
    obtain ⟨-, safe, quiet⟩ := keeps.traces whole
    exact ⟨safe ready, fun err member => absurd member (quiet _), fun other => absurd ready other⟩
  · refine ⟨?_, fun other member => ?_, fun _ => ⟨some err, List.mem_cons_self⟩⟩
    · rintro ⟨cause, panicked⟩
      cases panicked
    · cases List.mem_singleton.mp member
      exact ⟨rfl, by simp⟩
  · obtain ⟨-, safe, quiet⟩ := keeps.traces tail
    refine ⟨safe rfl, fun err member => ?_, fun _ => ⟨none, List.mem_cons_self⟩⟩
    obtain same | inside := List.mem_cons.mp member
    · cases same
    · exact absurd inside (quiet _)

variable {ended : Ended phase}

theorem Tried.careful (tried : Tried ended.before ended.trace ended.result ended.after) :
    ended.Careful :=
  ⟨tried.returns, tried.failed, fun _ missing => .inl (tried.attempts missing)⟩

theorem careful_of_keeps (keeps : Keeps (fun _ => True) (operation ended.cfg phase ended.call))
    (needless : ¬ Needs phase ended.call) : ended.Careful := by
  obtain ⟨-, safe, quiet⟩ := keeps.traces ended.runs
  exact ⟨safe trivial, fun err member => absurd member (quiet _), fun needs =>
    absurd needs needless⟩

theorem fresh_iff_ready (client : Client) : isInterfaceNil client = false → client = .ready := by
  cases client <;> simp [isInterfaceNil]

/-- The node is looked for before the client. -/
theorem careful_misc_status (ended : Ended .misc) (call : ended.call = .status) :
    ended.Careful := by
  obtain ⟨cfg, _, before, trace, result, after, runs⟩ := ended
  obtain rfl := call
  have whole :
    Traces (fun _ => True) ((getOwnIdentifier >>= fun _ => refreshClient isInterfaceNil >>= fun _ =>
    MiscPhase.look) before) trace (.done (result, after)) := runs
  rw [run_bind] at whole
  obtain ⟨first, ⟨found, client⟩, ⟨⟩, second, rfl, early, late⟩ :=
    Go.Resumption.runs_bind_done.mp whole
  have keeps : Keeps (fun _ => True) getOwnIdentifier := keeps_getOwnIdentifier
  obtain ⟨rfl, safe, quiet⟩ := keeps.traces early
  cases found with
  | error failure =>
    obtain ⟨rfl, ended, -⟩ := runs_done.mp late
    cases ended
    cases failure with
    | panic cause => exact absurd ⟨cause, rfl⟩ (safe trivial)
    | error err =>
      refine ⟨?_, fun other member => ?_, fun _ _ => .inr ⟨rfl, rfl, err, rfl⟩⟩
      · rintro ⟨cause, panicked⟩
        cases panicked
      · obtain inside | nothing := List.mem_append.mp member
        · exact absurd inside (quiet _)
        · cases nothing
  | ok nodeIdentifier =>
    obtain ⟨returns, failed, attempts⟩ := tried_of_refresh (fresh_iff_ready client) keeps_look late
    refine ⟨returns, fun err member => ?_, fun _ missing => ?_⟩
    · exact failed err ((List.mem_append.mp member).resolve_left (quiet _))
    · obtain ⟨answer, member⟩ := attempts missing
      exact .inl ⟨answer, List.mem_append_right first member⟩

theorem careful_uncordonNode_start (ended : Ended .uncordonNode) (call : ended.call = .start) :
    ended.Careful ↔ ended.before ≠ .null := by
  obtain ⟨cfg, _, before, trace, result, after, runs⟩ := ended
  obtain rfl := call
  constructor
  · rintro careful rfl
    obtain ⟨-, whole⟩ | ⟨old, -⟩ := traces_refreshClient_bind runs
    · obtain ⟨-, -, quiet⟩ := keeps_uncordon.traces whole
      obtain ⟨answer, member⟩ | ⟨other, -⟩ := careful.attempts (.inr rfl) (by simp)
      · exact quiet answer member
      · cases other
    · cases old
  · intro kept
    have guard : decide (before = .unset) = false → before = .ready := by
      cases before <;> simp_all
    exact (tried_of_refresh guard keeps_uncordon runs).careful

end Careful

theorem careful_of_guarded (ended : Ended phase)
    (other : ¬ (phase = .uncordonNode ∧ ended.call = .start)) : ended.Careful := by
  obtain ⟨cfg, call, before, trace, result, after, runs⟩ := ended
  have guard := fresh_iff_ready before
  cases phase with
  | labelTaintNode =>
    cases call with
    | start => exact (tried_of_refresh guard (keeps_label cfg) runs).careful
    | _ => exact careful_of_keeps (keeps_pure ()) (by simp [Needs])
  | uncordonNode =>
    cases call with
    | status => exact (tried_of_refresh guard keeps_notice runs).careful
    | start => exact absurd ⟨rfl, rfl⟩ other
    | stop => exact careful_of_keeps (keeps_pure ()) (by simp [Needs])
  | misc =>
    cases call with
    | status => exact careful_misc_status _ rfl
    | start => exact (tried_of_refresh guard (keeps_ask (by simp) rfl) runs).careful
    | stop => exact careful_of_keeps (keeps_pure ()) (by simp [Needs])
  | drainNode =>
    cases call with
    | status => exact careful_of_keeps (keeps_pure ()) (by simp [Needs])
    | start => exact careful_of_keeps keeps_removeMarker (by simp [Needs])
    | stop => exact (tried_of_refresh guard keeps_drain runs).careful
  | pf9CoreDNS =>
    cases call with
    | start => exact (tried_of_refresh guard (keeps_callOrFail _ _) runs).careful
    | _ => exact careful_of_keeps (keeps_pure ()) (by simp [Needs])
  | deployAppCatalog =>
    cases call with
    | start => exact (tried_of_refresh guard (keeps_deploy cfg) runs).careful
    | _ => exact careful_of_keeps (keeps_pure ()) (by simp [Needs])

theorem Ended.careful_iff (ended : Ended phase) : ended.Careful ↔ ¬ ended.Misled := by
  by_cases unguarded : phase = .uncordonNode ∧ ended.call = .start
  · obtain ⟨rfl, call⟩ := unguarded
    rw [careful_uncordonNode_start ended call]
    simp [Misled, call]
  · refine iff_of_true (careful_of_guarded ended unguarded) fun misled => ?_
    exact unguarded ⟨misled.1, misled.2.1⟩

theorem history_careful_iff (history : History phase) :
    (∀ ended ∈ history.calls, ended.Careful) ↔ ∀ ended ∈ history.calls, ¬ ended.Misled :=
  forall₂_congr fun ended _ => ended.careful_iff

/-- The first Status finds no kubeconfig. -/
def failedStatus : Ended .uncordonNode where
  cfg := {}
  call := .status
  before := .unset
  trace := [⟨.newClient, some "failed to build config from kubeconfig"⟩]
  result := .error (.error "failed to build config from kubeconfig")
  after := .null
  runs := .call trivial .refl

/-- The Start after it removes an annotation. -/
def misledStart : Ended .uncordonNode where
  cfg := {}
  call := .start
  before := .null
  trace := [⟨.getNodeIdentifier, .ok "10.21.2.141"⟩]
  result := .error (.panic .nilDereference)
  after := .null
  runs := .call trivial .refl

/-- A nil pointer is called. -/
theorem start_after_failed_status_panics :
    ∃ history : History .uncordonNode, history.calls = [failedStatus, misledStart] ∧
      Panics misledStart.result ∧ ¬ misledStart.Careful := by
  have panics : Panics misledStart.result := ⟨.nilDereference, rfl⟩
  exact ⟨⟨[failedStatus, misledStart], by simp [failedStatus], by simp [failedStatus,
    misledStart]⟩, rfl, panics,
    fun careful => careful.returns panics⟩

end Nodelet.LazyClient
