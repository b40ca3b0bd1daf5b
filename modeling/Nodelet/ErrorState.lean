import Nodelet.Reconcile.Runs

/-! The error state of a node whose service keeps failing to start. The counter
of start attempts grows with every failing `Reconcile` as long as the stop chain
does not go down to the first phase, where it is reset. -/
namespace Nodelet
open Constants

theorem Event.Reports.not_start (report : (Event.start i err).Reports cfg view) : False := report

/-- The decisions that put a node in error state when they are written. -/
structure Control.Exhausted (c : Control) : Prop where
  stopped : c.serviceState = serviceStateFalse
  notRunning : c.kubeRunning = false
  attempts : numRetriesForErrorState < c.startAttempts

theorem ExtensionData.nodeStateFor_exhausted {d : ExtensionData} (exhausted : d.control.Exhausted)
    (expected : cfg.kubeServiceState = serviceStateTrue) : d.nodeStateFor cfg = errorState := by
  have notTrue : d.serviceState ≠ serviceStateTrue := by
    rw [show d.serviceState = serviceStateFalse from exhausted.stopped]
    decide
  have notRunning : d.kubeRunning = false := exhausted.notRunning
  have many : numRetriesForErrorState < d.startAttempts := exhausted.attempts
  have notFirst : d.startAttempts ≠ 1 := by unfold numRetriesForErrorState at many; omega
  unfold nodeStateFor
  rw [if_neg notTrue, if_pos (.inl ⟨expected, by simp [notRunning]⟩), if_neg notFirst,
    if_neg (fun retrying => Int.not_le.mpr many retrying.2), if_pos many]

theorem StopCall.not_start (call : StopCall phases k c (.start i err)) : False := by
  obtain ⟨_, _, _, same, _⟩ := call
  cases same

theorem RestartRun.failed_of_start
    (run : RestartRun env cfg phases k s t middle result stops reports starts)
    (persisted : Persisted env cfg t u final)
    (failed : .start j (some err) ∈ stops ++ reports ++ starts ++ final) : result.2 = some err := by
  rcases List.mem_append.mp failed with chains | last
  · rcases List.mem_append.mp chains with early | inStarts
    · rcases List.mem_append.mp early with inStops | inReports
      · exact (run.calls _ inStops).not_start.elim
      · obtain ⟨_, _, report⟩ := run.reported _ inReports
        exact report.not_start.elim
    · cases run.shown _ inStarts with
      | failed err last => exact last
      | reported m report => exact report.not_start.elim
  · exact (persisted.reported _ last).not_start.elim

/-- A `Reconcile` in which a start fails restarted the service. -/
theorem HandlerRun.restarted_of_start {m h : State W} (run : HandlerRun env cfg phases m h events)
    (failed : .start j (some err) ∈ events) :
    ∃ (k : Nat) (middle : Control) (result : Nat × Option Go.Error) (t : State W)
      (stops reports starts final : List Event),
      (k : Int) = m.data.control.attempt.restartIndex cfg ∧
      RestartRun env cfg phases k m.attempt t middle result stops reports starts ∧
      Persisted env cfg t h final ∧ events = stops ++ reports ++ starts ++ final ∧
      result.2 = some err := by
  cases run with
  | idle => contradiction
  | confirmed _ _ _ _ reported => exact (reported _ failed).not_start.elim
  | restarted _ _ index run persisted =>
    exact ⟨_, _, _, _, _, _, _, _, index, run, persisted, rfl, run.failed_of_start persisted failed⟩
  | stopped _ _ run =>
    rcases List.mem_append.mp failed with inStops | inReports
    · exact (run.calls _ inStops).not_start.elim
    · exact (run.reported _ inReports).not_start.elim

theorem Control.started_failed {c : Control} {result : Nat × Option Go.Error}
    (failed : result.2 = some err) :
    c.started result = { c with serviceState := serviceStateFalse, startFailStep := result.1 } := by
  simp only [Control.started, failed]

/-- Decisions of a failing service after at least so many attempts. -/
structure Control.Failing (attempts : Int) (c : Control) : Prop where
  stopped : c.serviceState = serviceStateFalse
  notRunning : c.kubeRunning = false
  attempts : attempts ≤ c.startAttempts

theorem Control.Failing.weaken (failing : Control.Failing a c) (fewer : b ≤ a) :
    Control.Failing b c :=
  ⟨failing.stopped, failing.notRunning, Int.le_trans fewer failing.attempts⟩

/-- The stop chain of a retry keeps the counter: it ends above the first phase, or
it comes down to the certificates and leaves them alone. -/
theorem StopOutcome.retried (outcome : StopOutcome phases k c stops middle)
    (restart : c.operation = .start) (stopped : c.serviceState = serviceStateFalse)
    (certs : ∃ phase, phases[0]? = some phase ∧ phase.order = genCertsPhaseOrder)
    (later : c.failedStatusCheck ≠ 0) (spared : k = 0 → ∀ j err, .stop j (some err) ∉ stops) :
    middle.startAttempts = c.startAttempts ∧ middle.serviceState = serviceStateFalse ∧
      middle.kubeRunning = c.kubeRunning := by
  cases outcome with
  | skipped => exact ⟨rfl, stopped, rfl⟩
  | finished ended =>
    by_cases bottom : k = 0
    · obtain ⟨phase, found, order⟩ := certs
      rcases ended with ⟨j, err, failed⟩ | through
      · exact absurd failed (spared bottom j err)
      · have nonempty := (List.getElem?_eq_some_iff.mp found).1
        exact absurd ⟨restart, order, later⟩ (through 0 phase (Nat.le_of_eq bottom) nonempty found).1
    · simp only [Control.stopped, if_neg bottom, and_self]

/-- The event, if it is a write, writes decisions of a failing service and their node state. -/
def Event.WritesFailing (cfg : Config) (attempts : Int) (e : Event) : Prop :=
  ∀ snapshot, e = .write snapshot → snapshot.data.control.Failing attempts ∧
    snapshot.data.nodeState = snapshot.data.nodeStateFor cfg

section Writes
variable {e : Event} {view : View} {cfg : Config} {a b : Int}

theorem Event.Reports.writesFailing (report : e.Reports cfg view)
    (failing : view.control.Failing a) : e.WritesFailing cfg a := by
  rintro snapshot rfl
  have control : snapshot.data.control = view.control := congrArg View.control report.1
  exact ⟨control ▸ failing, report.2⟩

theorem Event.WritesFailing.weaken (writes : e.WritesFailing cfg a) (fewer : b ≤ a) :
    e.WritesFailing cfg b := by
  intro snapshot same
  exact ⟨(writes snapshot same).1.weaken fewer, (writes snapshot same).2⟩

theorem StopCall.writesFailing (call : StopCall phases k c e) : e.WritesFailing cfg a := by
  obtain ⟨_, _, _, rfl, _⟩ := call
  exact fun _ same => nomatch same

theorem StartEvent.writesFailing (event : StartEvent cfg phases k c result e)
    (failing : c.Failing a) : e.WritesFailing cfg a := by
  cases event with
  | started => exact fun _ same => nomatch same
  | failed => exact fun _ same => nomatch same
  | reported m report => exact report.writesFailing failing

end Writes

theorem RestartRun.writesFailing
    (run : RestartRun env cfg phases k s t middle result stops reports starts)
    (persisted : Persisted env cfg t u final) (failing : middle.Failing attempts)
    (after : u.data.control.Failing attempts) :
    ∀ e ∈ stops ++ reports ++ starts ++ final, e.WritesFailing cfg attempts := by
  have assigned : (middle.assign cfg).Failing attempts :=
    ⟨failing.stopped, failing.notRunning, failing.attempts⟩
  simp only [List.forall_mem_append]
  refine ⟨⟨⟨fun e member => (run.calls e member).writesFailing, fun e member => ?_⟩,
    fun e member => (run.shown e member).writesFailing assigned⟩, fun e member => ?_⟩
  · obtain ⟨_, _, report⟩ := run.reported e member
    exact report.writesFailing failing
  · have control : u.data.control = t.view.control := persisted.control
    exact (persisted.reported e member).writesFailing (control ▸ after)

section Retry
variable {W : Type} {env : Env W} {cfg : Config} {phases : List Phase} {s m h t : State W}
  {checks reports events final : List Event} {call : StatusCall}

/-- The whole of one `Reconcile` that retries a start which failed after the certificates. -/
structure Retried (cfg : Config) (s t : State W) (events final : List Event) : Prop where
  attempts : t.data.startAttempts = s.data.startAttempts + 1
  stopped : t.data.serviceState = serviceStateFalse
  incomplete : 0 ≤ t.data.startFailStep
  writes : ∀ e ∈ events, e.WritesFailing cfg s.data.startAttempts
  last : ∀ e ∈ final, e.WritesFailing cfg (s.data.startAttempts + 1)

theorem ReconcileRun.retried
    (run : ReconcileRun env cfg phases s m h t checks reports call events final)
    (certs : ∃ phase, phases[0]? = some phase ∧ phase.order = genCertsPhaseOrder)
    (stopped : s.data.serviceState = serviceStateFalse) (incomplete : 0 < s.data.startFailStep)
    (failed : .start j (some err) ∈ events) (fits : Go.Int64 (s.data.startAttempts + 1))
    (spared : (s.data.startAttempts + 1).tmod cfg.fullRetryCount = 0 →
      ∀ j err, .stop j (some err) ∉ events) :
    Retried cfg s t (checks ++ reports ++ [.statusCall call] ++ events ++ final) final := by
  have incomplete' : s.data.control.startFailStep ≠ -1 := by
    change s.data.startFailStep ≠ -1
    omega
  obtain ⟨rfl, control⟩ := run.status.outcome.of_incomplete incomplete'
  have sameAttempts : m.data.startAttempts = s.data.startAttempts :=
    congrArg Control.startAttempts control
  have counted : Go.wrapInt64 (s.data.startAttempts + 1) = s.data.startAttempts + 1 :=
    Go.wrapInt64_of_int64 fits
  have sameState : m.data.serviceState = s.data.serviceState :=
    congrArg Control.serviceState control
  have check : m.data.failedStatusCheck = s.data.startFailStep :=
    congrArg Control.failedStatusCheck control
  have notRunning : m.data.kubeRunning = false := congrArg Control.kubeRunning control
  obtain ⟨k, middle, result, u, stops, stopReports, starts, handled, index, restart, persisted,
    rfl, failure⟩ := run.handler.restarted_of_start failed
  have fullRetry : k = 0 → (s.data.startAttempts + 1).tmod cfg.fullRetryCount = 0 := by
    rintro rfl
    by_contra partialRetry
    have chosen : (0 : Int) = m.data.failedStatusCheck := by
      simpa [Control.restartIndex, Control.attempt, ExtensionData.control, sameAttempts, counted,
        partialRetry] using index
    omega
  obtain ⟨attempts, down, running⟩ := restart.outcome.retried rfl (sameState.trans stopped) certs
    (by change m.data.failedStatusCheck ≠ 0; omega)
    (fun bottom j err stop => spared (fullRetry bottom) j err (by simp [stop]))
  have attempts' : middle.startAttempts = s.data.startAttempts + 1 := by
    rw [attempts, ← counted, ← sameAttempts]
    rfl
  have failing : middle.Failing (s.data.startAttempts + 1) :=
    ⟨down, running.trans notRunning, Int.le_of_eq attempts'.symm⟩
  have after : h.data.control = { middle.assign cfg with
      serviceState := serviceStateFalse, startFailStep := result.1 } :=
    persisted.control.trans (restart.control.trans (Control.started_failed failure))
  have afterFailing : h.data.control.Failing (s.data.startAttempts + 1) := by
    rw [after]
    exact ⟨rfl, failing.notRunning, failing.attempts⟩
  have last : ∀ e ∈ final, e.WritesFailing cfg (s.data.startAttempts + 1) :=
    fun e member => (run.concluded.reported e member).writesFailing afterFailing
  have final := run.concluded.control.trans after
  refine ⟨(congrArg Control.startAttempts final).trans attempts',
    congrArg Control.serviceState final, ?_, ?_, last⟩
  · rw [show t.data.startFailStep = result.1 from congrArg Control.startFailStep final]
    exact Int.natCast_nonneg _
  · intro e member
    rcases List.mem_append.mp member with earlier | concluding
    · rcases List.mem_append.mp earlier with checking | handling
      · rcases List.mem_append.mp checking with reporting | called
        · exact (run.status.reported e reporting).writesFailing ⟨stopped, rfl, Int.le_refl _⟩
        · cases List.mem_singleton.mp called
          exact fun _ same => by cases same
      · exact (restart.writesFailing persisted failing afterFailing e handling).weaken (by omega)
    · exact (last e concluding).weaken (by omega)

end Retry

/-- The first `Reconcile` of a process whose start fails resets the counter. -/
theorem ReconcileRun.firstFailed
    (run : ReconcileRun env cfg phases s m h t checks reports call events final)
    (only : CertsOnlyFirst phases) (complete : s.data.startFailStep = -1)
    (stopped : s.data.serviceState = serviceStateFalse) (failed : .start j (some err) ∈ events) :
    t.data.startAttempts = 0 ∧ t.data.serviceState = serviceStateFalse ∧
      0 ≤ t.data.startFailStep := by
  have check : m.data.failedStatusCheck = 0 := by
    refine run.status.outcome.of_unexpected complete ?_
    rw [show s.data.control.serviceState = serviceStateFalse from stopped]
    decide
  obtain ⟨k, middle, result, u, stops, stopReports, starts, handled, index, restart, persisted,
    rfl, failure⟩ := run.handler.restarted_of_start failed
  have bottom : k = 0 := by
    have chosen : m.data.control.attempt.restartIndex cfg = 0 := by
      simp [Control.restartIndex, Control.attempt, ExtensionData.control, check]
    omega
  subst bottom
  have reset : middle.startAttempts = 0 := by
    rw [restart.outcome.of_first only check]
    rfl
  have after : t.data.control = { middle.assign cfg with
      serviceState := serviceStateFalse, startFailStep := result.1 } :=
    run.concluded.control.trans
      (persisted.control.trans (restart.control.trans (Control.started_failed failure)))
  refine ⟨(congrArg Control.startAttempts after).trans reset, congrArg Control.serviceState after,
    ?_⟩
  rw [show t.data.startFailStep = result.1 from congrArg Control.startFailStep after]
  exact Int.natCast_nonneg _

def Event.startFailed : Event → Bool
  | .start _ (some _) => true
  | _ => false

def Event.stopFailed : Event → Bool
  | .stop _ (some _) => true
  | _ => false

theorem Event.startFailed_mem {events : List Event} (failed : ∃ e ∈ events, e.startFailed) :
    ∃ j err, .start j (some err) ∈ events := by
  obtain ⟨e, member, failed⟩ := failed
  cases e with
  | start j err =>
    cases err with
    | none => contradiction
    | some err => exact ⟨j, err, member⟩
  | _ => contradiction

/-- `Reconcile`s in a row, in each of which the start fails and the condition holds. -/
inductive FailingRun (calls : Calls W) (phases : List Phase) (cfg : Config)
    (condition : State W → State W → Prop) : Nat → State W → State W → Prop where
  | refl (s) : FailingRun calls phases cfg condition 0 s s
  | next (earlier : FailingRun calls phases cfg condition n s t)
      (stepped : reconcileStep calls.env phases cfg t = .ok u)
      (failed : ∃ e ∈ newEvents t u, e.startFailed) (holds : condition t u) :
      FailingRun calls phases cfg condition (n + 1) s u

/-- The start before did not fail at the first phase. A retry of a later one does not overflow the
counter, and a full retry is not broken off by a phase that fails to stop. -/
def Spared (cfg : Config) (s t : State W) : Prop :=
  s.data.startFailStep ≠ 0 ∧
    (s.data.startFailStep ≠ -1 → Go.Int64 (s.data.startAttempts + 1) ∧
      ((s.data.startAttempts + 1).tmod cfg.fullRetryCount = 0 → ∀ e ∈ newEvents s t, ¬ e.stopFailed))

instance (cfg : Config) (s t : State W) : Decidable (Spared cfg s t) :=
  inferInstanceAs (Decidable (_ ∧ (_ → _ ∧ (_ → _))))

/-- Follow a failing run as far as it goes. -/
def FailingRun.find (calls : Calls W) (phases : List Phase) (cfg : Config)
    (condition : State W → State W → Prop) [∀ s t, Decidable (condition s t)] :
    Nat → State W → Option (State W)
  | 0, s => some s
  | n + 1, s =>
    match find calls phases cfg condition n s with
    | none => none
    | some t =>
      match reconcileStep calls.env phases cfg t with
      | .error _ => none
      | .ok u => if (∃ e ∈ newEvents t u, e.startFailed) ∧ condition t u then some u else none

variable {condition : State W → State W → Prop}

theorem FailingRun.find_sound
    [∀ s t, Decidable (condition s t)] (found : find calls phases cfg condition n s = some t) :
    FailingRun calls phases cfg condition n s t := by
  induction n generalizing t with
  | zero =>
    cases found
    exact .refl s
  | succ n ih =>
    unfold find at found
    split at found
    · contradiction
    · rename_i u reached
      split at found
      · contradiction
      · rename_i stepped
        split at found
        · rename_i holds
          cases found
          exact .next (ih reached) stepped holds.1 holds.2
        · contradiction

/-- The node states written to the extension file, in order. -/
def writtenNodeStates (trace : List Event) : List String :=
  trace.filterMap fun
    | .write snapshot => some snapshot.data.nodeState
    | _ => none

theorem writtenNodeStates_last {earlier final : List Event}
    (recorded : ∃ snapshot, .write snapshot ∈ final)
    (writes : ∀ snapshot, .write snapshot ∈ final → snapshot.data.nodeState = state) :
    (writtenNodeStates (earlier ++ final)).getLast? = some state := by
  obtain ⟨snapshot, member⟩ := recorded
  have written : writtenNodeStates final ≠ [] :=
    List.ne_nil_of_mem (List.mem_filterMap.mpr ⟨_, member, rfl⟩)
  rw [writtenNodeStates, List.filterMap_append, ← writtenNodeStates, ← writtenNodeStates,
    List.getLast?_append, List.getLast?_eq_some_getLast written, Option.some_or]
  obtain ⟨e, last, same⟩ := List.mem_filterMap.mp (List.getLast_mem written)
  cases e with
  | write snapshot => rw [← Option.some.inj same, writes snapshot last]
  | _ => contradiction

/-- Between failing `Reconcile`s: the counter, and that the start is incomplete. -/
structure Retrying (phases : List Phase) (attempts : Int) (s : State W) : Prop where
  sound : Sound phases s
  attempts : s.data.startAttempts = attempts
  stopped : s.data.serviceState = serviceStateFalse
  incomplete : 0 ≤ s.data.startFailStep

section ErrorState
variable {W : Type} {calls : Calls W} {phases : List Phase} {cfg : Config} {s t u s₀ : State W}
  (nonempty : phases ≠ []) (only : CertsOnlyFirst phases)
  (listed : (∃ phase, phases[0]? = some phase ∧ phase.order = genCertsPhaseOrder) ∨
    phases.length = 1)
include nonempty listed

theorem Retrying.next (before : Retrying phases a t)
    (stepped : reconcileStep calls.env phases cfg t = .ok u)
    (failed : ∃ e ∈ newEvents t u, e.startFailed) (spared : Spared cfg t u) :
    Retrying phases (a + 1) u ∧ (∀ e ∈ newEvents t u, e.WritesFailing cfg a) ∧
      ∃ earlier final, u.trace = earlier ++ final ∧ Recorded cfg final ∧
        ∀ e ∈ final, e.WritesFailing cfg (a + 1) := by
  obtain ⟨m, h, checks, reports, call, events, final, run⟩ :=
    calls.step_run before.sound nonempty stepped
  obtain ⟨j, err, failed⟩ := Event.startFailed_mem failed
  have incomplete : 0 < t.data.startFailStep := by
    have := before.incomplete
    have := spared.1
    omega
  -- a later phase failed, so the list has more than one
  have certs := listed.resolve_right fun single => by
    rcases before.sound.bounded with none | ⟨_, below⟩
    · have : t.data.startFailStep = -1 := none
      omega
    · have : t.data.startFailStep < phases.length := below
      omega
  obtain ⟨fits, spared⟩ := spared.2 (by omega)
  have retried := run.retried certs before.stopped incomplete (run.start_handled failed) fits fun full j err stop =>
    spared full (.stop j (some err)) (by rw [run.advances.newEvents]; simp [stop]) rfl
  obtain ⟨attempts, stopped, incomplete', writes, last⟩ := retried
  rw [before.attempts] at attempts writes last
  refine ⟨⟨run.sound before.sound, attempts, stopped, incomplete'⟩, ?_, ?_⟩
  · rw [run.advances.newEvents]
    exact writes
  · exact ⟨_, final, by rw [run.advances.trace, ← List.append_assoc], run.concluded.recorded, last⟩

theorem FailingRun.later (before : Retrying phases a s)
    (run : FailingRun calls phases cfg (Spared cfg) k s t) :
    Retrying phases (a + k) t ∧ ∃ events, t.trace = s.trace ++ events ∧
      ∀ e ∈ events, e.WritesFailing cfg a := by
  induction run with
  | refl => exact ⟨by simpa using before, [], by simp, by simp⟩
  | @next n _ t u earlier stepped failed spared ih =>
    obtain ⟨retrying, events, trace, writes⟩ := ih before
    obtain ⟨retrying', writes', -⟩ := retrying.next nonempty listed stepped failed spared
    obtain ⟨_, _, _, _, _, _, _, step⟩ := calls.step_run retrying.sound nonempty stepped
    refine ⟨by simpa [Int.add_assoc] using retrying', events ++ newEvents t u, ?_, ?_⟩
    · rw [step.advances.trace_newEvents, trace, List.append_assoc]
    · exact List.forall_mem_append.mpr ⟨writes, fun e member => (writes' e member).weaken (by omega)⟩

include only in
theorem FailingRun.retrying (start : Initial phases s₀)
    (run : FailingRun calls phases cfg (Spared cfg) (n + 1) s₀ s) : Retrying phases n s := by
  induction n generalizing s with
  | zero =>
    obtain _ | ⟨earlier, stepped, failed, spared⟩ := run
    cases earlier
    obtain ⟨_, _, _, _, _, _, _, step⟩ := calls.step_run start.sound nonempty stepped
    obtain ⟨j, err, failed⟩ := Event.startFailed_mem failed
    obtain ⟨attempts, stopped, incomplete⟩ :=
      step.firstFailed only start.startFailStep start.serviceState (step.start_handled failed)
    exact ⟨step.sound start.sound, attempts, stopped, incomplete⟩
  | succ n ih =>
    obtain _ | ⟨earlier, stepped, failed, spared⟩ := run
    exact_mod_cast ((ih earlier).next nonempty listed stepped failed spared).1

end ErrorState

theorem Event.WritesFailing.errorState
    (writes : (Event.write snapshot).WritesFailing cfg a) (many : numRetriesForErrorState < a)
    (expected : cfg.kubeServiceState = serviceStateTrue) :
    snapshot.data.nodeState = errorState := by
  obtain ⟨failing, same⟩ := writes snapshot rfl
  rw [same]
  exact ExtensionData.nodeStateFor_exhausted
    ⟨failing.stopped, failing.notRunning, Int.lt_of_lt_of_le many failing.attempts⟩ expected

/-- A service whose start keeps failing at a later phase than the first puts its
node in error state, and there it stays while the start keeps failing. -/
theorem errorState_after_retries {calls : Calls W} (nonempty : phases ≠ [])
    (only : CertsOnlyFirst phases)
    (listed : (∃ phase, phases[0]? = some phase ∧ phase.order = genCertsPhaseOrder) ∨
      phases.length = 1) (expected : cfg.kubeServiceState = serviceStateTrue)
    (recording : cfg.disableExtFile = false)
    (constructed : initial calls.env cfg phases file w = .ok s₀)
    (run : FailingRun calls phases cfg (Spared cfg) (numRetriesForErrorState.toNat + 2) s₀ s)
    (later : FailingRun calls phases cfg (Spared cfg) k s t) :
    (writtenNodeStates s.trace).getLast? = some errorState ∧
      ∀ snapshot, .write snapshot ∈ newEvents s t → snapshot.data.nodeState = errorState := by
  have retrying := run.retrying nonempty only listed (initial_spec constructed)
  constructor
  · obtain _ | ⟨earlier, stepped, failed, spared⟩ := run
    have before := earlier.retrying nonempty only listed (initial_spec constructed)
    obtain ⟨-, -, earlierEvents, final, trace, recorded, last⟩ :=
      before.next nonempty listed stepped failed spared
    rw [trace]
    exact writtenNodeStates_last (recorded recording) fun snapshot member =>
      (last _ member).errorState (by decide) expected
  · obtain ⟨-, events, trace, writes⟩ := later.later nonempty listed retrying
    rw [newEvents, trace, List.drop_left]
    exact fun snapshot member => (writes _ member).errorState (by decide) expected

/-- Every check fails, and so does every start of the phase at `index`. -/
def failingAt (index : Nat) : Calls Unit :=
  .constant (fun _ => some "down") (fun i => if i = index then some "failed"
    else none) (fun _ => none)

theorem FailingRun.of_find [∀ s t, Decidable (condition s t)] (observe : State W → β)
    (found : ((initial calls.env cfg phases file w).toOption.bind
      (FailingRun.find calls phases cfg condition n)).map observe = some seen) :
    ∃ s₀ s, initial calls.env cfg phases file w = .ok s₀ ∧
      FailingRun calls phases cfg condition n s₀ s ∧ observe s = seen := by
  obtain ⟨s, reached, same⟩ := Option.map_eq_some_iff.mp found
  obtain ⟨s₀, constructed, followed⟩ := Option.bind_eq_some_iff.mp reached
  exact ⟨s₀, s, Go.ok_of_toOption constructed, .find_sound followed, same⟩

theorem errorState_after_second_phase_fails : ∃ s₀ s,
    initial (failingAt 1).env startConfig certsAndKubeconfig (.object {}) () = .ok s₀ ∧
    FailingRun (failingAt 1) certsAndKubeconfig startConfig (Spared startConfig) 12 s₀ s ∧
    (writtenNodeStates s.trace).getLast? = some errorState := by
  obtain ⟨s₀, s, constructed, run, -⟩ : ∃ s₀ s,
      initial (failingAt 1).env startConfig certsAndKubeconfig (.object {}) () = .ok s₀ ∧
      FailingRun (failingAt 1) certsAndKubeconfig startConfig (Spared startConfig) 12 s₀ s ∧ () = () :=
    FailingRun.of_find (fun _ => ()) (by decide +kernel)
  refine ⟨s₀, s, constructed, run, ?_⟩
  exact (errorState_after_retries (by decide) (.of_ordered (by decide) rfl) (.inl ⟨_, rfl, rfl⟩)
    rfl rfl constructed run (.refl s)).1

/-- The first phase fails to start every time: each restart stops everything and
resets the counter, so the node is never in error state. -/
theorem converging_while_first_phase_fails : ∃ s₀ s,
    initial (failingAt 0).env startConfig certsAndKubeconfig (.object {}) () = .ok s₀ ∧
    FailingRun (failingAt 0) certsAndKubeconfig startConfig (fun _ _ => True) 12 s₀ s ∧
    (writtenNodeStates s.trace).getLast? = some convergingState :=
  FailingRun.of_find (fun s => (writtenNodeStates s.trace).getLast?) (by decide +kernel)

end Nodelet
