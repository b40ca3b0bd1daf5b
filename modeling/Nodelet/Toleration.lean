import Nodelet.Reconcile.Runs

/-! The status threshold over whole runs. A failing check is tolerated only within
the threshold after a status chain that passed, or that failed while the service
was not expected to run; a tolerated failure does not extend that window. -/
namespace Nodelet
open Constants

/-- A clock that never goes backwards, whatever the surroundings do. -/
structure Clock (env : Env W) where
  time : W → Nat
  step : env.Step w w' → time w ≤ time w'
  now : env.now w = (reading, w') → time w ≤ reading ∧ reading ≤ time w'

namespace Clock
variable {W : Type} {env : Env W} (clock : Clock env)

theorem steps (moved : Relation.ReflTransGen env.Step w w') : clock.time w ≤ clock.time w' := by
  induction moved with
  | refl => exact Nat.le_refl _
  | tail _ last ih => exact Nat.le_trans ih (clock.step last)

theorem observed (moved : Relation.ReflTransGen env.Observe w w') : clock.time w ≤ clock.time w' :=
  clock.steps (Relation.ReflTransGen.mono (fun _ _ => .observe) _ _ moved)

theorem reads {reading : Int} (read : env.Reads w w' reading) :
    clock.time w ≤ reading ∧ reading ≤ clock.time w' := by
  obtain ⟨v, v', reading, before, read, rfl, after⟩ := read
  have early := clock.observed before
  have late := clock.observed after
  have between := clock.now read
  omega

end Clock

/-- The status calls of a trace, in order. -/
def statusCalls (trace : List Event) : List StatusCall :=
  trace.filterMap fun
    | .statusCall call => some call
    | _ => none

@[simp] theorem statusCalls_append (first second : List Event) :
    statusCalls (first ++ second) = statusCalls first ++ statusCalls second :=
  List.filterMap_append

@[simp] theorem statusCalls_call (call : StatusCall) :
    statusCalls [.statusCall call] = [call] := rfl

theorem statusCalls_eq_nil (other : ∀ e ∈ events, ∀ call, e ≠ .statusCall call) :
    statusCalls events = [] := by
  simp only [statusCalls, List.filterMap_eq_nil_iff]
  intro e member
  cases e with
  | statusCall call => exact absurd rfl (other _ member call)
  | _ => rfl

theorem Event.Reports.not_call {e : Event} (report : e.Reports cfg view) (call : StatusCall) :
    e ≠ .statusCall call := by
  rintro rfl
  exact report

theorem StatusRun.statusCalls (run : StatusRun env cfg count s m checks reports call) :
    statusCalls m.trace = statusCalls s.trace ++ [call] := by
  have noChecks : Nodelet.statusCalls checks = [] := statusCalls_eq_nil fun e member call same => by
    obtain ⟨_, _, status⟩ := run.outcome.is_status member
    simp [status] at same
  have noReports : Nodelet.statusCalls reports = [] :=
    statusCalls_eq_nil fun e member => (run.reported e member).not_call
  simp [run.advances.trace, noChecks, noReports]

theorem HandlerRun.statusCalls (run : HandlerRun env cfg phases m h events) :
    statusCalls events = [] := by
  apply statusCalls_eq_nil
  intro e member call
  rcases run.kinds member with ⟨_, _, rfl⟩ | ⟨_, _, rfl⟩ | ⟨_, report⟩
  · simp
  · simp
  · exact report.not_call call

theorem Concluded.statusCalls (concluded : Concluded env cfg h t final) : statusCalls final = [] :=
  statusCalls_eq_nil fun e member => (concluded.reported e member).not_call

/-- A call that opens the window anew: the chain passed, or the service was not expected to run. -/
def StatusCall.Opens (call : StatusCall) : Prop :=
  call.checked = true ∧ (call.failed = none ∨ call.serviceState ≠ serviceStateTrue)

/-- The window was opened last at this time, and the calls since came later. -/
def LastOpened (calls : List StatusCall) (time : Int) : Prop :=
  ∃ before opening after, calls = before ++ opening :: after ∧ opening.Opens ∧ opening.time = time ∧
    ∀ later ∈ after, ¬ later.Opens ∧ time ≤ later.time

theorem LastOpened.opened (calls : List StatusCall) (opens : call.Opens) :
    LastOpened (calls ++ [call]) call.time :=
  ⟨calls, call, [], rfl, opens, rfl, by simp⟩

theorem LastOpened.extended (last : LastOpened calls time) (closed : ¬ call.Opens)
    (later : time ≤ call.time) : LastOpened (calls ++ [call]) time := by
  obtain ⟨before, opening, after, rfl, opens, same, since⟩ := last
  refine ⟨before, opening, after ++ [call], by simp, opens, same, ?_⟩
  simp only [List.forall_mem_append, List.forall_mem_singleton]
  exact ⟨since, closed, later⟩

theorem LastOpened.since (last : LastOpened calls time) (split : calls = before ++ failing)
    (closed : ∀ c ∈ failing, ¬ c.Opens) : ∀ c ∈ failing, time ≤ c.time := by
  obtain ⟨front, opening, after, whole, opens, rfl, since⟩ := last
  rcases List.append_eq_append_iff.mp (split.symm.trans whole) with ⟨middle, -, tail⟩ |
    ⟨middle, -, tail⟩
  · exact absurd opens (closed opening (by simp [tail]))
  · intro c member
    have cases : c = opening ∨ c ∈ after := by
      rw [← List.mem_cons, tail]
      exact List.mem_append_right _ member
    rcases cases with rfl | later
    · exact absurd opens (closed c member)
    · exact (since c later).2

theorem StatusOutcome.window (outcome : StatusOutcome cfg count c checks call c') :
    (call.Opens ∧ c'.lastSuccessfulStatus = call.time) ∨
      (¬ call.Opens ∧ c'.lastSuccessfulStatus = c.lastSuccessfulStatus) := by
  cases outcome with
  | incomplete step now => exact .inr ⟨by simp [StatusCall.Opens], rfl⟩
  | @complete failed _ step checked now =>
    cases failed with
    | none => exact .inl ⟨⟨rfl, .inl rfl⟩, rfl⟩
    | some i =>
      by_cases expected : c.serviceState = serviceStateTrue
      · refine .inr ⟨by simp [StatusCall.Opens, expected], ?_⟩
        by_cases recent : Go.Time.sub now c.lastSuccessfulStatus < getStatusFailureToleration cfg
        · rw [Control.settle_tolerated c.beginStatus expected recent]
          rfl
        · rw [Control.settle_failed c.beginStatus expected recent]
          rfl
      · rw [Control.settle_unexpected c.beginStatus expected]
        exact .inl ⟨⟨rfl, .inr expected⟩, rfl⟩

theorem StatusOutcome.tolerated (outcome : StatusOutcome cfg count c checks call c')
    (failed : .status i (some err) ∈ checks) (running : c'.kubeRunning = true) :
    c.serviceState = serviceStateTrue ∧ 0 < count ∧
      Go.Time.sub call.time c.lastSuccessfulStatus < getStatusFailureToleration cfg := by
  cases outcome with
  | incomplete => contradiction
  | complete step checked now =>
    obtain ⟨rfl, -⟩ := checked.result_of_failed failed
    have inside := checked.result_lt
    by_cases expected : c.serviceState = serviceStateTrue
    · by_cases recent : Go.Time.sub now c.lastSuccessfulStatus < getStatusFailureToleration cfg
      · exact ⟨expected, by omega, recent⟩
      · rw [Control.settle_failed c.beginStatus expected recent] at running
        contradiction
    · rw [Control.settle_unexpected c.beginStatus expected] at running
      contradiction

@[simp] theorem Control.stopped_lastSuccessfulStatus (k : Nat) (c : Control) :
    (c.stopped k).lastSuccessfulStatus = c.lastSuccessfulStatus := by
  unfold stopped
  split <;> rfl

@[simp] theorem Control.started_lastSuccessfulStatus (c : Control)
    (result : Nat × Option Go.Error) :
    (c.started result).lastSuccessfulStatus = c.lastSuccessfulStatus := by
  unfold started
  split <;> rfl

theorem StopOutcome.lastSuccessfulStatus (outcome : StopOutcome phases k c stops c') :
    c'.lastSuccessfulStatus = c.lastSuccessfulStatus := by
  cases outcome with
  | skipped => rfl
  | finished => simp

theorem HandlerRun.lastSuccessfulStatus (run : HandlerRun env cfg phases m h events) :
    h.data.lastSuccessfulStatus = m.data.lastSuccessfulStatus := by
  cases run with
  | idle => rfl
  | confirmed _ _ control => exact congrArg Control.lastSuccessfulStatus control
  | @restarted t middle result stops reports starts u final k _ _ _ run persisted =>
    have started := congrArg Control.lastSuccessfulStatus (persisted.control.trans run.control)
    rw [Control.started_lastSuccessfulStatus] at started
    exact started.trans run.outcome.lastSuccessfulStatus
  | stopped _ _ run => exact run.outcome.lastSuccessfulStatus

/-- Between two status chains: all calls lie in the past, and the field that decides
about tolerance is the time at which the window was opened last. -/
structure Timed {env : Env W} (clock : Clock env) (s : State W) : Prop where
  past : ∀ call ∈ statusCalls s.trace, call.time ≤ clock.time s.world
  last : s.data.lastSuccessfulStatus = Go.Time.zero ∨
    LastOpened (statusCalls s.trace) s.data.lastSuccessfulStatus

section Runs
variable {W : Type} {env : Env W} {clock : Clock env} {s m h t : State W}

theorem LastOpened.past (timed : Timed clock s) (last : LastOpened (statusCalls s.trace) time) :
    time ≤ clock.time s.world := by
  obtain ⟨before, opening, after, calls, -, rfl, -⟩ := last
  exact timed.past opening (by simp [calls])

theorem StatusRun.timed (run : StatusRun env cfg count s m checks reports call)
    (timed : Timed clock s) : Timed clock m := by
  obtain ⟨early, late⟩ := clock.reads run.reads
  have passed := clock.observed run.advances.world
  constructor
  · rw [run.statusCalls]
    simp only [List.forall_mem_append, List.forall_mem_singleton]
    refine ⟨fun call member => ?_, late⟩
    have := timed.past call member
    omega
  · rw [run.statusCalls]
    rcases run.outcome.window with ⟨opens, refreshed⟩ | ⟨closed, kept⟩
    · have refreshed : m.data.lastSuccessfulStatus = call.time := refreshed
      rw [refreshed]
      exact .inr (.opened _ opens)
    · have kept : m.data.lastSuccessfulStatus = s.data.lastSuccessfulStatus := kept
      rw [kept]
      refine timed.last.imp_right fun last => last.extended closed ?_
      have := last.past timed
      omega

theorem ReconcileRun.timed
    (run : ReconcileRun env cfg phases s m h t checks reports call events final)
    (timed : Timed clock s) : Timed clock t := by
  have timedM := run.status.timed timed
  have advances := run.handler.advances.trans run.concluded.advances
  have sameCalls : statusCalls t.trace = statusCalls m.trace := by
    simp [advances.trace, run.handler.statusCalls, run.concluded.statusCalls]
  have sameLast : t.data.lastSuccessfulStatus = m.data.lastSuccessfulStatus :=
    (congrArg Control.lastSuccessfulStatus run.concluded.control).trans run.handler.lastSuccessfulStatus
  have passed := clock.steps advances.world
  constructor
  · rw [sameCalls]
    intro call member
    have := timedM.past call member
    omega
  · rw [sameCalls, sameLast]
    exact timedM.last

end Runs

/-- The configured threshold in nanoseconds. -/
def threshold (cfg : Config) : Int := cfg.pf9StatusThresholdSeconds * 1000000000

theorem getStatusFailureToleration_bound (cfg : Config) :
    (getStatusFailureToleration cfg = threshold cfg ∨ getStatusFailureToleration cfg = 0) ∧
      getStatusFailureToleration cfg ≤ 9223372036000000000 := by
  unfold getStatusFailureToleration
  cases parsed : Go.Time.parseSeconds cfg.pf9StatusThresholdSeconds with
  | ok duration =>
    obtain ⟨rfl, bound⟩ := Go.Time.parseSeconds_bound parsed
    exact ⟨.inl rfl, bound⟩
  | error err => exact ⟨.inr rfl, by simp⟩

theorem Timed.within (timed : Timed clock s) {now : Int} (later : clock.time s.world ≤ now)
    (recent : Go.Time.sub now s.data.lastSuccessfulStatus < getStatusFailureToleration cfg) :
    LastOpened (statusCalls s.trace) s.data.lastSuccessfulStatus ∧
      0 ≤ now - s.data.lastSuccessfulStatus ∧
      now - s.data.lastSuccessfulStatus < threshold cfg := by
  obtain ⟨tolerance, bound⟩ := getStatusFailureToleration_bound cfg
  have last := timed.last.resolve_left fun zero => by
    rw [zero] at recent
    exact Go.Time.sub_zero (by omega) bound recent
  have past := last.past timed
  have short := Go.Time.sub_lt recent bound
  exact ⟨last, by omega, by omega⟩

/-- In every run: a status chain that takes the service to be running although a check
failed was made while the service was expected to run, less than the threshold after
a call that opened the window. Failing calls in between do not open it again, so the
whole unbroken sequence of them is shorter than the threshold, which is positive. -/
theorem tolerated_within_threshold {calls : Calls W} (clock : Clock calls.env)
    (constructed : initial calls.env cfg₀ phases file w = .ok s₀)
    (run : Go.execute (reconcileStep calls.env phases) cfgs s₀ = .ok s)
    (checked : status calls.env cfg phases s = .ok ((), m))
    (failed : .status i (some err) ∈ newEvents s m) (running : m.data.kubeRunning = true) :
    s.data.serviceState = serviceStateTrue ∧ 0 < cfg.pf9StatusThresholdSeconds ∧
      ∃ call, statusCalls m.trace = statusCalls s.trace ++ [call] ∧
        (∃ before opening after, statusCalls s.trace = before ++ opening :: after ∧ opening.Opens ∧
          call.time - opening.time < threshold cfg ∧ ∀ later ∈ after, ¬ later.Opens) ∧
        ∀ before failing, statusCalls s.trace = before ++ failing →
          (∀ c ∈ failing, c.failed ≠ none ∧ c.serviceState = serviceStateTrue) →
            ∀ c ∈ failing, call.time - c.time < threshold cfg := by
  obtain ⟨checks, reports, call, statusRun⟩ :=
    (status_spec cfg phases (fun _ => calls.returning _ _) s).elim checked
  rw [statusRun.advances.newEvents] at failed
  have inChecks : .status i (some err) ∈ checks := by
    simp only [List.mem_append, List.mem_singleton, reduceCtorEq, or_false] at failed
    exact failed.resolve_right fun report => (statusRun.reported _ report).elim
  obtain ⟨expected, nonempty, recent⟩ := statusRun.outcome.tolerated inChecks running
  have start := initial_spec constructed
  have unused : statusCalls s₀.trace = [] := by simp [start.trace, statusCalls]
  obtain ⟨-, timed⟩ := calls.run_invariant (P := Timed clock) (List.length_pos_iff.mp nonempty)
    (fun _ _ _ _ _ _ _ _ _ _ _ _ timed step => step.timed timed) start.sound
    ⟨by simp [unused], .inl start.lastSuccessfulStatus⟩ run
  obtain ⟨last, ordered, within⟩ := timed.within (clock.reads statusRun.reads).1 recent
  refine ⟨expected, ?_, call, statusRun.statusCalls, ?_, ?_⟩
  · simp only [threshold] at within
    omega
  · obtain ⟨before, opening, after, whole, opens, same, since⟩ := last
    rw [← same] at within
    exact ⟨before, opening, after, whole, opens, within, fun later member => (since later member).1⟩
  · intro before failing split failed c member
    have := last.since split (fun c inFailing opens => ?_) c member
    · omega
    · obtain ⟨someFailed, expected⟩ := failed c inFailing
      exact opens.2.elim someFailed fun stopped => stopped expected

/-- Every operation takes one tick, and from a point in time on every check fails. -/
def ticking (down : Nat) : Calls Nat where
  status _ _ w := (if down ≤ w then some "down" else none, w + 1)
  start _ _ w := (none, w + 1)
  stop _ _ w := (none, w + 1)
  now w := (w, w + 1)
  update _ w := w + 1
  exchange _ _ w := (none, w + 1)
  grow n := n

def ticking.clock (down : Nat) : Clock (ticking down).env where
  time w := w
  step moved := by
    cases moved with
    | observe observed =>
      cases observed with
      | status replied | now replied => cases replied; exact Nat.le_succ _
      | update => exact Nat.le_succ _
    | start replied | stop replied | exchange replied => cases replied; exact Nat.le_succ _
  now read := by
    cases read
    simp

def tolerantConfig : Config := { startConfig with pf9StatusThresholdSeconds := 60 }

theorem tolerated_within_threshold_ticking : ∃ s₀ s m,
    initial (ticking 18).env tolerantConfig certsAndKubeconfig (.object {}) 0 = .ok s₀ ∧
    Go.execute (reconcileStep (ticking 18).env certsAndKubeconfig) [tolerantConfig] s₀ = .ok s ∧
    status (ticking 18).env tolerantConfig certsAndKubeconfig s = .ok ((), m) ∧
    m.data.kubeRunning = true ∧ ∃ call, statusCalls m.trace = statusCalls s.trace ++ [call] ∧
      ∃ opening ∈ statusCalls s.trace, opening.Opens ∧ call.time - opening.time < 60000000000 := by
  obtain ⟨s₀, s, m, constructed, ran, checked, seen⟩ :=
    (ticking 18).status_observed certsAndKubeconfig tolerantConfig (.object {}) 0 [tolerantConfig]
    (fun s m => (decide (.status 0 (some "down") ∈ newEvents s m), m.data.kubeRunning)) (true, true)
    (by decide +kernel)
  have running : m.data.kubeRunning = true := congrArg Prod.snd seen
  obtain ⟨-, -, call, called, ⟨before, opening, after, split, opens, within, -⟩, -⟩ :=
    tolerated_within_threshold (ticking.clock 18) constructed ran checked
      (of_decide_eq_true (congrArg Prod.fst seen)) running
  exact ⟨s₀, s, m, constructed, ran, checked, running, call, called, opening, by simp [split],
    opens, within⟩

end Nodelet
