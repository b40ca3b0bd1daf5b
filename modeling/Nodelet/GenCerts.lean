import Nodelet.Reconcile.Runs

/-! When a restart stops the phase that holds the certificates. `Status` folds a
failing check of a service that is not expected to run into the index of the
first phase, and the stop chain then takes that phase for the failed one. -/
namespace Nodelet
open Constants

/-- The first phase is stopped in this `Reconcile`. -/
def CertsStopped (s t : State W) : Prop := ∃ err, .stop 0 err ∈ newEvents s t

/-- The first phase's own check failed in this `Reconcile`, or its start before it. -/
def CertsFailed (s t : State W) : Prop :=
  (∃ err, .status 0 (some err) ∈ newEvents s t) ∨ s.data.startFailStep = 0

/-- The service was expected to run or incompletely started, no other check failed,
or the chain did not come down to the first phase. -/
def CertsSpared (phases : List Phase) (s t : State W) : Prop :=
  s.data.serviceState = serviceStateTrue ∨ s.data.startFailStep ≠ -1 ∨
    (∀ i err, .status i (some err) ∈ newEvents s t → i = 0) ∨
    (∃ i err, 0 < i ∧ .stop i (some err) ∈ newEvents s t) ∨ ¬ CertsOnlyFirst phases

section Restart
variable {W : Type} {env : Env W} {cfg : Config} {phases : List Phase} {s m h t : State W}
  {checks reports events final : List Event} {call : StatusCall}

theorem HandlerRun.starting (run : HandlerRun env cfg phases m h events)
    (expected : cfg.kubeServiceState = serviceStateTrue) :
    (cfg.disableScripts = true ∨ m.data.control.alreadyRunning cfg) ∧
    (∀ i err, .stop i err ∉ events) ∨ ¬ m.data.control.alreadyRunning cfg ∧
      ∃ (k : Nat) (u : State W) (middle : Control) (result : Nat × Option Go.Error)
        (stops reports starts : List Event), (k : Int) = m.data.control.attempt.restartIndex cfg ∧
        RestartRun env cfg phases k m.attempt u middle result stops reports starts ∧
        ∀ i err, .stop i err ∈ events ↔ .stop i err ∈ stops := by
  have notStopping : cfg.kubeServiceState ≠ serviceStateFalse := by
    rw [expected]
    decide
  cases run with
  | idle why =>
    rcases why with disabled | ⟨stopping, _⟩ | ⟨notExpected, _⟩
    · exact .inl ⟨.inl disabled, fun _ _ => List.not_mem_nil⟩
    · exact absurd stopping notStopping
    · exact absurd expected notExpected
  | confirmed _ running _ _ reported =>
    exact .inl ⟨.inr running, fun _ _ member => reported _ member⟩
  | restarted _ notRunning index run persisted =>
    refine .inr ⟨notRunning, _, _, _, _, _, _, _, index, run, fun i err =>
      ⟨fun member => ?_, fun member => by simp [member]⟩⟩
    rcases List.mem_append.mp member with chains | final
    · rcases List.mem_append.mp chains with early | inStarts
      · rcases List.mem_append.mp early with inStops | inReports
        · exact inStops
        · obtain ⟨_, _, report⟩ := run.reported _ inReports
          exact report.elim
      · cases run.shown _ inStarts with
        | reported m report => exact report.elim
    · exact (persisted.reported _ final).elim
  | stopped stopping => exact absurd stopping notStopping

/-- A service that is neither running nor running elsewhere has a failed check behind it. -/
theorem StatusOutcome.failed_check (outcome : StatusOutcome cfg count c checks call c')
    (step : c.startFailStep = -1) (notRunning : c'.kubeRunning = false) :
    ∃ i now, Checks cfg 0 count (some i) checks ∧ c' = c.beginStatus.settle cfg now (some i) := by
  cases outcome with
  | incomplete incomplete => exact absurd step incomplete
  | @complete failed _ _ checked now =>
    cases failed with
    | none => cases notRunning
    | some i => exact ⟨i, now, checked, rfl⟩

/-- A failing check of a service that is not expected to run counts as the first phase's. -/
theorem StatusOutcome.unexpected_failure (outcome : StatusOutcome cfg count c checks call c')
    (step : c.startFailStep = -1) (stopped : c.serviceState ≠ serviceStateTrue)
    (failed : .status i (some err) ∈ checks) :
    cfg.disableScripts = false ∧ c'.kubeRunning = false ∧ c'.failedStatusCheck = 0 ∧
      ∀ j err', .status j (some err') ∈ checks → j = i := by
  cases outcome with
  | incomplete incomplete => exact absurd step incomplete
  | complete _ checked now =>
    obtain ⟨rfl, scripts⟩ := checked.result_of_failed failed
    rw [Control.settle_unexpected c.beginStatus stopped]
    refine ⟨scripts, rfl, rfl, fun j err' other => ?_⟩
    exact Option.some.inj (checked.result_of_failed other).1.symm

theorem StopChain.first_failed (chain : StopChain phases k force c n stops result)
    (certs : ∃ phase, phases[0]? = some phase ∧ phase.order = genCertsPhaseOrder)
    (restart : c.operation = .start) (member : .stop 0 err ∈ stops) : c.failedStatusCheck = 0 := by
  obtain ⟨phase, found, order⟩ := certs
  obtain ⟨_, _, _, same, _, found', taken⟩ := chain.call _ member
  cases same
  cases found.symm.trans found'
  by_contra other
  exact taken ⟨restart, order, other⟩

theorem ReconcileRun.certsFailed
    (run : ReconcileRun env cfg phases s m h t checks reports call events final)
    (certs : ∃ phase, phases[0]? = some phase ∧ phase.order = genCertsPhaseOrder)
    (expected : cfg.kubeServiceState = serviceStateTrue)
    (sameCluster : s.data.clusterID = cfg.clusterID)
    (sameRole : s.data.clusterRole = cfg.clusterRole)
    (spared : CertsSpared phases s t) (stopped : CertsStopped s t) : CertsFailed s t := by
  obtain ⟨err, member⟩ := stopped
  rcases run.handler.starting expected with ⟨_, none⟩ |
    ⟨notRunning, k, _, _, _, stops, _, _, _, restart, inStops⟩
  · exact absurd (run.stop_handled member) (none 0 err)
  have called := (inStops 0 err).mp (run.stop_handled member)
  obtain ⟨_, chain⟩ := restart.chain
  have first : m.data.failedStatusCheck = 0 := chain.first_failed certs rfl called
  by_cases step : s.data.startFailStep = -1
  · obtain ⟨_, _, _, frame⟩ := run.status.outcome.frame
    have down : m.data.kubeRunning = false := by
      by_contra running
      refine notRunning ⟨Bool.of_not_eq_false running, .inl ⟨?_, ?_⟩⟩
      · exact (congrArg Control.clusterID frame).trans sameCluster
      · exact (congrArg Control.clusterRole frame).trans sameRole
    obtain ⟨i, now, checked, control⟩ := run.status.outcome.failed_check step down
    obtain ⟨failure, failed⟩ := checked.failed_mem
    have shown : .status i (some failure) ∈ newEvents s t := by
      rw [run.advances.newEvents]
      simp [failed]
    suffices own : i = 0 from .inl ⟨failure, own ▸ shown⟩
    rcases spared with running | incomplete | own | ⟨j, err', positive, failedStop⟩ | twice
    · by_cases recent : Go.Time.sub now s.data.control.beginStatus.lastSuccessfulStatus <
          getStatusFailureToleration cfg
      · rw [Control.settle_tolerated _ running recent] at control
        have up : m.data.kubeRunning = true := congrArg Control.kubeRunning control
        rw [down] at up
        contradiction
      · rw [Control.settle_failed _ running recent] at control
        have same : m.data.failedStatusCheck = i := congrArg Control.failedStatusCheck control
        omega
    · exact absurd step incomplete
    · exact own i failure shown
    · have last := chain.failure_last ((inStops j _).mp (run.stop_handled failedStop)) called
      omega
    · refine absurd (fun j phase found order => ?_) twice
      by_contra later
      have inside := (List.getElem?_eq_some_iff.mp found).1
      refine chain.taken_above called (Nat.pos_of_ne_zero later) inside found ⟨rfl, order, ?_⟩
      change m.data.failedStatusCheck ≠ j
      omega
  · obtain ⟨-, control⟩ := run.status.outcome.of_incomplete step
    have same : m.data.failedStatusCheck = s.data.startFailStep :=
      congrArg Control.failedStatusCheck control
    exact .inr (same.symm.trans first)

/-- A later phase's check of a service that is not expected to run stops the first phase. -/
theorem ReconcileRun.certsStopped
    (run : ReconcileRun env cfg phases s m h t checks reports call events final)
    (certs : ∃ phase, phases[0]? = some phase ∧ phase.order = genCertsPhaseOrder)
    (expected : cfg.kubeServiceState = serviceStateTrue)
    (exposed : ¬ CertsSpared phases s t) : CertsStopped s t ∧ ¬ CertsFailed s t := by
  simp only [CertsSpared, not_or, not_not, not_forall, not_exists, not_and] at exposed
  obtain ⟨stopped, step, ⟨i, failure, shown, later⟩, noFailedStop, only⟩ := exposed
  obtain ⟨scripts, down, first, unique⟩ :=
    run.status.outcome.unexpected_failure step stopped (run.status_checked shown)
  constructor
  · rcases run.handler.starting expected with ⟨disabled | running, _⟩ |
      ⟨_, k, _, _, _, stops, _, _, index, restart, inStops⟩
    · rw [scripts] at disabled
      contradiction
    · have up : m.data.control.kubeRunning = true := running.1
      rw [down] at up
      contradiction
    have bottom : k = 0 := by
      have chosen : m.data.control.attempt.restartIndex cfg = 0 := by
        simp [Control.restartIndex, Control.attempt, first]
      omega
    subst bottom
    have shownStop : ∀ j err, .stop j err ∈ stops → .stop j err ∈ newEvents s t := by
      intro j err called
      rw [run.advances.newEvents]
      simp [(inStops j err).mpr called]
    cases restart.outcome with
    | skipped _ found keeps =>
      obtain ⟨_, order, other⟩ := keeps
      rw [only _ _ found order] at other
      exact absurd first other
    | finished ended =>
      rcases ended with ⟨j, err, failed⟩ | through
      · rcases Nat.eq_zero_or_pos j with rfl | positive
        · exact ⟨_, shownStop 0 _ failed⟩
        · exact absurd (shownStop j _ failed) (noFailedStop j err positive)
      · obtain ⟨phase, found, _⟩ := certs
        have inside := (List.getElem?_eq_some_iff.mp found).1
        exact ⟨none, shownStop 0 none (through 0 phase (Nat.le_refl _) inside found).2⟩
  · rintro (⟨err, own⟩ | failedStart)
    · exact later (unique 0 err (run.status_checked own)).symm
    · omega

end Restart

/-- In every run, at every `Reconcile` of a node that keeps its cluster and role: the
certificates are stopped only for a failure of their own, exactly when no later
phase's check failed before the service was started, or the stop chain broke off. -/
theorem certsStopped_only_failed_iff {calls : Calls W} {phases : List Phase} {s t : State W}
    (certs : ∃ phase, phases[0]? = some phase ∧ phase.order = genCertsPhaseOrder)
    (constructed : initial calls.env cfg₀ phases file w = .ok s₀)
    (run : Go.execute (reconcileStep calls.env phases) cfgs s₀ = .ok s)
    (expected : cfg.kubeServiceState = serviceStateTrue)
    (sameCluster : s.data.clusterID = cfg.clusterID)
    (sameRole : s.data.clusterRole = cfg.clusterRole)
    (stepped : reconcileStep calls.env phases cfg s = .ok t) :
    (CertsStopped s t → CertsFailed s t) ↔ CertsSpared phases s t := by
  have nonempty : phases ≠ [] := by
    rintro rfl
    obtain ⟨_, found, _⟩ := certs
    cases found
  have sound := calls.run_sound nonempty (initial_spec constructed).sound run
  obtain ⟨m, h, _, _, _, _, _, step⟩ := calls.step_run sound nonempty stepped
  constructor
  · intro onlyFailed
    by_contra exposed
    obtain ⟨stopped, notFailed⟩ := step.certsStopped certs expected exposed
    exact notFailed (onlyFailed stopped)
  · exact step.certsFailed certs expected sameCluster sameRole

/-- The extension file of a node that was started for its cluster before. -/
def rejoined : ExtensionFile :=
    .object { clusterID := some "cluster", clusterRole := some roleWorker }

def rejoinConfig : Config := { startConfig with clusterID := "cluster", clusterRole := roleWorker }

def Event.checksOrStops : Event → Bool
  | .status _ _ | .stop _ _ => true
  | _ => false

theorem rejoin_step {β : Type} (calls : Calls Unit) (observe : State Unit → State Unit → β)
    (seen : β) (evaluated : (do
      let s ← initial calls.env rejoinConfig certsAndKubeconfig rejoined ()
      let t ← reconcileStep calls.env certsAndKubeconfig rejoinConfig s
      return observe s t).toOption = some seen) :
    ∃ s t, initial calls.env rejoinConfig certsAndKubeconfig rejoined () = .ok s ∧
      reconcileStep calls.env certsAndKubeconfig rejoinConfig s = .ok t ∧ observe s t = seen := by
  obtain ⟨s, constructed, rest⟩ := Go.bind_ok (Go.ok_of_toOption evaluated)
  obtain ⟨t, stepped, observed⟩ := Go.bind_ok rest
  exact ⟨s, t, constructed, stepped, Except.ok.inj observed⟩

theorem certsStopped_only_failed_iff_rejoin : ∃ s t,
    initial secondDown.env rejoinConfig certsAndKubeconfig rejoined () = .ok s ∧
    reconcileStep secondDown.env certsAndKubeconfig rejoinConfig s = .ok t ∧
    ((CertsStopped s t → CertsFailed s t) ↔ CertsSpared certsAndKubeconfig s t) := by
  obtain ⟨s, t, constructed, stepped, seen⟩ := rejoin_step secondDown
    (fun s _ => (s.data.clusterID, s.data.clusterRole)) ("cluster", roleWorker) (by decide +kernel)
  have none : Go.execute (reconcileStep secondDown.env certsAndKubeconfig) [] s = .ok s := rfl
  exact ⟨s, t, constructed, stepped, certsStopped_only_failed_iff ⟨_, rfl, rfl⟩ constructed
    none rfl (congrArg Prod.fst seen) (congrArg Prod.snd seen) stepped⟩

/-- The process restarts on a node whose second phase is down: the certificates are torn down. -/
theorem certsStopped_by_second_phase : ∃ s t,
    initial secondDown.env rejoinConfig certsAndKubeconfig rejoined () = .ok s ∧
    s.data.clusterID = rejoinConfig.clusterID ∧ s.data.clusterRole = rejoinConfig.clusterRole ∧
    reconcileStep secondDown.env certsAndKubeconfig rejoinConfig s = .ok t ∧
    CertsStopped s t ∧ ¬ CertsFailed s t := by
  obtain ⟨s, t, constructed, stepped, seen⟩ := rejoin_step secondDown
    (fun s t => (s.data.clusterID, s.data.clusterRole, s.data.startFailStep,
      (newEvents s t).filter Event.checksOrStops))
    ("cluster", roleWorker, -1,
      [.status 0 none, .status 1 (some "down"), .stop 1 none, .stop 0 none])
    (by decide +kernel)
  simp only [Prod.mk.injEq] at seen
  obtain ⟨cluster, role, step, phaseEvents⟩ := seen
  have shown : ∀ e, e.checksOrStops → (e ∈ newEvents s t ↔
      e ∈ [.status 0 none, .status 1 (some "down"), .stop 1 none, .stop 0 none]) := by
    intro e kind
    rw [← phaseEvents, List.mem_filter, and_iff_left kind]
  refine ⟨s, t, constructed, cluster, role, stepped, ⟨none, (shown _ rfl).mpr (by simp)⟩, ?_⟩
  rintro (⟨err, own⟩ | failedStart)
  · simpa using (shown _ rfl).mp own
  · omega

end Nodelet
