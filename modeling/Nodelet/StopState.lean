import Nodelet.Reconcile.Runs

/-! Bringing the service down, over phases that are up or down. A phase's status
is its flag, its start and stop change the flag when they succeed, and the
surroundings may clear any flag before any operation. -/
namespace Nodelet
open Constants

/-- The flags of the phases and the number of operations so far. -/
structure Stack where
  up : Nat → Bool
  calls : Nat

/-- What the surroundings do at each operation: the flags they clear before it,
whether a start or stop fails, and the reading of the clock. -/
structure Script where
  clears : Nat → Nat → Bool
  fails : Nat → Bool
  clock : Nat → Nat

namespace Script
variable (script : Script)

def elapse (w : Stack) : Stack where
  up i := w.up i && !script.clears w.calls i
  calls := w.calls + 1

/-- A start or stop of phase `i`, which sets its flag unless it fails. -/
def turn (flag : Bool) (i : Nat) (w : Stack) : Option Go.Error × Stack :=
  if script.fails w.calls then (some "failed", script.elapse w)
  else (none, { script.elapse w with up := fun j => if j = i then flag else (script.elapse w).up j })

def calls : Calls Stack where
  status _ i w := (if (script.elapse w).up i then none else some "down", script.elapse w)
  start _ := script.turn true
  stop _ := script.turn false
  now w := (script.clock w.calls, script.elapse w)
  update _ := script.elapse
  exchange _ _ w := (none, script.elapse w)
  grow n := n

theorem observe_elapse {w w' : Stack} (observed : script.calls.env.Observe w w') :
    w' = script.elapse w := by
  cases observed with
  | status replied => cases replied; rfl
  | now read => cases read; rfl
  | update => rfl

theorem observed_down {w w' : Stack}
    (observed : Relation.ReflTransGen script.calls.env.Observe w w')
    (down : w.up i = false) : w'.up i = false := by
  induction observed with
  | refl => exact down
  | tail _ last ih => simp only [script.observe_elapse last, elapse, ih, Bool.false_and]

/-- The stack is down, or it is up as a whole and stays up while `count` checks are made. -/
def Whole (count : Nat) (w : Stack) : Prop :=
  (∀ i < count, w.up i = false) ∨
    (∀ i < count, w.up i = true) ∧ ∀ k ≤ count, ∀ i < count, script.clears (w.calls + k) i = false

end Script

/-- The configurations of a run that brings the service down. -/
def Stopping (cfg : Config) : Prop :=
  cfg.kubeServiceState = serviceStateFalse ∧ cfg.disableScripts = false

/-- Without a start the service is neither expected to run nor incompletely started. -/
def Unstarted (s : State W) : Prop :=
  s.data.startFailStep = -1 ∧ s.data.serviceState = serviceStateFalse

theorem StatusRun.unstarted (run : StatusRun env cfg count s m checks reports call)
    (before : Unstarted s) : Unstarted m := by
  obtain ⟨_, _, _, control⟩ := run.outcome.frame
  exact ⟨(congrArg Control.startFailStep control).trans before.1,
    (congrArg Control.serviceState control).trans before.2⟩

theorem HandlerRun.unstarted (run : HandlerRun env cfg phases m h events)
    (stopping : Stopping cfg) (before : Unstarted m) : Unstarted h := by
  have notStarting : cfg.kubeServiceState ≠ serviceStateTrue := by rw [stopping.1]; decide
  cases run with
  | idle => exact before
  | confirmed expected => exact absurd expected notStarting
  | restarted expected => exact absurd expected notStarting
  | stopped _ _ run =>
    refine ⟨rfl, ?_⟩
    exact (congrArg Control.serviceState (run.outcome.of_stopping rfl)).trans
      (Control.stopped_serviceState 0 _)

theorem ReconcileRun.unstarted
    (run : ReconcileRun env cfg phases s m h t checks reports call events final)
    (stopping : Stopping cfg) (before : Unstarted s) : Unstarted t := by
  have handled := run.handler.unstarted stopping (run.status.unstarted before)
  exact ⟨(congrArg Control.startFailStep run.concluded.control).trans handled.1,
    (congrArg Control.serviceState run.concluded.control).trans handled.2⟩

namespace Script
variable (script : Script) {phases : List Phase} {cfg : Config}

theorem whole_running (step : s.data.startFailStep = -1)
    (up : ∀ i < phases.length, s.world.up i = true)
    (calm : ∀ k ≤ phases.length, ∀ i < phases.length, script.clears (s.world.calls + k) i = false) :
    Go.Returns (status script.calls.env cfg phases) s fun _ m => m.data.kubeRunning = true := by
  refine status_passes cfg phases (P := fun k w => w.calls = s.world.calls + k + 1 ∧
    ∀ i < phases.length, w.up i = true) s step ?_ ?_
  · rintro k w below ⟨count, still⟩
    have elapsed : ∀ i < phases.length, (script.elapse w).up i = true := by
      intro i inside
      simp only [elapse, still i inside, count, Nat.add_assoc, calm (k + 1) below i inside,
        Bool.not_false, Bool.and_self]
    refine ⟨script.elapse w, ?_, by simp only [elapse, count]; omega, elapsed⟩
    simp only [calls, Calls.env, elapsed k below, if_true]
  · refine ⟨rfl, fun i inside => ?_⟩
    have first := calm 0 (Nat.zero_le _) i inside
    simp only [Nat.add_zero] at first
    simp only [calls, Calls.env, elapse, up i inside, first, Bool.not_false, Bool.and_self]

/-- A stack that is down, or up as a whole, is never taken for a stopped one while a phase is up. -/
theorem alreadyStopped_down (nonempty : phases ≠ []) (file : ExtensionFile) (w : Stack)
    (constructed : initial script.calls.env cfg₀ phases file w = .ok s₀)
    (stopping : ∀ cfg ∈ cfgs, Stopping cfg)
    (run : Go.execute (reconcileStep script.calls.env phases) cfgs s₀ = .ok s)
    (whole : script.Whole phases.length s.world)
    (checked : status script.calls.env cfg phases s = .ok ((), m))
    (alreadyStopped : m.data.kubeRunning = false) : ∀ i < phases.length, m.world.up i = false := by
  have start := initial_spec constructed
  obtain ⟨-, unstarted⟩ := script.calls.run_invariant (P := Unstarted) nonempty
    (fun cfg member s m h t _ _ _ _ _ _ before step => step.unstarted (stopping cfg member) before)
    start.sound ⟨start.startFailStep, start.serviceState⟩ run
  intro i inside
  rcases whole with down | ⟨up, calm⟩
  · obtain ⟨_, _, _, statusRun⟩ :=
      (status_spec cfg phases (fun _ => script.calls.returning _ _) s).elim checked
    exact script.observed_down statusRun.advances.world (down i inside)
  · have running := (script.whole_running unstarted.1 up calm).elim checked
    rw [alreadyStopped] at running
    contradiction

/-- Nothing is cleared, and the operations with these numbers fail. -/
def calm (failing : List Nat) : Script where
  clears _ _ := false
  fails n := n ∈ failing
  clock n := n

theorem alreadyStopped_down_after_stop : ∃ s₀ s m,
    initial (calm []).calls.env stopConfig certsAndKubeconfig (.object {}) ⟨fun _ => true, 0⟩ =
      .ok s₀ ∧
    Go.execute (reconcileStep (calm []).calls.env certsAndKubeconfig) [stopConfig] s₀ = .ok s ∧
    status (calm []).calls.env stopConfig certsAndKubeconfig s = .ok ((), m) ∧
    m.data.kubeRunning = false ∧ ∀ i < 2, m.world.up i = false := by
  obtain ⟨s₀, s, m, constructed, ran, checked, seen⟩ :=
    (calm []).calls.status_observed certsAndKubeconfig
    stopConfig (.object {}) ⟨fun _ => true, 0⟩ [stopConfig]
    (fun s m => (m.data.kubeRunning, s.world.up 0, s.world.up 1)) (false, false, false)
      (by decide +kernel)
  obtain ⟨stopped, first, second⟩ : m.data.kubeRunning = false ∧ s.world.up 0 = false ∧
    s.world.up 1 = false := by simpa using seen
  have down : ∀ i < certsAndKubeconfig.length, s.world.up i = false
    | 0, _ => first
    | 1, _ => second
  exact ⟨s₀, s, m, constructed, ran, checked, stopped,
    (calm []).alreadyStopped_down (by decide) (.object {}) _ constructed
      (by simpa using ⟨rfl, rfl⟩) ran (.inl down) checked stopped⟩

/-- Both phases are up and the stop of the first fails once. The next status chain
passes the first phase and fails at the second, so the first stays up for good. -/
theorem alreadyStopped_while_up : ∃ s₀ s m,
    initial (calm [6]).calls.env stopConfig certsAndKubeconfig (.object {}) ⟨fun _ => true, 0⟩ =
      .ok s₀ ∧
    Go.execute (reconcileStep (calm [6]).calls.env certsAndKubeconfig) [stopConfig] s₀ = .ok s ∧
    status (calm [6]).calls.env stopConfig certsAndKubeconfig s = .ok ((), m) ∧
    m.data.kubeRunning = false ∧ m.world.up 0 = true := by
  obtain ⟨s₀, s, m, constructed, ran, checked, seen⟩ :=
    (calm [6]).calls.status_observed certsAndKubeconfig
    stopConfig (.object {}) ⟨fun _ => true, 0⟩ [stopConfig]
    (fun _ m => (m.data.kubeRunning, m.world.up 0)) (false, true) (by decide +kernel)
  exact ⟨s₀, s, m, constructed, ran, checked, congrArg Prod.fst seen, congrArg Prod.snd seen⟩

end Script
end Nodelet
