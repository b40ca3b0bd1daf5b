import Nodelet.ConfigOrder
import Nodelet.PanicFree

/-! The panics that are left: a configuration or a file outside the condition makes
creation or the first `Reconcile` panic on a host whose commands behave in some way,
so the condition is also necessary. -/
namespace Nodelet
open Constants Sunpike
open Go (Ends Returns)

/-- A host on which every script ends with this exit code, the phases in Go make these calls and
nothing else fails. -/
def quiet (exitCode : Int) (calls : NativePhase.Calls (List UInt8)) (start : StartFiles) :
    Outside Unit where
  runCommand _ w := (none, w)
  runCommandWithStdOut _ w := ((exitCode, []), w)
  expired _ := false
  formatFloat _ := ""
  calls _ _ _ w := (calls, w)
  now w := (0, w)
  connect w := (none, w)
  updateHostStatus _ w := (.error "unavailable", w)
  files _ := ⟨start.config, none⟩
  store _ w := w
  read _ := start.read
  rewriteKubeEnv _ w := (none, w)
  grow n := n
  hostname := ""
  version := ""

/-- The calls of a host where everything works. -/
abbrev working : NativePhase.Calls (List UInt8) := .succeeding _

/-- Here commands succeed, but print nothing. -/
def silent : NativePhase.Calls (List UInt8) := { working with runCommand := fun _ => .exited [] }

section Quiet
variable (exitCode : Int) (calls : NativePhase.Calls (List UInt8)) (start : StartFiles)

theorem quiet_serves (phase : NativePhase) : (quiet exitCode working start).Serves phase where
  calls _ _ _ := NativePhase.Calls.succeeding_safe _
  client _ := by
    rintro ⟨_, _, _, failed⟩
    exact failed rfl

end Quiet

section Halting
variable {W : Type} {env : Env W} {cfg : Config} {phases : List Phase} {s : State W}

theorem reconcile_halts (halts : serve env cfg phases s = .error halt) :
    reconcile env cfg phases s = .error halt :=
  Go.error_bind halts

/-- Without phases there is none to stop. -/
theorem stop_empty_panics (stopPhaseIndex : Int) (force : Bool) (s : State W) :
    stop env cfg [] stopPhaseIndex force s = .error (.panic .indexOutOfRange) := by
  have index : Go.index ([] : List Phase) stopPhaseIndex = .error (.panic .indexOutOfRange) := by
    simp [Go.index]
  unfold stop
  rw [index]
  rfl

theorem handleServiceStopState_empty_panics (enabled : cfg.disableScripts = false)
    (running : s.data.kubeRunning = true) :
    handleServiceStopState env cfg [] s = .error (.panic .indexOutOfRange) := by
  unfold handleServiceStopState
  rw [enabled]
  exact (congrFun (if_neg (not_not.mpr running)) _).trans (Go.error_bind (stop_empty_panics _ _ _))

theorem handleServiceStartState_empty_panics (enabled : cfg.disableScripts = false)
    (retries : cfg.fullRetryCount ≠ 0) (notRunning : ¬ s.data.control.alreadyRunning cfg) :
    handleServiceStartState env cfg [] s = .error (.panic .indexOutOfRange) := by
  have attempts (failedCheck : Int) (t : State W) :
      restartFrom env cfg [] failedCheck t = .error (.panic .indexOutOfRange) :=
    Go.error_bind (stop_empty_panics _ _ _)
  have restarts (failedCheck : Int) (t : State W) :
      restart env cfg [] failedCheck t = .error (.panic .indexOutOfRange) := by
    unfold restart
    simp only [Go.remainder_eq _ retries]
    exact attempts _ _
  unfold handleServiceStartState
  rw [enabled]
  exact (congrFun (if_neg notRunning) _).trans (Go.error_bind (restarts _ _))

theorem reconcile_empty_panics (complete : s.data.startFailStep = -1)
    (enabled : cfg.disableScripts = false) (retries : cfg.fullRetryCount ≠ 0)
    (asked : cfg.kubeServiceState = serviceStateFalse ∨ cfg.kubeServiceState = serviceStateTrue ∧
      ¬ s.data.control.serves cfg) : reconcile env cfg [] s = .error (.panic .indexOutOfRange) := by
  have nothing : env.Returning cfg ([] : List Phase).length := ⟨nofun, nofun, nofun⟩
  refine reconcile_halts ((status_spec cfg [] (fun _ => nothing) s).bind_error ?_)
  rintro _ m ⟨checks, reports, call, checked⟩
  obtain ⟨now, control⟩ := checked.outcome.of_empty complete
  rcases asked with stopping | ⟨starting, other⟩
  · have running : m.data.kubeRunning = true := congrArg Control.kubeRunning control
    rw [stopping]
    exact handleServiceStopState_empty_panics enabled running
  · rw [if_pos starting]
    refine handleServiceStartState_empty_panics enabled retries ?_
    rw [control]
    exact fun running => other running.2

end Halting

section Necessary
variable {codec : Codec} {cfg : Config} {files : StartFiles} {exitCode : Int}
  {calls : NativePhase.Calls (List UInt8)}

/-- Without phases, surviving the first `Reconcile` means having had nothing to do. -/
theorem Created.idle {W : Type} {outside : Outside W} {n : Nodeletd outside}
    {env : Env (Machine outside)}
    (created : Created outside codec cfg files [] n) (enabled : cfg.disableScripts = false)
    (retries : cfg.fullRetryCount ≠ 0)
    (survives : reconcile env cfg [] n.state ≠ .error (.panic .indexOutOfRange)) :
    cfg.Idle files.extension := by
  have complete := created.initial.startFailStep
  by_cases stopping : cfg.kubeServiceState = serviceStateFalse
  · exact absurd (reconcile_empty_panics complete enabled retries (.inl stopping)) survives
  · by_cases starting : cfg.kubeServiceState = serviceStateTrue
    · obtain ⟨d, load, clusterID, clusterRole⟩ := created.recorded
      refine .inr ⟨starting, d, load, ?_⟩
      by_contra other
      refine survives (reconcile_empty_panics complete enabled retries (.inr ⟨starting, ?_⟩))
      simpa only [Control.serves, ExtensionData.control, clusterID, clusterRole] using other
    · exact .inl ⟨starting, stopping⟩

/-- The phases with which the lists of a worker and of a master begin. -/
def leading : List PhaseInterface :=
  [newGenCertsPhase phaseBaseDir, newPrepareKubeconfigsPhase phaseBaseDir, newContainerdConfigPhase,
    newContainerdRunPhase]

end Necessary

end Nodelet
