import Nodelet.Reconcile.PhaseCalls
import Nodelet.Go.Transition
import Nodelet.StopState

/-! The order in which phases are brought up and down, where the status checks tell the truth and no
phase dies or comes up by itself: a phase is started on top of the lower ones, and stopped after the
higher ones. A start chain that failed is taken up where it failed, without a check of the phases
below, so the index of a failed start has to keep them up. -/
namespace Nodelet
open Constants
open Transition (Along along_append along_still foldl_still)

/-- The flags of the phases after an event: a start or stop that succeeds sets the flag of its
phase. -/
def Event.turn (up : Nat → Bool) : Event → Nat → Bool
  | .start i none => Function.update up i true
  | .stop i none => Function.update up i false
  | _ => up

/-- A check passes exactly where the flag of its phase is set. -/
def Event.Truthful (up : Nat → Bool) : Event → Prop
  | .status i err => err = none ↔ up i = true
  | _ => True

/-- The phases below one that is started are up, and those above one that is stopped are down. -/
def Event.InOrder (count : Nat) (up : Nat → Bool) : Event → Prop
  | .start i _ => ∀ j < i, up j = true
  | .stop i _ => ∀ j < count, i < j → up j = false
  | _ => True

/-- The checks tell the truth, where a phase goes up and down only by its own start and stop. -/
abbrev Truthful (up : Nat → Bool) (events : List Event) : Prop :=
    Along Event.turn Event.Truthful up events

abbrev InOrder (count : Nat) (up : Nat → Bool) (events : List Event) : Prop :=
  Along Event.turn (Event.InOrder count) up events

instance (up : Nat → Bool) : ∀ e, Decidable (Event.Truthful up e)
  | .status _ _ => inferInstanceAs (Decidable (_ ↔ _))
  | .start _ _ | .stop _ _ | .persist _ | .write _ | .update _ | .exchange _ | .statusCall _ =>
    inferInstanceAs (Decidable True)

/-- The phases below this index are up. -/
def Supported (step : Int) (up : Nat → Bool) : Prop :=
  ∀ j : Nat, (j : Int) < step → up j = true

section Chains
variable {up : Nat → Bool} {count : Nat} {phases : List Phase} {cfg : Config}

theorem turn_checks (checked : Checks cfg i count outcome checks) :
    ∀ e ∈ checks, e.turn up = up := by
  intro e member
  obtain ⟨_, _, rfl⟩ := checked.is_status member
  rfl

theorem truthful_passing (truthful : ∀ e ∈ passingChecks 0 k, e.Truthful up) (below : j < k) :
    up j = true := by
  have member : .status j none ∈ passingChecks 0 k :=
    List.mem_map.mpr ⟨j, List.mem_range'.mpr ⟨j, below, by omega⟩, rfl⟩
  exact (truthful _ member).mp rfl

theorem Checks.truthful (checked : Checks cfg 0 count (some i) checks)
    (truthful : ∀ e ∈ checks, e.Truthful up) : ∀ j < i, up j = true := by
  intro j below
  generalize found : some i = outcome at checked
  cases checked with
  | disabled | passed => contradiction
  | @failed k scripts inside err =>
    obtain rfl : i = 0 + k := Option.some.inj found
    refine truthful_passing (k := k) (fun e member => ?_) (by omega)
    exact truthful e (List.mem_append_left _ member)

theorem Checks.truthful_all (checked : Checks cfg 0 count none checks)
    (scripts : cfg.disableScripts = false)
    (truthful : ∀ e ∈ checks, e.Truthful up) : ∀ j < count, up j = true := by
  intro j below
  cases checked with
  | disabled disabled => rw [scripts] at disabled; contradiction
  | passed => exact truthful_passing truthful below

/-- Stopping goes downwards: what is above has been stopped before, and what is below `k` is left
alone. -/
theorem StopChain.inOrder (chain : StopChain phases k false c m stops result) (count : Nat)
    (above : ∀ j < count, m ≤ j → up j = false) :
    InOrder count up stops ∧ ∀ j < k, stops.foldl Event.turn up j = up j := by
  induction chain generalizing up with
  | ended | kept => exact ⟨trivial, fun _ _ => rfl⟩
  | @stopped i _ err _ _ least _ _ goesOn _ ih =>
    obtain rfl : err = none := by simpa using goesOn
    have down : ∀ j < count, i ≤ j → Function.update up i false j = false := by
      intro j inside reached
      rcases Nat.eq_or_lt_of_le reached with rfl | higher
      · exact Function.update_self ..
      · rw [Function.update_of_ne (by omega)]
        exact above j inside higher
    obtain ⟨rest, kept⟩ := ih down
    refine ⟨⟨fun j inside higher => above j inside higher, rest⟩, fun j below => ?_⟩
    rw [List.foldl_cons]
    refine (kept j below).trans (Function.update_of_ne (by omega) ..)
  | failed => exact ⟨⟨fun j inside higher => above j inside higher, trivial⟩, fun _ _ => rfl⟩

/-- Starting goes upwards: each phase is started on top of those that are up already. -/
theorem Climb.inOrder (climb : Climb count i starts result) (below : ∀ j < i, up j = true) :
    InOrder count up starts ∧ ∀ j < result.1, starts.foldl Event.turn up j = true := by
  induction climb generalizing up with
  | top => exact ⟨trivial, below⟩
  | @next i _ _ inside _ ih =>
    have started : ∀ j < i + 1, Function.update up i true j = true := by
      intro j under
      rcases Nat.lt_succ_iff_lt_or_eq.mp under with lower | rfl
      · rw [Function.update_of_ne (by omega)]
        exact below j lower
      · exact Function.update_self ..
    obtain ⟨rest, after⟩ := ih started
    exact ⟨⟨below, rest⟩, after⟩
  | failed inside err => exact ⟨⟨below, trivial⟩, below⟩

end Chains

section Steps
variable {W : Type} {up : Nat → Bool} {phases : List Phase} {cfg : Config} {s m t : State W}

theorem StatusOutcome.still (outcome : StatusOutcome cfg count c checks call c') :
    checks.foldl Event.turn up = up := by
  cases outcome with
  | incomplete => rfl
  | complete _ checked => exact foldl_still (turn_checks checked)

theorem StatusOutcome.supported (outcome : StatusOutcome cfg count c checks call c')
    (truthful : Truthful up checks) (supported : Supported c.startFailStep up) :
    Supported c'.failedStatusCheck up ∧ Supported c'.startFailStep up := by
  obtain ⟨_, _, _, frame⟩ := outcome.frame
  have same : c'.startFailStep = c.startFailStep := by rw [frame]
  refine ⟨?_, same ▸ supported⟩
  cases outcome with
  | incomplete step now => exact supported
  | @complete failed _ step checked now =>
    have told := (along_still (turn_checks checked)).mp truthful
    have zero : Supported 0 up := fun j below => by omega
    cases failed with
    | none => exact zero
    | some i =>
      simp only [Control.settle]
      split_ifs
      · exact zero
      · exact fun j below => checked.truthful told j (by simpa using below)
      · exact zero

theorem StatusOutcome.inOrder (outcome : StatusOutcome cfg count c checks call c') :
    InOrder n up checks := by
  cases outcome with
  | incomplete => trivial
  | complete _ checked =>
    refine (along_still (turn_checks checked)).mpr fun e member => ?_
    obtain ⟨_, _, rfl⟩ := checked.is_status member
    trivial

theorem Control.restartIndex_supported {c : Control} (supported : Supported c.failedStatusCheck up)
    {k : Nat} (index : (k : Int) = c.attempt.restartIndex cfg) : ∀ j < k, up j = true := by
  intro j below
  unfold Control.restartIndex at index
  split_ifs at index
  · omega
  · exact supported j (by rw [show c.failedStatusCheck = k from index.symm]; omega)

/-- A restart stops and starts in order, and keeps what is below the phase that failed to start. -/
theorem Restarted.inOrder (run : Restarted cfg phases k s t stops starts result)
    (below : ∀ j < k, up j = true) : InOrder phases.length up (stops ++ starts) ∧
      ∀ j < result.1, (stops ++ starts).foldl Event.turn up j = true := by
  obtain ⟨ended, chain⟩ := run.chain
  have nothing : ∀ j < phases.length, phases.length ≤ j → up j = false :=
    fun j inside reached => by omega
  obtain ⟨stopping, kept⟩ := chain.inOrder phases.length nothing
  have still : ∀ j < k, stops.foldl Event.turn up j = true := fun j under =>
    (kept j under).trans (below j under)
  obtain ⟨starting, after⟩ := run.climb.inOrder still
  rw [List.foldl_append]
  exact ⟨along_append.mpr ⟨stopping, starting⟩, after⟩

theorem HandlerCalls.inOrder (run : HandlerCalls cfg phases m t handled)
    (checked : Supported m.data.failedStatusCheck up) (failed : Supported m.data.startFailStep up) :
    InOrder phases.length up handled ∧
      Supported t.data.startFailStep (handled.foldl Event.turn up) := by
  have nothing : ∀ flags, Supported (-1) flags := fun flags j below => by omega
  cases run with
  | idle why step => exact ⟨trivial, step ▸ failed⟩
  | confirmed running control =>
    have step : t.data.startFailStep = -1 := congrArg Control.startFailStep control
    exact ⟨trivial, step ▸ nothing _⟩
  | @restarted _ _ _ result k notRunning index run control =>
    obtain ⟨ordered, after⟩ := run.inOrder (Control.restartIndex_supported checked index)
    refine ⟨ordered, ?_⟩
    obtain ⟨middle, started⟩ := run.control
    have step : t.data.startFailStep = ((middle.assign cfg).started result).startFailStep :=
      congrArg Control.startFailStep (control.trans started)
    rw [step, Control.started]
    split
    · exact fun j below => after j (by simpa using below)
    · exact nothing _
  | stopped stopping chain step =>
    obtain ⟨c, ended, chain⟩ := chain
    have none : ∀ j < phases.length, phases.length ≤ j → up j = false :=
      fun j inside reached => by omega
    refine ⟨(chain.inOrder phases.length none).1, ?_⟩
    rw [step]
    exact nothing _

theorem ReconcileCalls.inOrder (run : ReconcileCalls cfg phases s m t checks call handled)
    (truthful : Truthful up (checks ++ handled))
    (supported : Supported s.data.startFailStep up) :
    InOrder phases.length up (checks ++ handled) ∧
      Supported t.data.startFailStep ((checks ++ handled).foldl Event.turn up) := by
  obtain ⟨told, -⟩ := along_append.mp truthful
  obtain ⟨checked, failed⟩ := run.status.supported told supported
  obtain ⟨ordered, after⟩ := run.handler.inOrder checked failed
  constructor
  · refine along_append.mpr ⟨run.status.inOrder, ?_⟩
    rw [run.status.still]
    exact ordered
  · rw [List.foldl_append, run.status.still]
    exact after

/-- The calls so far are in order, and a failed start has the phases below it up. -/
structure Orderly (phases : List Phase) (up : Nat → Bool) (s : State W) : Prop where
  inOrder : InOrder phases.length up (phaseCalls s.trace)
  supported : Supported s.data.startFailStep ((phaseCalls s.trace).foldl Event.turn up)

theorem ReconcileCalls.orderly (run : ReconcileCalls cfg phases s m t checks call handled)
    (before : Truthful up (phaseCalls s.trace) → Orderly phases up s)
    (truthful : Truthful up (phaseCalls t.trace)) : Orderly phases up t := by
  rw [run.calls] at truthful
  obtain ⟨earlier, now⟩ := along_append.mp truthful
  obtain ⟨inOrder, supported⟩ := before earlier
  obtain ⟨ordered, after⟩ := run.inOrder now supported
  constructor
  · rw [run.calls]
    exact along_append.mpr ⟨inOrder, ordered⟩
  · rw [run.calls, List.foldl_append]
    exact after

end Steps

section Runs
variable {W : Type} (calls : Calls W) {phases : List Phase} {s₀ s : State W}

theorem Calls.run_orderly (nonempty : phases ≠ []) (start : Initial phases s₀)
    (run : Go.execute (reconcileStep calls.env phases) cfgs s₀ = .ok s) (up : Nat → Bool)
    (truthful : Truthful up (phaseCalls s.trace)) : Sound phases s ∧ Orderly phases up s := by
  have first : Orderly phases up s₀ := by
    refine ⟨?_, fun j below => ?_⟩
    · rw [start.trace]
      trivial
    · rw [start.startFailStep] at below
      omega
  obtain ⟨sound, orderly⟩ := Go.execute_invariant
    (P := fun s => Sound phases s ∧
      (Truthful up (phaseCalls s.trace) → Orderly phases up s))
    (fun cfg _ before after holds stepped => by
      obtain ⟨sound, m, checks, call, handled, step⟩ := calls.step_calls holds.1 nonempty stepped
      exact ⟨sound, step.orderly holds.2⟩)
    run ⟨start.sound, fun _ => first⟩
  exact ⟨sound, orderly truthful⟩

/-- Where phases go up and down only by their own start and stop, and checks tell the truth, a phase
is started only on top of phases that are up, and stopped only under phases that are down, whatever
fails. -/
theorem Calls.phases_in_order (nonempty : phases ≠ []) (file : ExtensionFile) (w : W)
    (constructed : initial calls.env cfg₀ phases file w = .ok s₀)
    (run : Go.execute (reconcileStep calls.env phases) cfgs s₀ = .ok s) (up : Nat → Bool)
    (truthful : Truthful up (phaseCalls s.trace)) :
    InOrder phases.length up (phaseCalls s.trace) :=
  (calls.run_orderly nonempty (initial_spec constructed) run up truthful).2.inOrder

end Runs

/-- The calls of a run in which the second phase fails to start once. The next `Reconcile`
stops and starts it again, without a check of the first. -/
def callsAfterFailure : List Event :=
  [.status 0 (some "down"), .stop 1 none, .stop 0 none, .start 0 none, .start 1 (some "failed"),
    .stop 1 none, .start 1 none]

theorem phases_in_order_after_failure : ∃ s₀ s,
    initial (Script.calm [12]).calls.env startConfig certsAndKubeconfig (.object {}) ⟨fun _ =>
      false, 0⟩ = .ok s₀ ∧
    Go.execute (reconcileStep (Script.calm [12]).calls.env certsAndKubeconfig)
    [startConfig, startConfig] s₀ = .ok s ∧ phaseCalls s.trace = callsAfterFailure ∧
    InOrder 2 (fun _ => false) (phaseCalls s.trace) := by
  obtain ⟨s₀, s, constructed, ran, seen⟩ :=
    (Script.calm [12]).calls.run_observed certsAndKubeconfig startConfig
    (.object {}) ⟨fun _ => false, 0⟩ [startConfig, startConfig] (fun _ s =>
      phaseCalls s.trace) callsAfterFailure
    (by decide +kernel)
  have truthful : Truthful (fun _ => false) (phaseCalls s.trace) := by
    rw [seen]
    decide
  exact ⟨s₀, s, constructed, ran, seen,
    (Script.calm [12]).calls.phases_in_order (by decide) (.object {}) _ constructed ran _ truthful⟩

end Nodelet
