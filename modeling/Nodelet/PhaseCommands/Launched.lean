import Nodelet.PhaseCommands.Outcome
import Nodelet.Panics

/-! What the commands on phases do to the phases of a host, and what their exit codes say about
it. -/
namespace Nodelet
open Constants Sunpike
open Go (Returns)

theorem createWithPhases_alone (disabled : cfg.disableSunpike = true)
    (created : createWithPhases outside codec cfg files phases w = .ok n) :
    n.state.world.outside = w ∧ n.state.data.operation = .stop := by
  obtain ⟨⟨heap, d⟩, constructed, rest⟩ := Go.bind_ok created
  obtain ⟨spec, _, finished⟩ := Go.bind_ok rest
  obtain ⟨loaded, load, built⟩ := Go.bind_ok constructed
  cases finished
  cases built
  exact ⟨if_pos disabled, rfl⟩

/-- A command whose process is created, whose phase exists, and whose phases can be operated. -/
structure Launched (terminal : Terminal W) (codec : Codec) (files : StartFiles) (o : PhasesOpts)
    (loaded : Option Config) (w : W) (cfg : Config) (phases : List PhaseInterface) : Prop where
  config : o.complete loaded = .ok cfg
  loads : (initAndLoadRolePhases terminal.toCommands cfg w).1 = .ok phases
  nonempty : phases ≠ []
  usable : files.Usable codec cfg
  operates : terminal.toOutside.Operates cfg phases
  least : 0 ≤ o.phase
  most : o.phase ≤ phases.length

/-- The command finds no agent running once its phases are loaded. -/
def Unattended (terminal : Terminal W) (cfg : Config) (w : W) : Prop :=
  (arePF9AgentsRunning terminal (initAndLoadRolePhases terminal.toCommands cfg w).2).1 = false

theorem Initial.of_world {s : State W} (initial : Initial phases s) (w : W) :
    Initial phases { s with world := w } :=
  ⟨⟨initial.sound.tracks.frame rfl rfl rfl, initial.sound.bounded⟩, initial.startFailStep,
    initial.serviceState, initial.lastSuccessfulStatus, initial.trace⟩

theorem PhasesOpts.validate_ok {o : PhasesOpts} {numPhases : Nat}
    {m : Machine terminal.toOutside} {checkAgents : Bool}
    (alone : checkAgents = true → (arePF9AgentsRunning terminal m.outside).1 = false)
    (least : 0 ≤ o.phase) (most : o.phase ≤ numPhases) :
    ∃ after, o.validate terminal checkAgents numPhases m = (.ok (o.first : Int), after) := by
  unfold PhasesOpts.validate
  rw [PhasesOpts.index_eq least most]
  cases checkAgents with
  | false => exact ⟨m, rfl⟩
  | true =>
    exact ⟨{ m with outside := (arePF9AgentsRunning terminal m.outside).2 }, by simp [alone rfl]⟩

theorem PhasesOpts.prepare_initial {o : PhasesOpts} (command : PhasesCommand)
    (initial : Initial phases s) : Initial phases (o.prepare command s) := by
  unfold PhasesOpts.prepare
  split
  · exact ⟨⟨initial.sound.tracks.frame rfl rfl rfl, initial.sound.bounded⟩, initial.startFailStep,
      initial.serviceState, initial.lastSuccessfulStatus, initial.trace⟩
  · exact initial

namespace Launched
variable {W : Type} {terminal : Terminal W} {codec : Codec} {files : StartFiles} {o : PhasesOpts}
  {loaded : Option Config} {w : W} {cfg : Config} {phases : List PhaseInterface}

theorem disableSunpike (launched : Launched terminal codec files o loaded w cfg phases) :
    cfg.disableSunpike = true := by
  have config := launched.config
  unfold PhasesOpts.complete at config
  cases loaded with
  | none => contradiction
  | some given =>
    cases config
    rfl

theorem first_lt (launched : Launched terminal codec files o loaded w cfg phases) :
    o.first < phases.length := by
  have some := List.length_pos_iff.mpr launched.nonempty
  have most := launched.most
  unfold PhasesOpts.first
  omega

theorem performs (launched : Launched terminal codec files o loaded w cfg phases)
    (command : PhasesCommand) (alone : command ≠ .status → Unattended terminal cfg w) :
    ∃ s : State (Machine terminal.toOutside), Initial (phases.map PhaseInterface.hostPhase) s ∧
      s.data.operation = .stop ∧ phasesCommand terminal codec files o loaded command w = (do
        let ((err, table), t) ← o.perform (terminal.toOutside.env codec phases) cfg
          (phases.map PhaseInterface.hostPhase) o.first command (o.prepare command s)
        return ⟨err, table, t.trace⟩) := by
  obtain ⟨w', loads⟩ : ∃ w', initAndLoadRolePhases terminal.toCommands cfg w = (.ok phases, w') :=
    ⟨_, Prod.ext launched.loads rfl⟩
  unfold Unattended at alone
  rw [loads] at alone
  obtain ⟨n, created⟩ :=
    (createWithPhases_returns_iff terminal.toOutside codec cfg files phases w').mpr launched.usable
  obtain ⟨rfl, initial, -⟩ := createWithPhases_created created
  obtain ⟨outside, operation⟩ := createWithPhases_alone launched.disableSunpike created
  have made : createNodeletFromConfig terminal.toOutside codec cfg files w = .ok (.ok n) := by
    rw [createNodeletFromConfig, loads]
    exact congrArg (Except.ok <$> ·) created
  have whole : phasesCommand terminal codec files o loaded command w = o.run terminal codec cfg command n := by
    rw [phasesCommand, launched.config]
    simp only [Bind.bind, Except.bind, made]
  have prepared (m : Machine terminal.toOutside) : { o.prepare command n.state with world := m } =
      o.prepare command { n.state with world := m } := by
    unfold PhasesOpts.prepare
    split <;> rfl
  have world : (o.prepare command n.state).world.outside = w' := by
    rw [← outside]
    unfold PhasesOpts.prepare
    split <;> rfl
  have unattended (checks : decide (command ≠ .status) = true) :
      (arePF9AgentsRunning terminal (o.prepare command n.state).world.outside).1 = false :=
    world ▸ alone (of_decide_eq_true checks)
  obtain ⟨m, checked⟩ := PhasesOpts.validate_ok unattended launched.least launched.most
  refine ⟨{ n.state with world := m }, initial.of_world m, operation, ?_⟩
  rw [whole, PhasesOpts.run, checked, ← prepared m]
  rfl

theorem displays (launched : Launched terminal codec files o loaded w cfg phases)
    (command : PhasesCommand) (alone : command ≠ .status → Unattended terminal cfg w)
    {P : State (Machine terminal.toOutside) → Option Go.Error × Option Table →
      State (Machine terminal.toOutside) → Prop}
    (returns : ∀ s, Initial (phases.map PhaseInterface.hostPhase) (o.prepare command s) →
      Returns (o.perform (terminal.toOutside.env codec phases) cfg
      (phases.map PhaseInterface.hostPhase) o.first command) (o.prepare command s) (P s)) :
    ∃ s t d, Initial (phases.map PhaseInterface.hostPhase) (o.prepare command s) ∧
      s.data.operation = .stop ∧
      phasesCommand terminal codec files o loaded command w = .ok d ∧ P s (d.err, d.table) t ∧
      d.trace = t.trace := by
  obtain ⟨s, initial, operation, performed⟩ := launched.performs command alone
  have prepared := PhasesOpts.prepare_initial (o := o) command initial
  obtain ⟨⟨err, table⟩, t, run, result⟩ := returns s prepared
  refine ⟨s, t, ⟨err, table, t.trace⟩, prepared, operation, ?_, result, rfl⟩
  rw [performed, run]
  rfl

theorem env (launched : Launched terminal codec files o loaded w cfg phases) :
    (terminal.toOutside.env codec phases).Returning cfg
    (phases.map PhaseInterface.hostPhase).length := by
  rw [List.length_map]
  exact launched.operates.env codec

theorem inside (launched : Launched terminal codec files o loaded w cfg phases) :
    o.first < (phases.map PhaseInterface.hostPhase).length := by
  rw [List.length_map]
  exact launched.first_lt

end Launched

theorem mem_phaseCalls (trace : List Event) (call : e.isCall = true) :
    e ∈ phaseCalls trace ↔ e ∈ trace := by
  simp [phaseCalls, call]

/-- A host without the agents, on which every script ends with this exit code. -/
def agentless (exitCode : Int) : Terminal Unit :=
  { quiet exitCode working ⟨.object {}, none, none⟩ with exitCode _ w := (3, w) }

/-- The configuration of a master that a command with these flags works with. -/
def PhasesOpts.masterConfig (o : PhasesOpts) : Config :=
  ({ clusterRole := roleMaster, debug := toString o.verbose, disableConfigUpdate := true, disableExtFile := true,
     disableSunpike := true, disableLoop := true, phaseRetry := 1 } : Config).merge defaultConfig

theorem launched_agentless (exitCode : Int) (o : PhasesOpts) (least : 0 ≤ o.phase)
    (most : o.phase ≤ masterPhaseList.length) :
    Launched (agentless exitCode) wordCodec ⟨.object {}, none, none⟩ o
      (some { clusterRole := roleMaster }) () o.masterConfig masterPhaseList where
  config := rfl
  loads := congrArg Prod.fst (initAndLoadRolePhases_master _ _ rfl)
  nonempty := by decide
  usable := ⟨.inl rfl, by simp⟩
  operates := ⟨show (0 : Int) ≤ 10 by decide, fun _ _ phase _ => quiet_serves exitCode _ phase⟩
  least := least
  most := most

section Results
variable {W : Type} {terminal : Terminal W} {codec : Codec} {files : StartFiles} {o : PhasesOpts}
  {loaded : Option Config} {w : W} {cfg : Config} {phases : List PhaseInterface}

/-- With neither `--single` nor `--regen-certs`, and no agent running, a restart never stops the
phase of the certificates, and it succeeds exactly if every phase from the first one on could be
started; phases that did not stop are of no account. -/
theorem restart_keeps_certs (launched : Launched terminal codec files o loaded w cfg phases)
    (alone : Unattended terminal cfg w) (chained : o.single = false) (keep : o.regenCerts = false) :
    ∃ d, phasesCommand terminal codec files o loaded .restart w = .ok d ∧
      (∀ i err phase, .stop i err ∈ d.trace → phases[i]? = some phase →
        o.first ≤ i ∧ phase.hostPhase.order ≠ genCertsPhaseOrder) ∧
      (d.err = none ↔ ∀ i, o.first ≤ i → i < phases.length → .start i none ∈ d.trace) := by
  obtain ⟨s, t, d, initial, -, run, ⟨stops, ended, starts, result, calls, chain, climb, returned⟩,
    trace⟩ := launched.displays .restart (fun _ => alone) fun s initial =>
      o.restart_calls cfg _ launched.env _ initial.sound.tracks launched.inside chained
  rw [List.length_map] at climb
  rw [initial.trace] at calls
  have mem_calls (e : Event) (call : e.isCall = true) : e ∈ d.trace ↔ e ∈ stops ∨ e ∈ starts := by
    rw [← mem_phaseCalls d.trace call, trace, calls]
    simp [phaseCalls]
  have prepared : (o.prepare .restart s).data.control = (skipGenCertsPhase s).data.control := by
    simp [PhasesOpts.prepare, keep]
  refine ⟨d, run, ?_, ?_⟩
  · intro i err phase stopped found
    rcases (mem_calls _ rfl).mp stopped with member | member
    · obtain ⟨j, _, other, same, above, here, taken⟩ := chain.call _ member
      cases same
      obtain rfl : phase.hostPhase = other := by simpa [found] using here
      refine ⟨above, fun certs => taken ?_⟩
      rw [prepared]
      exact ⟨rfl, certs, show (-1 : Int) ≠ i by omega⟩
    · obtain ⟨_, _, same⟩ := climb.call _ member
      contradiction
  · rw [returned, climb.ok_iff]
    refine forall₃_congr fun i _ _ => ?_
    rw [mem_calls _ rfl]
    refine ⟨.inr, fun started => started.resolve_left fun member => ?_⟩
    obtain ⟨_, _, _, same, _⟩ := chain.call _ member
    contradiction

theorem restart_keeps_certs_of_master :
    ∃ d, phasesCommand (agentless 1) wordCodec ⟨.object {}, none, none⟩ {}
        (some { clusterRole := roleMaster }) .restart () = .ok d ∧
      (∀ i err phase, .stop i err ∈ d.trace → masterPhaseList[i]? = some phase →
        0 ≤ i ∧ phase.hostPhase.order ≠ genCertsPhaseOrder) ∧
      (d.err = none ↔ ∀ i, 0 ≤ i → i < masterPhaseList.length → .start i none ∈ d.trace) :=
  restart_keeps_certs (launched_agentless 1 {} (by decide) (by decide)) rfl rfl rfl

/-- The status command succeeds exactly if the check of every phase passes, or none is made. -/
theorem status_iff_checks_pass (launched : Launched terminal codec files o loaded w cfg phases) :
    ∃ d, phasesCommand terminal codec files o loaded .status w = .ok d ∧
      (d.err = none ↔ cfg.disableScripts = true ∨
      ∀ i < phases.length, .status i none ∈ d.trace) := by
  obtain ⟨s, t, d, initial, -, run, ⟨failed, checks, calls, checked, returned⟩, trace⟩ :=
    launched.displays .status (fun other => absurd rfl other) fun s initial =>
      statusCommand_checks cfg _ launched.env _ initial.startFailStep initial.serviceState
  rw [List.length_map] at checked
  rw [initial.trace] at calls
  refine ⟨d, run, ?_⟩
  rw [returned, checked.none_iff]
  refine or_congr_right (forall₂_congr fun i _ => ?_)
  rw [trace, ← mem_phaseCalls t.trace rfl, calls]
  simp [phaseCalls]

theorem status_of_master :
    ∃ d, phasesCommand (agentless 1) wordCodec ⟨.object {}, none, none⟩ {}
        (some { clusterRole := roleMaster }) .status () = .ok d ∧
      (d.err = none ↔ (PhasesOpts.masterConfig {}).disableScripts = true ∨
        ∀ i < masterPhaseList.length, .status i none ∈ d.trace) :=
  status_iff_checks_pass (launched_agentless 1 {} (by decide) (by decide))

/-- A forced stop without `--single`, and with no agent running, calls the stop of every phase down
to the first one, each of them once and in order, whatever they answer; and it never fails. -/
theorem forced_stop_takes_all (launched : Launched terminal codec files o loaded w cfg phases)
    (alone : Unattended terminal cfg w) (chained : o.single = false) (forced : o.force = true) :
    ∃ d, ∃ errs : Nat → Option Go.Error, phasesCommand terminal codec files o loaded .stop w = .ok d ∧
      d.err = none ∧ phaseCalls d.trace =
        ((List.range' o.first (phases.length - o.first)).reverse.map fun i => .stop i (errs i)) := by
  obtain ⟨s, t, d, initial, operation, run, ⟨none, stops, ended, calls, chain, -⟩, trace⟩ :=
    launched.displays .stop (fun _ => alone) (P := fun s shown t => shown.1 = none ∧ ∃ stops ended,
      phaseCalls t.trace = phaseCalls (o.prepare .stop s).trace ++ stops ∧
      StopChain (phases.map PhaseInterface.hostPhase) o.first o.force
        (o.prepare .stop s).data.control (phases.map PhaseInterface.hostPhase).length stops ended ∧
      Tracks (phases.map PhaseInterface.hostPhase) t) fun s initial => by
        refine (o.stop_calls cfg _ launched.env _ initial.sound.tracks launched.inside chained false).bind ?_
        exact fun _ _ stopped => Returns.pure ⟨rfl, stopped⟩
  rw [List.length_map, forced] at chain
  have taken (i : Nat) (phase : Phase)
    (_ : (phases.map PhaseInterface.hostPhase)[i]? = some phase) :
      ¬ (o.prepare .stop s).data.control.keepsCerts phase i := by
    rintro ⟨started, -⟩
    exact absurd (operation.symm.trans started) (by decide)
  obtain ⟨errs, all⟩ := chain.forced (Nat.le_of_lt launched.first_lt) taken
  refine ⟨d, errs, run, none, ?_⟩
  rw [trace, calls, initial.trace, all]
  rfl

theorem forced_stop_of_master :
    ∃ d, ∃ errs : Nat → Option Go.Error, phasesCommand (agentless 1) wordCodec ⟨.object {}, none, none⟩
        { phase := 3, force := true } (some { clusterRole := roleMaster }) .stop () = .ok d ∧ d.err = none ∧
      phaseCalls d.trace = ((List.range' 2 (masterPhaseList.length - 2)).reverse.map fun i => .stop i (errs i)) :=
  forced_stop_takes_all
    (launched_agentless 1 { phase := 3, force := true } (by decide) (by decide)) rfl rfl rfl

end Results
end Nodelet
