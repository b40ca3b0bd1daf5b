import Nodelet.Reconcile.Serve

/-! Runs of `Reconcile` from the state a process constructs when it starts. Every
step of a run keeps the phase slices and the indices sound, so it returns. -/
namespace Nodelet
open Constants
open Go (Returns Safe)

/-- The phase slices and a failed start's index are sound for these phases. -/
structure Sound (phases : List Phase) (s : State W) : Prop where
  tracks : Tracks phases s
  bounded : s.data.control.Bounded phases.length

/-- The final report of a `Reconcile` and the exchange of configuration. -/
structure Concluded (env : Env W) (cfg : Config) (s t : State W) (final : List Event) : Prop where
  control : t.data.control = s.data.control
  completed : t.data.completedPhases = s.data.completedPhases
  reported : ∀ e ∈ final, e.Reports cfg s.view
  recorded : Recorded cfg final
  advances : Advances env.Step s t final

/-- One `Reconcile`: the status chain up to `m`, the handler up to `h`, the conclusion. -/
structure ReconcileRun (env : Env W) (cfg : Config) (phases : List Phase) (s m h t : State W)
    (checks reports : List Event) (call : StatusCall) (events final : List Event) : Prop where
  status : StatusRun env cfg phases.length s m checks reports call
  handler : HandlerRun env cfg phases m h events
  concluded : Concluded env cfg h t final

section Soundness
variable {W : Type} {env : Env W} {cfg : Config} {phases : List Phase} {s t : State W}

theorem StatusRun.sound (run : StatusRun env cfg phases.length s t checks reports call)
    (sound : Sound phases s) : Sound phases t := by
  obtain ⟨_, _, _, control⟩ := run.outcome.frame
  refine ⟨sound.tracks.frame run.advances.heap (congrArg Control.allPhases control) run.completed,
    ?_⟩
  rw [control]
  exact sound.bounded

theorem Control.started_bounded {c : Control} {result : Nat × Option Go.Error}
    (returned : result.2 = none ∧ result.1 = count ∨ ∃ err, result.2 = some err ∧
      result.1 < count) : (c.started result).Bounded count := by
  unfold Control.started
  rcases returned with ⟨ok, _⟩ | ⟨err, failed, below⟩
  · rw [ok]
    exact .inl rfl
  · rw [failed]
    exact .inr ⟨Int.natCast_nonneg _, Int.ofNat_lt.mpr below⟩

theorem RestartRun.bounded
    (run : RestartRun env cfg phases k s t middle result stops reports starts) :
    t.data.control.Bounded phases.length := by
  rw [run.control]
  refine Control.started_bounded (run.climb.outcome.imp_right ?_)
  rintro ⟨err, failed, below, _⟩
  exact ⟨err, failed, below⟩

theorem HandlerRun.sound (run : HandlerRun env cfg phases s t events) (sound : Sound phases s) :
    Sound phases t := by
  cases run with
  | idle why operation => exact ⟨sound.tracks.frame rfl rfl rfl, sound.bounded⟩
  | confirmed expected running control completed reported advances =>
    have sameAll : t.data.allPhases = s.data.allPhases := congrArg Control.allPhases control
    refine ⟨⟨?_, ?_, ?_⟩, ?_⟩
    · rw [advances.heap, sameAll]
      exact sound.tracks.fits
    · rw [advances.heap, sameAll]
      exact sound.tracks.names
    · refine .inr ⟨phases.length, Nat.le_refl _, ?_⟩
      rw [completed, sameAll, ← sound.tracks.length]
    · rw [control]
      exact .inl rfl
  | restarted expected notRunning index run persisted =>
    refine ⟨run.first.tracks.frame persisted.advances.heap
      (congrArg Control.allPhases persisted.control) persisted.completed, ?_⟩
    rw [persisted.control]
    exact run.bounded
  | stopped expected running run => exact ⟨run.tracks.frame rfl rfl rfl, .inl rfl⟩

theorem Concluded.sound (concluded : Concluded env cfg s t final) (sound : Sound phases s) :
    Sound phases t where
  tracks := sound.tracks.frame concluded.advances.heap
    (congrArg Control.allPhases concluded.control) concluded.completed
  bounded := by
    rw [concluded.control]
    exact sound.bounded

theorem ReconcileRun.sound
    (run : ReconcileRun env cfg phases s m h t checks reports call events final)
    (sound : Sound phases s) : Sound phases t :=
  run.concluded.sound (run.handler.sound (run.status.sound sound))

end Soundness

theorem HandlerRun.advances (run : HandlerRun env cfg phases s t events) :
    Advances env.Step s t events := by
  cases run with
  | idle why operation => exact (Advances.refl s).data _
  | confirmed expected running control completed reported advances => exact advances
  | restarted expected notRunning index run persisted =>
    exact run.advances.of_data.trans persisted.steps
  | stopped expected running run => exact run.advances.of_data.data _

theorem ReconcileRun.advances
    (run : ReconcileRun env cfg phases s m h t checks reports call events final) :
    Advances env.Step s t (checks ++ reports ++ [.statusCall call] ++ events ++ final) :=
  ((run.status.advances.mono fun _ _ => .observe).trans run.handler.advances).trans
    run.concluded.advances

/-- The events one step added to the trace. -/
def newEvents (s t : State W) : List Event := t.trace.drop s.trace.length

theorem Advances.newEvents (advances : Advances step s t events) : newEvents s t = events := by
  rw [Nodelet.newEvents, advances.trace, List.drop_left]

theorem Advances.trace_newEvents (advances : Advances step s t events) :
    t.trace = s.trace ++ Nodelet.newEvents s t := by
  rw [advances.newEvents, advances.trace]

theorem ReconcileRun.handled
    (run : ReconcileRun env cfg phases s m h t checks reports call events final)
    (member : e ∈ newEvents s t)
    (notCheck : ∀ j err, e ≠ .status j err) (notCall : ∀ call, e ≠ .statusCall call)
    (notReport : ∀ view, ¬ e.Reports cfg view) : e ∈ events := by
  rw [run.advances.newEvents] at member
  rcases List.mem_append.mp member with earlier | concluding
  · rcases List.mem_append.mp earlier with checking | handling
    · rcases List.mem_append.mp checking with early | called
      · rcases List.mem_append.mp early with check | report
        · obtain ⟨j, err, same⟩ := run.status.outcome.is_status check
          exact absurd same (notCheck j err)
        · exact absurd (run.status.reported e report) (notReport _)
      · exact absurd (List.mem_singleton.mp called) (notCall call)
    · exact handling
  · exact absurd (run.concluded.reported e concluding) (notReport _)

theorem ReconcileRun.start_handled
    (run : ReconcileRun env cfg phases s m h t checks reports call events final)
    (member : .start j err ∈ newEvents s t) : .start j err ∈ events :=
  run.handled member nofun nofun fun _ report => report

theorem ReconcileRun.stop_handled
    (run : ReconcileRun env cfg phases s m h t checks reports call events final)
    (member : .stop j err ∈ newEvents s t) : .stop j err ∈ events :=
  run.handled member nofun nofun fun _ report => report

theorem HandlerRun.kinds (run : HandlerRun env cfg phases s t events) (member : e ∈ events) :
    (∃ i err, e = .stop i err) ∨ (∃ i err, e = .start i err) ∨ ∃ view, e.Reports cfg view := by
  have stopCall {k : Nat} {c : Control} : StopCall phases k c e → ∃ i err, e = .stop i err :=
    fun ⟨i, err, _, same, _⟩ => ⟨i, err, same⟩
  cases run with
  | idle => contradiction
  | confirmed _ _ _ _ reported => exact .inr (.inr ⟨_, reported e member⟩)
  | restarted _ _ _ run persisted =>
    rcases List.mem_append.mp member with chains | final
    · rcases List.mem_append.mp chains with early | inStarts
      · rcases List.mem_append.mp early with inStops | inReports
        · exact .inl (stopCall (run.calls e inStops))
        · obtain ⟨_, _, report⟩ := run.reported e inReports
          exact .inr (.inr ⟨_, report⟩)
      · cases run.shown e inStarts with
        | started => exact .inr (.inl ⟨_, _, rfl⟩)
        | failed => exact .inr (.inl ⟨_, _, rfl⟩)
        | reported m report => exact .inr (.inr ⟨_, report⟩)
    · exact .inr (.inr ⟨_, persisted.reported e final⟩)
  | stopped _ _ run =>
    rcases List.mem_append.mp member with inStops | inReports
    · exact .inl (stopCall (run.calls e inStops))
    · exact .inr (.inr ⟨_, run.reported e inReports⟩)

theorem ReconcileRun.status_checked
    (run : ReconcileRun env cfg phases s m h t checks reports call events final)
    (member : .status j err ∈ newEvents s t) : .status j err ∈ checks := by
  rw [run.advances.newEvents] at member
  rcases List.mem_append.mp member with earlier | concluding
  · rcases List.mem_append.mp earlier with checking | handling
    · rcases List.mem_append.mp checking with early | called
      · rcases List.mem_append.mp early with check | report
        · exact check
        · exact (run.status.reported _ report).elim
      · cases List.mem_singleton.mp called
    · rcases run.handler.kinds handling with ⟨_, _, same⟩ | ⟨_, _, same⟩ | ⟨_, report⟩
      · cases same
      · cases same
      · exact report.elim
  · exact (run.concluded.reported _ concluding).elim

theorem reconcile_retries (returned : reconcile env cfg phases s = .ok (err, t))
    (checked : status env cfg phases s = .ok ((), m)) (restarts : m.data.control.restarts cfg) :
    cfg.fullRetryCount ≠ 0 := by
  obtain ⟨_, served, _⟩ := Go.bind_ok returned
  obtain ⟨_, checked', handled⟩ := Go.bind_ok served
  cases checked.symm.trans checked'
  rw [if_pos restarts.1] at handled
  exact handleServiceStartState_retries handled restarts

section Specs
variable {W : Type} {env : Env W} (cfg : Config) (phases : List Phase)

theorem serve_spec (returning : cfg.disableScripts = false → env.Returning cfg phases.length)
    (s : State W) (sound : Sound phases s)
    (ready : ∀ m, status env cfg phases s = .ok ((), m) → m.data.control.Ready cfg phases) :
    Returns (serve env cfg phases) s fun _ h => ∃ m checks reports call events,
      StatusRun env cfg phases.length s m checks reports call ∧
      HandlerRun env cfg phases m h events := by
  obtain ⟨_, m, returned, checks, reports, call, checked⟩ := status_spec cfg phases returning s
  unfold serve
  have first : Returns (status env cfg phases) s fun _ t => m = t := ⟨_, m, returned, rfl⟩
  refine first.bind ?_
  rintro _ _ rfl
  have soundM := checked.sound sound
  have bounds (nonempty : phases ≠ []) :=
    checked.outcome.failedStatusCheck sound.bounded (List.length_pos_iff.mpr nonempty)
  apply Returns.ite
  · intro expected
    refine (handleServiceStartState_spec cfg phases m soundM.tracks expected returning
      fun restarts => ?_).weaken ?_
    · obtain ⟨nonempty, retries⟩ := (ready m returned).restart restarts
      exact ⟨retries, bounds nonempty⟩
    rintro _ h ⟨events, handled⟩
    exact ⟨m, checks, reports, call, events, checked, handled⟩
  · intro notTrue
    apply Returns.ite
    · intro expected
      refine (handleServiceStopState_spec cfg phases m soundM.tracks expected returning
        (ready m returned).stop).weaken ?_
      rintro _ h ⟨events, handled⟩
      exact ⟨m, checks, reports, call, events, checked, handled⟩
    · intro notFalse
      exact Returns.pure ⟨m, checks, reports, call, [], checked,
        .idle (.inr (.inr ⟨notTrue, notFalse⟩)) m.data.operation⟩

theorem exchangeConfig_spec (s : State W)
    (answers : Go.Ends exits (fun _ => True) (env.exchange cfg s.snapshot s.world)) :
    Safe exits (env.exchangeConfig cfg) s fun _ t => ∃ reports,
      t.data = s.data ∧ (∀ e ∈ reports, e.Reports cfg s.view) ∧ Advances env.Step s t reports := by
  unfold Safe Env.exchangeConfig
  cases answered : env.exchange cfg s.snapshot s.world with
  | ok reply =>
    refine ⟨[.exchange s.snapshot], rfl, ?_, .single (.exchange answered), rfl, rfl⟩
    exact List.forall_mem_singleton.mpr rfl
  | error halt =>
    rw [answered] at answers
    cases halt with
    | panic cause => exact answers
    | exit code => exact answers

theorem conclude_spec (s : State W)
    (answers : ∀ snapshot w, Go.Ends exits (fun _ => True) (env.exchange cfg snapshot w)) :
    Safe exits (conclude env cfg) s fun _ t => ∃ final, Concluded env cfg s t final := by
  unfold conclude
  apply Safe.ite
  · intro _
    refine .of_returns ((tryToPersistStatus_spec env cfg s).bind ?_)
    rintro _ t ⟨final, persisted, recorded⟩
    exact Returns.pure ⟨final, persisted.control, persisted.completed, persisted.reported, recorded,
      persisted.steps⟩
  · intro _
    unfold persistStatusAndUpdateConfigIfChanged
    apply Safe.ite
    · intro disabled
      refine (exchangeConfig_spec cfg s (answers _ _)).weaken ?_
      rintro _ t ⟨reports, data, reported, advances⟩
      exact ⟨reports, by rw [data], by rw [data], reported,
        fun enabled => by simp [disabled] at enabled, advances⟩
    · intro _
      refine Safe.bind (.of_returns (write_spec env cfg s)) ?_
      rintro _ t ⟨snapshot, persisted⟩
      refine (exchangeConfig_spec cfg t (answers _ _)).weaken ?_
      rintro _ u ⟨reports, data, reported, advances⟩
      refine ⟨_, ?_, ?_, ?_, fun _ => ⟨snapshot, by simp⟩, persisted.steps.trans advances⟩
      · rw [data, persisted.control]
      · rw [data, persisted.completed]
      · intro e member
        rcases List.mem_append.mp member with early | late
        · exact persisted.reported e early
        · exact persisted.view ▸ reported e late

/-- A `Reconcile` in a sound state returns, or exits where the exchange does. -/
theorem reconcile_spec (returning : cfg.disableScripts = false → env.Returning cfg phases.length)
    (answers : ∀ snapshot w, Go.Ends exits (fun _ => True) (env.exchange cfg snapshot w))
    (s : State W) (sound : Sound phases s)
    (ready : ∀ m, status env cfg phases s = .ok ((), m) → m.data.control.Ready cfg phases) :
    Safe exits (reconcile env cfg phases) s fun _ t => ∃ m h checks reports call events final,
      ReconcileRun env cfg phases s m h t checks reports call events final := by
  unfold reconcile
  refine Safe.bind (.of_returns (serve_spec cfg phases returning s sound ready)) ?_
  rintro _ h ⟨m, checks, reports, call, events, checked, handled⟩
  refine (conclude_spec cfg h answers).weaken ?_
  rintro _ t ⟨final, concluded⟩
  exact ⟨m, h, checks, reports, call, events, final, checked, handled, concluded⟩

end Specs

section Initial
variable {cfg : Config} {phases : List Phase}

theorem ExtensionData.convertOldField_lastSuccessfulStatus (d : ExtensionData)
    (field : String × String) :
    (d.convertOldField field).lastSuccessfulStatus = d.lastSuccessfulStatus := by
  unfold convertOldField
  split <;> rfl

theorem ExtensionData.convertOldFields_lastSuccessfulStatus (oldData : List (String × String))
    (d : ExtensionData) :
    (oldData.foldl convertOldField d).lastSuccessfulStatus = d.lastSuccessfulStatus := by
  induction oldData generalizing d with
  | nil => rfl
  | cons field rest ih => rw [List.foldl_cons, ih, convertOldField_lastSuccessfulStatus]

theorem ExtensionData.convertNodeState_lastSuccessfulStatus (d : ExtensionData) :
    d.convertNodeState.lastSuccessfulStatus = d.lastSuccessfulStatus := by
  unfold convertNodeState
  split <;> rfl

theorem ExtensionData.load_lastSuccessfulStatus {d d' : ExtensionData}
    (loaded : d.load cfg file = .ok d') : d'.lastSuccessfulStatus = d.lastSuccessfulStatus := by
  cases file with
  | null => contradiction
  | object fields =>
    cases loaded
    exact convertNodeState_lastSuccessfulStatus _
  | undecodable fields oldData =>
    cases loaded
    rw [convertNodeState_lastSuccessfulStatus]
    refine (congrArg Control.lastSuccessfulStatus (populateExtraFields_control cfg _)).trans ?_
    exact convertOldFields_lastSuccessfulStatus oldData _

theorem loadState_lastSuccessfulStatus (loaded : loadState cfg file = .ok d) :
    d.lastSuccessfulStatus = Go.Time.zero := by
  unfold loadState at loaded
  split at loaded
  · cases loaded
    rfl
  · exact ExtensionData.load_lastSuccessfulStatus loaded

theorem appendNames_spec (grow : Nat → Nat) (phases : List Phase) (heap : Go.Heap String)
    (names : Go.Slice) (fits : names.Fits heap) :
    let built := phases.foldl (fun (names : Go.Heap String × Go.Slice) phase =>
      names.1.append grow names.2 phase.name) (heap, names)
    built.2.Fits built.1 ∧ built.1.read built.2 = heap.read names ++ phases.map Phase.name := by
  induction phases generalizing heap names with
  | nil => exact ⟨fits, (List.append_nil _).symm⟩
  | cons phase rest ih =>
    obtain ⟨builtFits, builtNames⟩ := ih _ _ (fits.append_fits phase.name)
    refine ⟨builtFits, ?_⟩
    rw [List.foldl_cons, builtNames, fits.append_read]
    simp

/-- What a process starts from, whatever its extension file holds. -/
structure Initial (phases : List Phase) (s : State W) : Prop where
  sound : Sound phases s
  startFailStep : s.data.startFailStep = -1
  serviceState : s.data.serviceState = serviceStateFalse
  lastSuccessfulStatus : s.data.lastSuccessfulStatus = Go.Time.zero
  trace : s.trace = []

theorem initial_spec (constructed : initial env cfg phases file w = .ok s) : Initial phases s := by
  unfold initial constructInitialCurrentState at constructed
  cases loaded : loadState cfg file with
  | error halt => rw [loaded] at constructed; contradiction
  | ok d =>
    rw [loaded] at constructed
    cases constructed
    obtain ⟨fits, names⟩ := appendNames_spec env.grow phases [] .empty (Go.Slice.empty_fits [])
    rw [Go.Heap.read_empty, List.nil_append] at names
    have last := loadState_lastSuccessfulStatus loaded
    exact ⟨⟨⟨fits, names, .inl rfl⟩, .inl rfl⟩, rfl, rfl, last, rfl⟩

end Initial

section Runs
variable {W : Type} (calls : Calls W) {cfg : Config} {phases : List Phase}

theorem Calls.reconcile_returns (sound : Sound phases s) (nonempty : phases ≠ [])
    (retries : ∀ m, Nodelet.status calls.env cfg phases s = .ok ((), m) →
      m.data.control.restarts cfg → cfg.fullRetryCount ≠ 0) :
    Returns (reconcile calls.env cfg phases) s fun _ t => ∃ m h checks reports call events final,
      ReconcileRun calls.env cfg phases s m h t checks reports call events final := by
  refine (reconcile_spec cfg phases (fun _ => calls.returning _ _) (fun _ _ =>
    trivial) s sound ?_).returns
  exact fun m checked => ⟨fun restarts => ⟨nonempty, retries m checked restarts⟩, fun _ => nonempty⟩

theorem Calls.step_returns (sound : Sound phases s) (nonempty : phases ≠ [])
    (retries : cfg.fullRetryCount ≠ 0) :
    ∃ t, reconcileStep calls.env phases cfg s = .ok t ∧ Sound phases t := by
  obtain ⟨err, t, returned, m, h, _, _, _, _, _, run⟩ :=
    calls.reconcile_returns sound nonempty (fun _ _ _ => retries)
  exact ⟨t, by rw [reconcileStep, returned]; rfl, run.sound sound⟩

theorem Calls.step_run (sound : Sound phases s) (nonempty : phases ≠ [])
    (stepped : reconcileStep calls.env phases cfg s = .ok t) :
    ∃ m h checks reports call events final,
      ReconcileRun calls.env cfg phases s m h t checks reports call events final := by
  obtain ⟨err, returned⟩ : ∃ err, reconcile calls.env cfg phases s = .ok (err, t) := by
    unfold reconcileStep at stepped
    cases result : reconcile calls.env cfg phases s with
    | error halt =>
      rw [result] at stepped
      contradiction
    | ok reached =>
      rw [result] at stepped
      cases stepped
      exact ⟨reached.1, rfl⟩
  exact (calls.reconcile_returns sound nonempty fun _ => reconcile_retries returned).elim returned

variable {P : State W → Prop} {cfgs : List Config}

/-- A property that one `Reconcile` keeps in sound states holds after every run. -/
theorem Calls.run_invariant (nonempty : phases ≠ [])
    (preserved : ∀ cfg ∈ cfgs, ∀ s m h t checks reports call events final, Sound phases s → P s →
      ReconcileRun calls.env cfg phases s m h t checks reports call events final → P t)
    (sound : Sound phases s) (holds : P s)
    (run : Go.execute (reconcileStep calls.env phases) cfgs s = .ok t) : Sound phases t ∧ P t := by
  refine Go.execute_invariant (P := fun s => Sound phases s ∧ P s) ?_ run ⟨sound, holds⟩
  rintro cfg member s t ⟨sound, holds⟩ stepped
  obtain ⟨m, h, checks, reports, call, events, final, step⟩ :=
    calls.step_run sound nonempty stepped
  exact ⟨step.sound sound, preserved cfg member s m h t _ _ _ _ _ sound holds step⟩

/-- What every `Reconcile` shows in states with the invariant is all that a run shows. -/
theorem Calls.run_safe {allowed : Event → Prop}
    (nonempty : phases ≠ [])
    (preserved : ∀ cfg ∈ cfgs, ∀ s m h t checks reports call events final, Sound phases s → P s →
      ReconcileRun calls.env cfg phases s m h t checks reports call events final →
        P t ∧ ∀ e ∈ checks ++ reports ++ [.statusCall call] ++ events ++ final, allowed e)
    (start : Initial phases s) (holds : P s)
    (run : Go.execute (reconcileStep calls.env phases) cfgs s = .ok t) :
    ∀ e ∈ t.trace, allowed e := by
  have shown : ∀ e ∈ s.trace, allowed e := by simp [start.trace]
  refine (calls.run_invariant (P := fun s => P s ∧ ∀ e ∈ s.trace, allowed e) nonempty ?_
    start.sound ⟨holds, shown⟩ run).2.2
  rintro cfg member s m h t checks reports call events final sound ⟨holds, earlier⟩ step
  obtain ⟨after, added⟩ := preserved cfg member s m h t _ _ _ _ _ sound holds step
  rw [step.advances.trace]
  exact ⟨after, List.forall_mem_append.mpr ⟨earlier, added⟩⟩

theorem Calls.run_returns (nonempty : phases ≠ [])
    (retries : ∀ cfg ∈ cfgs, cfg.fullRetryCount ≠ 0) (sound : Sound phases s) :
    ∃ t, Go.execute (reconcileStep calls.env phases) cfgs s = .ok t ∧ Sound phases t := by
  refine (Go.execute_ends (fun cfg member before sound => ?_) sound).returned
  obtain ⟨after, stepped, kept⟩ := calls.step_returns sound nonempty (retries cfg member)
  rw [stepped]
  exact kept

theorem Calls.run_sound (nonempty : phases ≠ []) (sound : Sound phases s)
    (run : Go.execute (reconcileStep calls.env phases) cfgs s = .ok t) : Sound phases t :=
  (calls.run_invariant (P := fun _ => True) nonempty
    (fun _ _ _ _ _ _ _ _ _ _ _ _ _ _ => trivial) sound trivial run).1

end Runs

section Scenarios

/-- Surroundings in which every operation of a phase always ends the same way. -/
def Calls.constant (status start stop : Nat → Option Go.Error) : Calls Unit where
  status _ i w := (status i, w)
  start _ i w := (start i, w)
  stop _ i w := (stop i, w)
  now w := (0, w)
  update _ w := w
  exchange _ _ w := (none, w)
  grow n := n

/-- The second phase's check fails, everything else succeeds. -/
def secondDown : Calls Unit :=
  .constant (fun i => if i = 1 then some "down" else none) (fun _ => none) (fun _ => none)

/-- The first two phases of a node with a role. -/
def certsAndKubeconfig : List Phase :=
  [⟨"Generate certs / Send signing request to CA", genCertsPhaseOrder⟩,
    ⟨"Prepare configuration", kubeconfigPhaseOrder⟩]

def startConfig : Config := { defaultConfig with kubeServiceState := serviceStateTrue }

def stopConfig : Config := { defaultConfig with kubeServiceState := serviceStateFalse }

/-- A run that was evaluated from the state a process starts in. -/
theorem Calls.run_observed {W β : Type} (calls : Calls W) (phases : List Phase) (cfg : Config)
    (file : ExtensionFile) (w : W) (cfgs : List Config) (observe : State W → State W → β) (seen : β)
    (evaluated : (do
      let s₀ ← initial calls.env cfg phases file w
      let s ← Go.execute (reconcileStep calls.env phases) cfgs s₀
      return observe s₀ s).toOption = some seen) :
    ∃ s₀ s, initial calls.env cfg phases file w = .ok s₀ ∧
      Go.execute (reconcileStep calls.env phases) cfgs s₀ = .ok s ∧ observe s₀ s = seen := by
  obtain ⟨s₀, constructed, rest⟩ := Go.bind_ok (Go.ok_of_toOption evaluated)
  obtain ⟨s, ran, observed⟩ := Go.bind_ok rest
  exact ⟨s₀, s, constructed, ran, Except.ok.inj observed⟩

/-- The same with the status chain of one `Reconcile` more. -/
theorem Calls.status_observed {W β : Type} (calls : Calls W) (phases : List Phase) (cfg : Config)
    (file : ExtensionFile) (w : W) (cfgs : List Config) (observe : State W → State W → β) (seen : β)
    (evaluated : (do
      let s₀ ← initial calls.env cfg phases file w
      let s ← Go.execute (reconcileStep calls.env phases) cfgs s₀
      let (_, m) ← Nodelet.status calls.env cfg phases s
      return observe s m).toOption = some seen) :
    ∃ s₀ s m, initial calls.env cfg phases file w = .ok s₀ ∧
      Go.execute (reconcileStep calls.env phases) cfgs s₀ = .ok s ∧
      Nodelet.status calls.env cfg phases s = .ok ((), m) ∧ observe s m = seen := by
  obtain ⟨s₀, constructed, rest⟩ := Go.bind_ok (Go.ok_of_toOption evaluated)
  obtain ⟨s, ran, last⟩ := Go.bind_ok rest
  obtain ⟨⟨_, m⟩, checked, observed⟩ := Go.bind_ok last
  exact ⟨s₀, s, m, constructed, ran, checked, Except.ok.inj observed⟩

end Scenarios
end Nodelet
