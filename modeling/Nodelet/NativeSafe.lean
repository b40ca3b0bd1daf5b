import Nodelet.Kubelet.Panics
import Nodelet.NativePhases

/-! Where an operation of a phase implemented in Go returns, and what becomes of the client that
the phase keeps. The partial operations are few: the first line of two commands of containerd, the
outputs that the kubelet utilities look at, and a client that could not be created. -/
namespace Nodelet.NativePhase
open Constants Go.Procedure

/-- The commands have printed what an operation reads of them. -/
structure Calls.Safe {Data : Type} (calls : Calls Data) : Prop where
  version : calls.runCommand versionCommand ≠ .exited []
  active : calls.runCommand (actionCommand isActiveOp) ≠ .exited []
  kubelet : ∀ request, Kubelet.Safe ⟨request, calls.kubelet request⟩

theorem Calls.succeeding_safe (Data : Type) : (Calls.succeeding Data).Safe where
  version := nofun
  active := nofun
  kubelet request := by
    cases request with
    | runCommandWithStdErr command => exact fun failed => absurd rfl failed
    | runCommandWithStdOutStdErr command =>
      have stated : Kubelet.Output.Stated ⟨0, ["active"], [], none⟩ := ⟨nofun, by simp⟩
      have explained : Kubelet.Output.Explained ⟨0, ["active"], [], none⟩ :=
        fun failed => absurd rfl failed
      unfold Kubelet.Safe
      dsimp only
      split
      · exact stated
      · exact explained
    | _ => trivial

/-- With this client the program returns, unless it may halt, and it keeps the client. -/
def Steady (halts : Prop) (client : Client) (program : Operation α) : Prop :=
  ∀ s, s.client = client →
    Settles halts program s (fun _ t => t.client = client) fun t => t.client = client

namespace Steady
variable {α β : Type} {halts : Prop} {client : Client} {program : Operation α}

theorem pure (value : α) : Steady halts client (pure value : Operation α) := fun _ same => same

theorem throw (err : Go.Error) : Steady halts client (throw err : Operation α) := fun _ same => same

theorem setHostStatus (status message : String) :
    Steady halts client (setHostStatus status message) := fun _ same => same

theorem bind {next : α → Operation β} (first : Steady halts client program)
    (rest : ∀ value, Steady halts client (next value)) : Steady halts client (program >>= next) :=
  fun s same => (first s same).bind fun value t => rest value t

theorem reporting (steady : Steady halts client program) :
    Steady halts client (reporting program) :=
  fun s same => (steady s same).tryCatch fun _ _ kept => kept

theorem reportStopped (message : Go.Error → String) (steady : Steady halts client program) :
    Steady halts client (DrainNodePhase.reportStopped message program) :=
  fun s same => (steady s same).tryCatch fun _ _ kept => kept

theorem failWith (message : String) (err : Go.Error) :
    Steady halts client (failWith message err) := fun _ same => same

theorem orFail (fault : Option Go.Error) : Steady halts client (orFail fault) := by
  cases fault with
  | none => exact pure ()
  | some err => exact throw err

theorem lift (outcome : Except Go.Error α) : Steady halts client (liftM outcome : Operation α) := by
  cases outcome with
  | ok value => exact pure value
  | error err => exact throw err

theorem ite {condition : Prop} [Decidable condition] {no : Operation α}
    (yes : Steady halts client program) (otherwise : Steady halts client no) :
    Steady halts client (if condition then program else no) := by
  split
  · exact yes
  · exact otherwise

theorem first {stdOut : List String} (printed : stdOut = [] → halts) :
    Steady halts client (liftM (Go.index stdOut 0) : Operation String) := by
  intro s same
  cases stdOut with
  | nil => exact printed rfl
  | cons line rest => exact same

theorem onClient (outcome : Except Go.Error α) : Steady halts .ready (onClient outcome) := by
  rintro ⟨phase, _⟩ rfl
  exact lift outcome _ rfl

theorem onNode (fault : Option Go.Error) : Steady halts .ready (onNode fault) := onClient _

end Steady

section Phases
variable {Data : Type} (calls : Calls Data) (cfg : Config) {client : Client} {halts : Prop}

theorem steady_kubelet {program : Kubelet.Operation α}
    (guarded : Go.Faulty.Guarded Kubelet.Safe program.run) :
    Steady (¬ calls.Safe) client (kubelet calls program) := by
  intro s same
  unfold kubelet
  split
  · exact same
  · exact same
  · rename_i cause panicked
    exact fun safe => guarded.eval safe.kubelet ⟨cause, panicked⟩

theorem steady_runAction (action : String) : Steady halts client (runAction calls action) := by
  unfold runAction
  split
  · exact .pure _
  · exact .throw _

theorem steady_getNodeIdentifier : Steady halts client (getNodeIdentifier calls) := by
  refine (Steady.lift _).reporting.bind fun nodeIdentifier => ?_
  dsimp only
  split
  · exact (Steady.failWith _ _).bind fun _ => .pure _
  · exact .pure _

theorem ContainerdConfigPhase.steady_start :
    Steady (¬ calls.Safe) client (ContainerdConfigPhase.start calls) := by
  have installed : Steady (¬ calls.Safe) client (checkInstalled calls) := by
    unfold checkInstalled
    split
    · exact .failWith _ _
    · rename_i stdOut ran
      refine (Steady.first fun empty safe => ?_).bind fun _ => .pure _
      subst empty
      exact safe.version ran
  have configured : Steady (¬ calls.Safe) client (configureCgroup calls) := by
    unfold configureCgroup
    split
    · exact .failWith _ _
    · refine .ite (.pure _) ?_
      split
      · exact .failWith _ _
      · exact .pure _
  exact installed.bind fun _ => configured.bind fun _ => .setHostStatus _ _

namespace ContainerdRunPhase

theorem steady_status : Steady (¬ calls.Safe) client (ContainerdRunPhase.status calls) := by
  -- the lines that are looked at are those of the command
  have read : ∀ s, s.client = client →
    Settles (¬ calls.Safe) (reporting (runAction calls isActiveOp)) s
      (fun output t => t.client = client ∧ (output = [] → ¬ calls.Safe)) fun t => t.client = client := by
    intro s same
    have called : Settles (¬ calls.Safe) (runAction calls isActiveOp) s
        (fun output t => t.client = client ∧ (output = [] → ¬ calls.Safe)) fun t => t.client = client := by
      unfold runAction
      split
      · rename_i stdOut ran
        refine ⟨same, fun empty safe => ?_⟩
        subst empty
        exact safe.active ran
      · exact same
    exact called.tryCatch fun err t kept => kept
  intro s same
  refine (read s same).bind ?_
  rintro output t ⟨kept, printed⟩
  refine ((Steady.first printed).bind fun state => ?_) t kept
  exact .ite (.setHostStatus _ _) (.failWith _ _)

theorem steady_start : Steady halts client (ContainerdRunPhase.start calls) := by
  have owned : Steady halts client (ownSocket calls) := by
    unfold ownSocket
    split
    · exact .pure _
    · exact .failWith _ _
  exact (steady_runAction calls _).reporting.bind fun _ => owned.bind fun _ => .setHostStatus _ _

theorem steady_stop : Steady halts client (ContainerdRunPhase.stop calls) := by
  have removed : Steady halts client (removeNerdctlDir calls) := by
    unfold removeNerdctlDir
    split
    · exact .pure _
    · exact .failWith _ _
  unfold ContainerdRunPhase.stop
  split
  · exact .setHostStatus _ _
  · refine (Steady.orFail _).reporting.bind fun _ => ?_
    refine (Steady.orFail _).reporting.bind fun _ => ?_
    refine removed.bind fun _ => ?_
    exact (steady_runAction calls _).reporting.bind fun _ => .setHostStatus _ _

end ContainerdRunPhase

namespace LoadImagePhase

theorem steady_withDirectories (program : LoadImages.Operation Data Unit) :
    Steady halts client (withDirectories calls program) := by
  intro s same
  unfold Settles result withDirectories
  rcases program.result ⟨calls.imageDirectories, s.phase⟩ with ⟨_ | _, host⟩
  · exact same
  · exact same

theorem steady_status : Steady halts client (LoadImagePhase.status calls cfg) :=
  steady_withDirectories calls _

theorem steady_start : Steady halts client (LoadImagePhase.start calls cfg) :=
  steady_withDirectories calls _

end LoadImagePhase

namespace KubeletConfigureStartPhase

theorem steady_status : Steady (¬ calls.Safe) client (KubeletConfigureStartPhase.status calls) := by
  refine (steady_kubelet calls Kubelet.guarded_isKubeletRunning).bind fun active => ?_
  exact .ite (.setHostStatus _ _) (Steady.throw _).reporting

theorem steady_start :
    Steady (¬ calls.Safe) client (KubeletConfigureStartPhase.start calls cfg) := by
  refine (steady_kubelet calls
    (Kubelet.guarded_ensureKubeletRunning calls.sprintf cfg)).reporting.bind ?_
  exact fun _ => .setHostStatus _ _

theorem steady_stop : Steady (¬ calls.Safe) client (KubeletConfigureStartPhase.stop calls) := by
  exact (steady_kubelet calls Kubelet.guarded_ensureKubeletStopped).reporting.bind fun _ =>
    .setHostStatus _ _

end KubeletConfigureStartPhase

/-- The program has left a client, or an error because none could be created. -/
def Refreshes (halts : Prop) (program : Operation Unit) (s : State) : Prop :=
  Settles halts program s (fun _ t => t.client = .ready)
    fun t => t.client = .ready ∨ calls.newClient ≠ none

variable {s : State} {phase : NativePhase}

theorem refreshClient_refreshes {stale : Client → Bool}
    (fresh : stale s.client = false → s.client = .ready) :
    Refreshes calls halts (refreshClient calls stale) s := by
  have created : Refreshes calls halts (createClient calls) s := by
    unfold createClient
    split
    · rename_i err failed
      exact .inr (by simp [failed])
    · exact rfl
  change Refreshes calls halts (if stale s.client = true then createClient calls else pure ()) s
  split
  · exact created
  · exact fresh (Bool.of_not_eq_true ‹_›)

namespace Refreshes
variable {calls} {s : State} {program : Operation Unit}

theorem reporting (refreshes : Refreshes calls halts program s) :
    Refreshes calls halts (reporting program) s :=
  refreshes.tryCatch fun _ _ failed => failed

theorem reportStopped {message : Go.Error → String} (refreshes : Refreshes calls halts program s) :
    Refreshes calls halts (DrainNodePhase.reportStopped message program) s :=
  refreshes.tryCatch fun _ _ failed => failed

theorem bind {next : Unit → Operation Unit} (refreshes : Refreshes calls halts program s)
    (rest : ∀ value, Steady halts .ready (next value)) :
    Refreshes calls halts (program >>= next) s :=
  Settles.bind refreshes fun value t ready =>
    (rest value t ready).weaken (fun _ _ kept => kept) (fun _ => .inl) id

end Refreshes

theorem refreshed (s : State) :
    Refreshes calls halts (reporting (refreshClient calls isInterfaceNil)) s :=
  (refreshClient_refreshes calls (by simp [isInterfaceNil])).reporting

/-- A client that is a nil pointer was one before, or is what a creation left. -/
def Kept (s t : State) : Prop := t.client = .null → s.client = .null ∨ calls.newClient ≠ none

/-- The program returns, unless it may halt, and the client is accounted for. -/
def Accounts (halts : Prop) (program : Operation Unit) (s : State) : Prop :=
  Settles halts program s (fun _ => Kept calls s) (Kept calls s)

section Accounts
variable {calls} {s : State} {program : Operation Unit}

theorem Steady.accounts (steady : ∀ client, Steady halts client program) :
    Accounts calls halts program s :=
  (steady s.client s rfl).weaken (fun _ _ same null => .inl (same.symm.trans null))
    (fun _ same null => .inl (same.symm.trans null)) id

theorem Refreshes.accounts (refreshes : Refreshes calls halts program s) :
    Accounts calls halts program s := by
  refine refreshes.weaken (fun _ t ready null => ?_) (fun t left null => .inr ?_) id
  · rw [ready] at null
    contradiction
  · rcases left with ready | failed
    · rw [ready] at null
      contradiction
    · exact failed

theorem Accounts.weaken {allowed : Prop} (accounts : Accounts calls halts program s)
    (implies : halts → allowed) : Accounts calls allowed program s :=
  Settles.weaken accounts (fun _ _ => id) (fun _ => id) implies

end Accounts

theorem MiscPhase.status_accounts (s : State) :
    Accounts calls halts (MiscPhase.status calls) s := by
  have identified : Settles halts (getNodeIdentifier calls) s
      (fun _ t => t.client = s.client) (Kept calls s) :=
    (steady_getNodeIdentifier calls s rfl).weaken (fun _ _ => id)
      (fun _ same null => .inl (same.symm.trans null)) id
  refine identified.bind fun nodeIdentifier t same => ?_
  have looked : Refreshes calls halts (do
      reporting (refreshClient calls isInterfaceNil)
      reporting (orFail calls.k8sApiAvailable)
      let _ ← onClient (calls.getNodeFromK8sApi nodeIdentifier)
      running) t := by
    refine (refreshed calls t).bind fun _ => ?_
    refine (Steady.orFail _).reporting.bind fun _ => ?_
    exact (Steady.onClient _).bind fun _ => .setHostStatus _ _
  have kept (u : State) (since : Kept calls t u) : Kept calls s u := by rwa [Kept, ← same]
  exact Settles.weaken looked.accounts (fun _ => kept) kept id

theorem MiscPhase.start_refreshes (s : State) :
    Refreshes calls halts (MiscPhase.start calls cfg) s := by
  have written : Steady halts .ready (writeCloudProviderConfig calls cfg) :=
    .ite (.pure _) (.orFail _)
  exact (refreshed calls s).bind fun _ => written.bind fun _ => .setHostStatus _ _

theorem LabelTaintNodePhase.start_refreshes (s : State) :
    Refreshes calls halts (LabelTaintNodePhase.start calls cfg) s := by
  refine (refreshed calls s).bind fun _ => ?_
  refine (steady_getNodeIdentifier calls).bind fun nodeIdentifier => ?_
  refine (Steady.onNode _).reporting.bind fun _ => ?_
  exact .ite ((Steady.onNode _).reporting.bind fun _ => .setHostStatus _ _) (.setHostStatus _ _)

namespace UncordonNodePhase

theorem status_refreshes (s : State) :
    Refreshes calls halts (UncordonNodePhase.status calls) s := by
  have marked (nodeIdentifier : String) (node : Cordon.Node) :
      Steady halts .ready (mark calls nodeIdentifier node) :=
    .ite (.pure _) (.ite (Steady.onNode _).reporting (Steady.onNode _).reporting)
  refine (refreshed calls s).bind fun _ => ?_
  refine (Steady.lift _).reporting.bind fun nodeIdentifier => ?_
  refine .ite ?_ (.setHostStatus _ _)
  refine (Steady.onClient _).reporting.bind fun node => ?_
  exact (marked nodeIdentifier node).bind fun _ => .setHostStatus _ _

/-- Only here a client that could not be created is dereferenced. -/
theorem start_accounts (s : State) :
    Accounts calls (s.client = .null) (UncordonNodePhase.start calls) s := by
  by_cases null : s.client = .null
  · exact Settles.trivial.weaken (fun _ _ _ _ => .inl null) (fun _ _ _ => .inl null) fun _ => null
  · have uncordoned (nodeIdentifier : String) :
        Steady (s.client = .null) .ready (uncordon calls nodeIdentifier) :=
      (Steady.onNode _).reporting.bind fun _ => (Steady.orFail _).reporting
    have fresh : decide (s.client = .unset) = false → s.client = .ready := by
      cases client : s.client with
      | unset => simp
      | null => exact absurd client null
      | ready => simp
    refine Refreshes.accounts ?_
    refine (refreshClient_refreshes calls fresh).reporting.bind fun _ => ?_
    refine (steady_getNodeIdentifier calls).bind fun nodeIdentifier => ?_
    refine (Steady.onNode _).reporting.bind fun _ => ?_
    refine (Steady.onClient _).reporting.bind fun node => ?_
    exact .ite ((uncordoned nodeIdentifier).bind fun _ => .setHostStatus _ _) (.setHostStatus _ _)

end UncordonNodePhase

theorem DrainNodePhase.steady_start : Steady halts client (DrainNodePhase.start calls) := by
  unfold DrainNodePhase.start
  split
  · exact (Steady.throw _).reporting
  · exact .setHostStatus _ _

theorem DrainNodePhase.stop_refreshes (s : State) :
    Refreshes calls halts (DrainNodePhase.stop calls) s := by
  refine (refreshClient_refreshes calls (by simp [isInterfaceNil])).reportStopped.bind fun _ => ?_
  refine ((Steady.orFail _).reportStopped _).bind fun _ => ?_
  refine ((Steady.lift _).reportStopped _).bind fun nodeIdentifier => ?_
  refine ((Steady.onNode _).reportStopped _).bind fun _ => ?_
  exact ((Steady.onNode _).reportStopped _).bind fun _ => .setHostStatus _ _

/-- What halts an operation: a command that printed nothing, or a client that could not be
created. -/
def Halts (phase : NativePhase) (s : State) : Prop :=
  ¬ calls.Safe ∨ phase = .uncordonNode ∧ s.client = .null

theorem Accounts.of_calls {program : Operation Unit}
    (accounts : Accounts calls (¬ calls.Safe) program s) :
    Accounts calls (Halts calls phase s) program s :=
  accounts.weaken .inl

theorem status_accounts (phase : NativePhase) (s : State) :
    Accounts calls (Halts calls phase s) (phase.status calls cfg) s := by
  cases phase with
  | containerdRun =>
    exact .of_calls _ (Steady.accounts fun _ => ContainerdRunPhase.steady_status calls)
  | loadImage => exact Steady.accounts fun _ => LoadImagePhase.steady_status calls cfg
  | misc => exact MiscPhase.status_accounts calls s
  | kubeletConfigureStart =>
    exact .of_calls _ (Steady.accounts fun _ => KubeletConfigureStartPhase.steady_status calls)
  | uncordonNode => exact (UncordonNodePhase.status_refreshes calls s).accounts
  | _ => exact Steady.accounts fun _ => Steady.setHostStatus _ _

theorem start_accounts (phase : NativePhase) (s : State) :
    Accounts calls (Halts calls phase s) (phase.start calls cfg) s := by
  cases phase with
  | containerdConfig =>
    exact .of_calls _ (Steady.accounts fun _ => ContainerdConfigPhase.steady_start calls)
  | containerdRun => exact Steady.accounts fun _ => ContainerdRunPhase.steady_start calls
  | loadImage => exact Steady.accounts fun _ => LoadImagePhase.steady_start calls cfg
  | misc => exact (MiscPhase.start_refreshes calls cfg s).accounts
  | kubeletConfigureStart =>
    exact .of_calls _ (Steady.accounts fun _ => KubeletConfigureStartPhase.steady_start calls cfg)
  | labelTaintNode => exact (LabelTaintNodePhase.start_refreshes calls cfg s).accounts
  | uncordonNode =>
    exact (UncordonNodePhase.start_accounts calls s).weaken fun null => .inr ⟨rfl, null⟩
  | deployAppCatalog =>
    refine ((refreshed calls s).bind fun _ => ?_).accounts
    exact .ite ((Steady.orFail _).reporting.bind fun _ => .setHostStatus _ _) (.setHostStatus _ _)
  | pf9CoreDNS =>
    refine ((refreshed calls s).bind fun _ => ?_).accounts
    exact (Steady.orFail _).reporting.bind fun _ => .setHostStatus _ _
  | drainNode => exact Steady.accounts fun _ => DrainNodePhase.steady_start calls

theorem stop_accounts (phase : NativePhase) (s : State) :
    Accounts calls (Halts calls phase s) (phase.stop calls) s := by
  cases phase with
  | containerdRun => exact Steady.accounts fun _ => ContainerdRunPhase.steady_stop calls
  | kubeletConfigureStart =>
    exact .of_calls _ (Steady.accounts fun _ => KubeletConfigureStartPhase.steady_stop calls)
  | drainNode => exact (DrainNodePhase.stop_refreshes calls s).accounts
  | _ => exact Steady.accounts fun _ => Steady.setHostStatus _ _

theorem operate_accounts (phase : NativePhase) (op : PhaseOp) (s : State) :
    Accounts calls (Halts calls phase s) (phase.operate calls cfg op) s := by
  cases op with
  | status => exact status_accounts calls cfg phase s
  | start => exact start_accounts calls cfg phase s
  | stop => exact stop_accounts calls phase s

theorem operate_kept
    {returned : Except Go.Error Unit}
    (ran : (phase.operate calls cfg op).result s = .ok (returned, t)) : Kept calls s t := by
  have accounts :
      Settles (Halts calls phase s) (phase.operate calls cfg op) s (fun _ =>
        Kept calls s) (Kept calls s) :=
    operate_accounts calls cfg phase op s
  rcases returned with err | value
  · exact accounts.threw ran
  · exact accounts.returned ran

theorem operate_returns (safe : calls.Safe) (client : phase = .uncordonNode → s.client ≠ .null)
    (op : PhaseOp) : ∃ reply, (phase.operate calls cfg op).result s = .ok reply := by
  cases ran : (phase.operate calls cfg op).result s with
  | ok reply => exact ⟨reply, rfl⟩
  | error halt =>
    rcases Settles.halted (operate_accounts calls cfg phase op s) ran with unprinted | ⟨same, null⟩
    · exact absurd safe unprinted
    · exact absurd null (client same)

end Phases
end Nodelet.NativePhase
