import Nodelet.Reconcile.Persist

/-! The stop chain: downwards from the last phase, broken off by a failing phase
and ended early, with no record of it, where the certificates are kept. -/
namespace Nodelet
open Constants
open Go (Returns)

/-- The slices of phase names hold the phases, and the completed ones are their first. -/
structure Tracks (phases : List Phase) (s : State W) : Prop where
  fits : s.data.allPhases.Fits s.heap
  names : s.heap.read s.data.allPhases = phases.map Phase.name
  completed : s.data.completedPhases = .empty ∨
    ∃ k, k ≤ phases.length ∧ s.data.completedPhases = { s.data.allPhases with length := k }

namespace Tracks
variable {W : Type} {phases : List Phase} {s t : State W}

theorem length (tracks : Tracks phases s) : s.data.allPhases.length = phases.length := by
  rw [← tracks.fits.read_length, tracks.names, List.length_map]

theorem completed_isPrefix (tracks : Tracks phases s) :
    s.heap.read s.data.completedPhases <+: phases.map Phase.name := by
  rcases tracks.completed with none | ⟨k, short, first⟩
  · rw [none, Go.Heap.read_empty]
    exact List.nil_prefix
  · rw [first, Go.Heap.read_shorten (tracks.length ▸ short), tracks.names]
    exact List.take_prefix k _

theorem frame (tracks : Tracks phases s) (heap : t.heap = s.heap)
    (all : t.data.allPhases = s.data.allPhases)
    (completed : t.data.completedPhases = s.data.completedPhases) : Tracks phases t := by
  refine ⟨?_, ?_, ?_⟩
  · rw [heap, all]
    exact tracks.fits
  · rw [heap, all]
    exact tracks.names
  · rw [completed, all]
    exact tracks.completed

theorem reslice (tracks : Tracks phases s) (short : k ≤ phases.length) :
    s.data.allPhases.reslice 0 (k : Int) = .ok { s.data.allPhases with length := k } :=
  tracks.fits.reslice_prefix (tracks.length ▸ short)

end Tracks

/-- The decisions recorded when the stop chain down to phase `k` ended. -/
def Control.stopped (k : Nat) (c : Control) : Control :=
  if k = 0 then
    { c with serviceState := serviceStateFalse, startAttempts := 0, clusterID := "", clusterRole := "" }
  else { c with serviceState := serviceStateFalse }

@[simp] theorem Control.stopped_serviceState (k : Nat) (c : Control) :
    (c.stopped k).serviceState = serviceStateFalse := by
  unfold stopped
  split <;> rfl

/-- The loop of `Stop` down to phase `k` over the phases below an index: its calls,
from the highest phase on, and how it ends. -/
inductive StopChain (phases : List Phase) (k : Nat) (force : Bool) (c : Control) :
    Nat → List Event → StopLoop → Prop where
  | ended (below : m ≤ k) (err : Option Go.Error) : StopChain phases k force c m [] (.finished err)
  | kept (above : k ≤ i) (found : phases[i]? = some phase) (keeps : c.keepsCerts phase i) :
      StopChain phases k force c (i + 1) [] .skipped
  | stopped (above : k ≤ i) (found : phases[i]? = some phase) (taken : ¬ c.keepsCerts phase i)
      (goesOn : err = none ∨ force = true) (rest : StopChain phases k force c i stops result) :
      StopChain phases k force c (i + 1) (.stop i err :: stops) result
  | failed (above : k ≤ i) (found : phases[i]? = some phase) (taken : ¬ c.keepsCerts phase i)
      (breaks : force = false) (err : Go.Error) :
      StopChain phases k force c (i + 1) [.stop i (some err)] (.finished (some err))

/-- A call of a phase's stop in the chain down to phase `k`. -/
def StopCall (phases : List Phase) (k : Nat) (c : Control) (e : Event) : Prop :=
  ∃ i err phase, e = .stop i err ∧ k ≤ i ∧ phases[i]? = some phase ∧ ¬ c.keepsCerts phase i

/-- The chain went through: a phase failed to stop, or all were stopped from `k` on. -/
def StopEnded (phases : List Phase) (k m : Nat) (c : Control) (stops : List Event) : Prop :=
  (∃ i err, Event.stop i (some err) ∈ stops) ∨
    ∀ i phase, k ≤ i → i < m → phases[i]? = some phase →
      ¬ c.keepsCerts phase i ∧ .stop i none ∈ stops

namespace StopChain

theorem call (chain : StopChain phases k force c m stops result) :
    ∀ e ∈ stops, StopCall phases k c e := by
  induction chain with
  | ended | kept => simp
  | stopped above found taken _ _ ih =>
    exact List.forall_mem_cons.mpr ⟨⟨_, _, _, rfl, above, found, taken⟩, ih⟩
  | failed above found taken breaks err =>
    exact List.forall_mem_singleton.mpr ⟨_, _, _, rfl, above, found, taken⟩

theorem keeps (chain : StopChain phases k force c m stops .skipped) :
    ∃ i phase, k ≤ i ∧ phases[i]? = some phase ∧ c.keepsCerts phase i := by
  generalize skipped : StopLoop.skipped = result at chain
  induction chain with
  | ended | failed => contradiction
  | kept above found keeps => exact ⟨_, _, above, found, keeps⟩
  | stopped _ _ _ _ _ ih => exact ih skipped

theorem finish (chain : StopChain phases k force c m stops (.finished err)) :
    StopEnded phases k m c stops := by
  generalize finished : StopLoop.finished err = result at chain
  induction chain with
  | ended below => exact .inr fun i _ above under => absurd under (by omega)
  | kept => contradiction
  | @stopped idx phase err _ _ above found taken goesOn _ ih =>
    rcases ih finished with ⟨i, failure, failed⟩ | through
    · exact .inl ⟨i, failure, List.mem_cons_of_mem _ failed⟩
    · cases err with
      | some failure => exact .inl ⟨idx, failure, List.mem_cons_self⟩
      | none =>
        refine .inr fun i p above under here => ?_
        rcases Nat.lt_succ_iff_lt_or_eq.mp under with below | rfl
        · obtain ⟨notKept, stopped⟩ := through i p above below here
          exact ⟨notKept, List.mem_cons_of_mem _ stopped⟩
        · cases found.symm.trans here
          exact ⟨taken, List.mem_cons_self⟩
  | failed above found taken breaks failure => exact .inl ⟨_, failure, List.mem_singleton_self _⟩

theorem call_lt (chain : StopChain phases k force c m stops result)
    (member : .stop i err ∈ stops) : i < m := by
  induction chain with
  | ended | kept => contradiction
  | stopped _ _ _ _ _ ih =>
    rcases List.mem_cons.mp member with same | rest
    · cases same
      exact Nat.lt_succ_self _
    · exact Nat.lt_succ_of_lt (ih rest)
  | failed =>
    cases List.mem_singleton.mp member
    exact Nat.lt_succ_self _

theorem taken_above (chain : StopChain phases k force c m stops result)
    (member : .stop i err ∈ stops)
    (above : i < j) (inside : j < m) (found : phases[j]? = some phase) :
    ¬ c.keepsCerts phase j := by
  induction chain with
  | ended | kept => contradiction
  | @stopped idx _ _ _ _ _ here taken _ rest ih =>
    rcases List.mem_cons.mp member with same | inRest
    · cases same
      omega
    · rcases Nat.lt_succ_iff_lt_or_eq.mp inside with below | rfl
      · exact ih inRest below
      · cases here.symm.trans found
        exact taken
  | failed =>
    cases List.mem_singleton.mp member
    omega

theorem failure_last (chain : StopChain phases k false c m stops result)
    (failed : .stop i (some err) ∈ stops) (member : .stop j err' ∈ stops) : i ≤ j := by
  induction chain with
  | ended | kept => contradiction
  | stopped _ _ _ goesOn rest ih =>
    rcases List.mem_cons.mp failed with same | inRest
    · cases same
      simp at goesOn
    · rcases List.mem_cons.mp member with same | inRest'
      · cases same
        exact Nat.le_of_lt (rest.call_lt inRest)
      · exact ih inRest inRest'
  | failed =>
    cases List.mem_singleton.mp failed
    cases List.mem_singleton.mp member
    exact Nat.le_refl _

end StopChain

inductive StopOutcome (phases : List Phase) (k : Nat) (c : Control) (stops : List Event) :
    Control → Prop where
  | skipped (above : k ≤ i) (found : phases[i]? = some phase) (keeps : c.keepsCerts phase i) :
      StopOutcome phases k c stops c
  | finished (ended : StopEnded phases k phases.length c stops) :
    StopOutcome phases k c stops (c.stopped k)

/-- No phase after the first has the order of the certificates. -/
def CertsOnlyFirst (phases : List Phase) : Prop :=
  ∀ i phase, phases[i]? = some phase → phase.order = genCertsPhaseOrder → i = 0

/-- What `validatePhaseOrdering` accepts has the certificates at most once. -/
theorem CertsOnlyFirst.of_ordered (ordered : (first :: rest).Pairwise fun a b => a.order < b.order)
    (certs : first.order = genCertsPhaseOrder) : CertsOnlyFirst (first :: rest) := by
  intro i phase found order
  cases i with
  | zero => rfl
  | succ i =>
    have later := (List.pairwise_cons.mp ordered).1 phase (List.mem_of_getElem? found)
    omega

theorem StopOutcome.of_none_kept (outcome : StopOutcome phases k c stops c')
    (none : ∀ i phase, phases[i]? = some phase → ¬ c.keepsCerts phase i) : c' = c.stopped k := by
  cases outcome with
  | skipped above found keeps => exact absurd keeps (none _ _ found)
  | finished => rfl

theorem StopOutcome.of_first (outcome : StopOutcome phases k c stops c')
    (only : CertsOnlyFirst phases) (first : c.failedStatusCheck = 0) : c' = c.stopped k := by
  refine outcome.of_none_kept ?_
  rintro i phase found ⟨_, order, other⟩
  rw [only i phase found order] at other
  exact other first

theorem StopOutcome.of_stopping (outcome : StopOutcome phases k c stops c')
    (stopping : c.operation = .stop) : c' = c.stopped k := by
  refine outcome.of_none_kept ?_
  rintro i phase _ ⟨starting, _⟩
  rw [stopping] at starting
  contradiction

structure StopRun (env : Env W) (cfg : Config) (phases : List Phase) (k : Nat) (force : Bool)
    (s t : State W) (stops reports : List Event) : Prop where
  chain : ∃ result, StopChain phases k force s.data.control phases.length stops result
  outcome : StopOutcome phases k s.data.control stops t.data.control
  tracks : Tracks phases t
  reported : ∀ e ∈ reports, e.Reports cfg t.view
  advances : Advances env.Step s t (stops ++ reports)

theorem StopRun.calls (run : StopRun env cfg phases k force s t stops reports) :
    ∀ e ∈ stops, StopCall phases k s.data.control e := by
  obtain ⟨_, chain⟩ := run.chain
  exact chain.call

section Specs
variable {W : Type} {env : Env W} (cfg : Config) (phases : List Phase)
  (returning : env.Returning cfg phases.length)

include returning in
theorem stopLoop_spec (k m : Nat) (inside : m ≤ phases.length) (force : Bool)
    (err : Option Go.Error) (s : State W) :
    Returns (stopLoop env cfg phases k force m err) s fun result t => ∃ stops,
      Advances env.Step s t stops ∧ t.data = s.data ∧
      StopChain phases k force s.data.control m stops result := by
  induction m generalizing err s with
  | zero => exact Returns.pure ⟨[], .refl s, rfl, .ended (Nat.zero_le _) err⟩
  | succ idx ih =>
    unfold stopLoop
    apply Returns.ite
    · intro below
      exact Returns.pure ⟨[], .refl s, rfl, .ended (by omega) err⟩
    · intro notBelow
      have above : k ≤ idx := by omega
      have found : phases[idx]? = some phases[idx] := List.getElem?_eq_getElem inside
      refine Returns.lift_bind (Go.index_eq inside) ?_
      apply Returns.get_bind
      apply Returns.ite
      · intro keeps
        exact Returns.pure ⟨[], .refl s, rfl, .kept above found keeps⟩
      · intro taken
        refine returns_callPhase_bind (returning.stop idx inside _) fun err world called => ?_
        -- the loop goes on below with the same data
        have goesOn : err = none ∨ force = true → ∀ err', Returns (stopLoop env cfg phases k force idx err')
            { s with world := world, trace := s.trace ++ [.stop idx err] } fun result t => ∃ stops,
              Advances env.Step s t stops ∧ t.data = s.data ∧
              StopChain phases k force s.data.control (idx + 1) stops result := by
          intro allowed err'
          refine (ih (Nat.le_of_succ_le inside) err' _).weaken ?_
          rintro result t ⟨stops, advances, data, chain⟩
          exact ⟨_, .call (.stop called) advances, data, .stopped above found taken allowed chain⟩
        cases err with
        | none => exact goesOn (.inl rfl) none
        | some failure =>
          apply Returns.ite
          · intro forced
            exact goesOn (.inr forced) (some failure)
          · intro unforced
            have breaks : force = false := by simpa using unforced
            exact Returns.pure ⟨_, .call (.stop called) (.refl _), rfl, .failed above found taken breaks failure⟩

theorem recordStopped_spec (s : State W) (tracks : Tracks phases s) (inside : k ≤ phases.length) :
    Returns (recordStopped env cfg k) s fun _ t => ∃ reports,
      Advances env.Observe s t reports ∧ t.data.control = s.data.control.stopped k ∧
      Tracks phases t ∧ ∀ e ∈ reports, e.Reports cfg t.view := by
  have persist : ∀ d, d.control = s.data.control.stopped k → Tracks phases { s with data := d } →
      Returns (tryToPersistStatus env cfg) { s with data := d } fun _ t => ∃ reports,
        Advances env.Observe s t reports ∧ t.data.control = s.data.control.stopped k ∧
        Tracks phases t ∧ ∀ e ∈ reports, e.Reports cfg t.view := by
    intro d control tracked
    refine (tryToPersistStatus_spec env cfg _).weaken ?_
    rintro _ t ⟨reports, persisted, -⟩
    refine ⟨reports, persisted.advances.of_data, persisted.control.trans control, ?_, ?_⟩
    · exact tracked.frame persisted.advances.heap (congrArg Control.allPhases persisted.control)
        persisted.completed
    · exact persisted.view ▸ persisted.reported
  unfold recordStopped
  apply returns_modifyData_bind
  apply Returns.get_bind
  refine Returns.lift_bind (tracks.reslice inside) ?_
  apply returns_modifyData_bind
  apply Returns.ite
  · intro completely
    have zero : k = 0 := by omega
    exact persist _ (if_pos zero).symm ⟨tracks.fits, tracks.names, .inl rfl⟩
  · intro partly
    have positive : k ≠ 0 := by omega
    exact persist _ (if_neg positive).symm ⟨tracks.fits, tracks.names, .inr ⟨k, inside, rfl⟩⟩

include returning in
theorem stop_spec (force : Bool) (s : State W) (tracks : Tracks phases s)
    (inside : k < phases.length) :
    Returns (stop env cfg phases k force) s fun _ t => ∃ stops reports,
      StopRun env cfg phases k force s t stops reports := by
  unfold stop
  refine Returns.lift_bind (Go.index_eq inside) ?_
  refine (stopLoop_spec cfg phases returning k phases.length (Nat.le_refl _) force none s).bind ?_
  rintro result t ⟨stops, advances, data, chain⟩
  have tracked : Tracks phases t := tracks.frame advances.heap (by rw [data]) (by rw [data])
  cases result with
  | skipped =>
    obtain ⟨i, phase, above, found, keeps⟩ := chain.keeps
    refine Returns.pure ⟨stops, [], ⟨_, chain⟩, ?_, tracked, by simp, by simpa using advances⟩
    rw [data]
    exact .skipped above found keeps
  | finished err =>
    refine (recordStopped_spec cfg phases t tracked (Nat.le_of_lt inside)).bind ?_
    rintro _ u ⟨reports, recorded, control, retracked, reported⟩
    refine Returns.pure ⟨stops, reports, ⟨_, chain⟩, ?_, retracked, reported, ?_⟩
    · rw [control, data]
      exact .finished chain.finish
    · exact advances.trans (recorded.mono fun _ _ => .observe)

end Specs
end Nodelet
