import Nodelet.Reconcile.Stop

/-! The start chain: upwards from a phase until one fails. The completed phases
are a slice of the array of all phases, and appending to it rewrites each name
with itself. -/
namespace Nodelet
open Constants
open Go (Returns)

def Event.isCall : Event → Bool
  | .status _ _ | .start _ _ | .stop _ _ => true
  | _ => false

/-- The calls of phases among these events. -/
def phaseCalls (events : List Event) : List Event := events.filter Event.isCall

theorem phaseCalls_append (first second : List Event) :
    phaseCalls (first ++ second) = phaseCalls first ++ phaseCalls second :=
  List.filter_append ..

/-- A report is no call of a phase. -/
theorem phaseCalls_reports (reported : ∀ e ∈ events, ∃ view, e.Reports cfg view) :
    phaseCalls events = [] := by
  refine List.filter_eq_nil_iff.mpr fun e member call => ?_
  obtain ⟨_, report⟩ := reported e member
  cases e with
  | status | start | stop => exact report
  | persist | write | update | exchange | statusCall => contradiction

/-- The start chain from phase `i` on: one phase after the other, until one fails. -/
inductive Climb (count : Nat) : Nat → List Event → Nat × Option Go.Error → Prop where
  | top : Climb count count [] (count, none)
  | next (below : i < count) (rest : Climb count (i + 1) starts result) :
      Climb count i (.start i none :: starts) result
  | failed (below : i < count) (err : Go.Error) : Climb count i [.start i (some err)] (i, some err)

theorem Climb.above (climb : Climb count i starts result) : i ≤ result.1 := by
  induction climb with
  | top | failed => exact Nat.le_refl _
  | next _ _ ih => exact Nat.le_of_succ_le ih

/-- All phases were started, or one failed to. -/
theorem Climb.outcome (climb : Climb count i starts result) : result.2 = none ∧ result.1 = count ∨
    ∃ err, result.2 = some err ∧ result.1 < count ∧ .start result.1 (some err) ∈ starts := by
  induction climb with
  | top => exact .inl ⟨rfl, rfl⟩
  | next _ _ ih =>
    refine ih.imp_right ?_
    rintro ⟨err, failed, below, member⟩
    exact ⟨err, failed, below, List.mem_cons_of_mem _ member⟩
  | failed below err => exact .inr ⟨err, rfl, below, List.mem_singleton_self _⟩

/-- What the start chain from phase `k` on shows until it returns `result`. -/
inductive StartEvent (cfg : Config) (phases : List Phase) (k : Nat) (c : Control)
    (result : Nat × Option Go.Error) : Event → Prop where
  | started (above : k ≤ i) (below : i < result.1) :
    StartEvent cfg phases k c result (.start i none)
  | failed (err : Go.Error) (last : result.2 = some err) :
      StartEvent cfg phases k c result (.start result.1 (some err))
  | reported (m : Nat)
    (report : e.Reports cfg ⟨c, phases.map Phase.name, (phases.map Phase.name).take m⟩) :
      StartEvent cfg phases k c result e

theorem StartEvent.from_lower (event : StartEvent cfg phases (k + 1) c result e) :
    StartEvent cfg phases k c result e := by
  cases event with
  | started above below => exact .started (Nat.le_of_succ_le above) below
  | failed err last => exact .failed err last
  | reported m report => exact .reported m report

structure StartRun (env : Env W) (cfg : Config) (phases : List Phase) (k : Nat) (s t : State W)
    (result : Nat × Option Go.Error) (events : List Event) : Prop where
  advances : Advances env.Step s t events
  control : t.data.control = s.data.control
  completed : t.data.completedPhases = { s.data.allPhases with length := result.1 }
  climb : Climb phases.length k (phaseCalls events) result
  shown : ∀ e ∈ events, StartEvent cfg phases k s.data.control result e

/-- The completed phases are the first `i`. -/
structure TracksFirst (phases : List Phase) (i : Nat) (s : State W) : Prop where
  fits : s.data.allPhases.Fits s.heap
  names : s.heap.read s.data.allPhases = phases.map Phase.name
  inside : i ≤ phases.length
  first : s.data.completedPhases = { s.data.allPhases with length := i }

namespace TracksFirst
variable {W : Type} {phases : List Phase} {s t : State W} {i : Nat}

theorem tracks (first : TracksFirst phases i s) : Tracks phases s :=
  ⟨first.fits, first.names, .inr ⟨i, first.inside, first.first⟩⟩

theorem view (first : TracksFirst phases i s) :
    s.view = ⟨s.data.control, phases.map Phase.name, (phases.map Phase.name).take i⟩ := by
  have short : i ≤ s.data.allPhases.length := first.tracks.length ▸ first.inside
  simp only [State.view, State.snapshot, Snapshot.view, first.first, Go.Heap.read_shorten short,
    first.names]

theorem frame (first : TracksFirst phases i s) (heap : t.heap = s.heap)
    (all : t.data.allPhases = s.data.allPhases)
    (completed : t.data.completedPhases = s.data.completedPhases) : TracksFirst phases i t := by
  refine ⟨?_, ?_, first.inside, ?_⟩
  · rw [heap, all]
    exact first.fits
  · rw [heap, all]
    exact first.names
  · rw [completed, all]
    exact first.first

theorem appended (first : TracksFirst phases i s) (below : i < phases.length) (grow : Nat → Nat) :
    s.heap.append grow s.data.completedPhases phases[i].name =
      (s.heap, { s.data.allPhases with length := i + 1 }) := by
  rw [first.first]
  apply first.fits.append_prefix
  · exact first.tracks.length ▸ below
  · rw [first.names, List.getElem?_map, List.getElem?_eq_getElem below]
    rfl

end TracksFirst

theorem StartRun.tracksFirst (run : StartRun env cfg phases k s t result events)
    (tracks : Tracks phases s) : TracksFirst phases result.1 t := by
  have sameAll : t.data.allPhases = s.data.allPhases := congrArg Control.allPhases run.control
  have inside : result.1 ≤ phases.length := by
    rcases run.climb.outcome with ⟨_, all⟩ | ⟨_, _, below, _⟩ <;> omega
  refine ⟨?_, ?_, inside, ?_⟩
  · rw [run.advances.heap, sameAll]
    exact tracks.fits
  · rw [run.advances.heap, sameAll]
    exact tracks.names
  · rw [run.completed, sameAll]

section Specs
variable {W : Type} {env : Env W} (cfg : Config) (phases : List Phase)

theorem persist_start_spec (s : State W) (first : TracksFirst phases i s) (d : ExtensionData)
    (control : d.control = s.data.control)
    (completed : d.completedPhases = s.data.completedPhases) :
    Returns (tryToPersistStatus env cfg) { s with data := d } fun _ t => ∃ reports,
      Advances env.Step s t reports ∧ t.data.control = s.data.control ∧ TracksFirst phases i t ∧
      phaseCalls reports = [] ∧
      ∀ k result, ∀ e ∈ reports, StartEvent cfg phases k s.data.control result e := by
  have changed : TracksFirst phases i { s with data := d } :=
    first.frame rfl (congrArg Control.allPhases control) completed
  refine (tryToPersistStatus_spec env cfg _).weaken ?_
  rintro _ t ⟨reports, persisted, -⟩
  refine ⟨reports, persisted.steps.of_data,
    persisted.control.trans control, ?_, phaseCalls_reports fun e member =>
      ⟨_, persisted.reported e member⟩, ?_⟩
  · exact changed.frame persisted.advances.heap (congrArg Control.allPhases persisted.control)
      persisted.completed
  · intro k result e member
    exact .reported i (control ▸ changed.view ▸ persisted.reported e member)

variable (returning : env.Returning cfg phases.length)
include returning

theorem startLoop_spec (fuel i : Nat) (s : State W) (first : TracksFirst phases i s)
    (enough : phases.length ≤ i + fuel) :
    Returns (startLoop env cfg phases fuel i) s fun result t => ∃ events,
      StartRun env cfg phases i s t result events := by
  induction fuel generalizing i s with
  | zero =>
    obtain rfl : i = phases.length := Nat.le_antisymm first.inside enough
    exact Returns.pure ⟨[], .refl s, rfl, first.first, .top, by simp⟩
  | succ fuel ih =>
    unfold startLoop
    apply Returns.ite
    · intro below
      refine Returns.lift_bind (Go.index_eq below) ?_
      apply returns_modifyData_bind
      refine (persist_start_spec cfg phases s first _ ?_ ?_).bind ?_
      · rfl
      · rfl
      rintro _ t ⟨reports, advances, control, firstT, quiet, reported⟩
      refine returns_callPhase_bind (returning.start i below _) fun err world called => ?_
      have firstC : TracksFirst phases i { t with world := world, trace := t.trace ++ [.start i err] } :=
        firstT.frame rfl rfl rfl
      have sameAll : t.data.allPhases = s.data.allPhases := congrArg Control.allPhases control
      cases err with
      | some err =>
        apply returns_modifyData_bind
        refine (persist_start_spec cfg phases _ firstC _ ?_ ?_).bind ?_
        · rfl
        · rfl
        rintro _ u ⟨later, advances', control', firstU, quiet', reported'⟩
        have control'' : u.data.control = s.data.control := control'.trans control
        have calls : phaseCalls (reports ++ .start i (some err) :: later) = [.start i (some err)] := by
          rw [phaseCalls_append, quiet, List.nil_append, phaseCalls, List.filter_cons_of_pos rfl,
            ← phaseCalls, quiet']
        refine Returns.pure ⟨reports ++ .start i (some err) :: later, ?_, control'', ?_,
          calls ▸ .failed below err, ?_⟩
        · exact advances.trans (.call (.start called) advances')
        · rw [firstU.first, show u.data.allPhases = s.data.allPhases from congrArg Control.allPhases control'']
        · intro e member
          rcases List.mem_append.mp member with early | rest
          · exact reported i _ e early
          · rcases List.mem_cons.mp rest with rfl | late
            · exact .failed err rfl
            · exact control ▸ reported' i _ e late
      | none =>
        refine Returns.modify_bind ?_
        rw [firstC.appended below]
        have firstN : TracksFirst phases (i + 1) { t with
            world := world
            trace := t.trace ++ [.start i none]
            data := { t.data with completedPhases := { t.data.allPhases with length := i + 1 } } } :=
          ⟨firstT.fits, firstT.names, below, rfl⟩
        refine (persist_start_spec cfg phases _ firstN _ rfl rfl).bind ?_
        rintro _ u ⟨later, advances', control', firstU, quiet', reported'⟩
        have control'' : u.data.control = s.data.control := control'.trans control
        refine (ih (i + 1) u firstU (by omega)).weaken ?_
        rintro result v ⟨rest, run⟩
        have calls : phaseCalls (reports ++ .start i none :: (later ++ rest)) = .start i none :: phaseCalls rest := by
          rw [phaseCalls_append, quiet, List.nil_append, phaseCalls, List.filter_cons_of_pos rfl,
            ← phaseCalls, phaseCalls_append, quiet', List.nil_append]
        refine ⟨reports ++ .start i none :: (later ++ rest), ?_, run.control.trans control'', ?_,
          calls ▸ .next below run.climb, ?_⟩
        · exact advances.trans (.call (.start called) (advances'.trans run.advances))
        · rw [run.completed, show u.data.allPhases = s.data.allPhases from congrArg Control.allPhases control'']
        · intro e member
          rcases List.mem_append.mp member with early | rest'
          · exact reported i _ e early
          · rcases List.mem_cons.mp rest' with rfl | late
            · exact .started (Nat.le_refl _) run.climb.above
            · rcases List.mem_append.mp late with soon | onward
              · exact control ▸ reported' i _ e soon
              · exact control'' ▸ (run.shown e onward).from_lower
    · intro above
      obtain rfl : i = phases.length := Nat.le_antisymm first.inside (Nat.le_of_not_lt above)
      exact Returns.pure ⟨[], .refl s, rfl, first.first, .top, by simp⟩

theorem start_spec (k : Nat) (s : State W) (tracks : Tracks phases s) (inside : k < phases.length) :
    Returns (start env cfg phases k) s fun result t => ∃ events,
      StartRun env cfg phases k s t result events := by
  unfold start
  apply Returns.get_bind
  refine Returns.lift_bind (tracks.reslice (Nat.le_of_lt inside)) ?_
  apply returns_modifyData_bind
  refine Returns.lift_bind (Go.index_eq inside) ?_
  have first : TracksFirst phases k { s with
      data := { s.data with completedPhases := { s.data.allPhases with length := k } } } :=
    ⟨tracks.fits, tracks.names, Nat.le_of_lt inside, rfl⟩
  refine (startLoop_spec cfg phases returning (phases.length - k) k _ first (by omega)).bind ?_
  rintro result t ⟨events, run⟩
  apply returns_modifyData_bind
  refine (persist_start_spec cfg phases t (run.tracksFirst first.tracks) _ ?_ ?_).bind ?_
  · rfl
  · rfl
  rintro _ u ⟨reports, advances, control, firstU, quiet, reported⟩
  have calls : phaseCalls (events ++ reports) = phaseCalls events := by
    rw [phaseCalls_append, quiet, List.append_nil]
  have control' : u.data.control = s.data.control := control.trans run.control
  refine Returns.pure
    ⟨events ++ reports, (run.advances.trans advances).of_data, control', ?_, calls ▸ run.climb, ?_⟩
  · rw [firstU.first,
      show u.data.allPhases = s.data.allPhases from congrArg Control.allPhases control']
  · intro e member
    rcases List.mem_append.mp member with early | late
    · exact run.shown e early
    · exact run.control ▸ reported k result e late

end Specs
end Nodelet
