import Nodelet.Reconcile

/-! Persisting the status: it reports the state as it is and changes only the
node state and an expired failed check. -/
namespace Nodelet
open Go (Returns)

section Rules
variable {W β : Type} {s : State W} {final : β → State W → Prop}
  {change : ExtensionData → ExtensionData} {next : Unit → Go.Program (State W) β}

theorem returns_modifyData {post : Unit → State W → Prop}
    (holds : post () { s with data := change s.data }) : Returns (modifyData change) s post :=
  ⟨(), _, rfl, holds⟩

theorem returns_modifyData_bind (rest : Returns (next ()) { s with data := change s.data } final) :
    Returns (modifyData change >>= next) s final :=
  rest

theorem returns_emit_bind {event : State W → Event}
    (rest : Returns (next ()) { s with trace := s.trace ++ [event s] } final) :
    Returns (emit event >>= next) s final :=
  rest

theorem returns_time_bind {env : Env W} {next : Int → Go.Program (State W) β}
    (rest : Returns (next (env.now s.world).1) { s with world := (env.now s.world).2 } final) :
    Returns (env.time >>= next) s final :=
  rest

theorem returns_callPhase_bind {operation : Nat → W → Except Go.Halt (Option Go.Error × W)}
    {event : Nat → Option Go.Error → Event} {next : Option Go.Error → Go.Program (State W) β}
    (returns : ∃ reply, operation i s.world = .ok reply)
    (rest : ∀ err world, operation i s.world = .ok (err, world) →
      Returns (next err) { s with world := world, trace := s.trace ++ [event i err] } final) :
    Returns (callPhase operation event i >>= next) s final := by
  obtain ⟨⟨err, world⟩, called⟩ := returns
  obtain ⟨value, after, run, holds⟩ := rest err world called
  refine ⟨value, after, ?_, holds⟩
  rw [← run]
  simp only [Bind.bind, StateT.bind, callPhase, called, Except.bind]

end Rules

theorem ExtensionData.nodeStateFor_setNodeState (cfg : Config) (d : ExtensionData) :
    (d.setNodeState (d.nodeStateFor cfg)).nodeStateFor cfg = d.nodeStateFor cfg := by
  simp only [nodeStateFor, setNodeState]
  split_ifs <;> rfl

theorem ExtensionData.populateExtraFields_nodeState (cfg : Config) (d : ExtensionData) :
    (d.populateExtraFields cfg).nodeState = (d.populateExtraFields cfg).nodeStateFor cfg :=
  (nodeStateFor_setNodeState cfg d.reapFailedCheck).symm

/-- The state was reported as it is, and the reconciler's decisions stand. -/
structure Persisted (env : Env W) (cfg : Config) (s t : State W) (reports : List Event) : Prop where
  advances : Advances env.Observe s t reports
  control : t.data.control = s.data.control
  completed : t.data.completedPhases = s.data.completedPhases
  reported : ∀ e ∈ reports, e.Reports cfg s.view

namespace Persisted
variable {W : Type} {env : Env W} {cfg : Config} {s t u : State W} {first second : List Event}

theorem view (persisted : Persisted env cfg s t first) : t.view = s.view :=
  State.view_frame persisted.advances.heap persisted.control rfl persisted.completed

theorem trans (a : Persisted env cfg s t first) (b : Persisted env cfg t u second) :
    Persisted env cfg s u (first ++ second) where
  advances := a.advances.trans b.advances
  control := b.control.trans a.control
  completed := b.completed.trans a.completed
  reported e member := by
    rcases List.mem_append.mp member with early | late
    · exact a.reported e early
    · exact a.view ▸ b.reported e late

theorem steps (persisted : Persisted env cfg s t first) : Advances env.Step s t first :=
  persisted.advances.mono fun _ _ => .observe

theorem refl (s : State W) : Persisted env cfg s s [] :=
  ⟨.refl s, rfl, rfl, fun _ member => absurd member List.not_mem_nil⟩

end Persisted

section Specs
variable {W : Type} (env : Env W) (cfg : Config)

theorem emit_persisted (s : State W) :
    Persisted env cfg s { s with trace := s.trace ++ [.persist s.snapshot] } [.persist s.snapshot]
      where
  advances := ⟨.refl, rfl, rfl⟩
  control := rfl
  completed := rfl
  reported e member := by
    cases List.mem_singleton.mp member
    rfl

theorem write_spec (s : State W) :
    Returns (write cfg) s fun _ t => ∃ snapshot, Persisted env cfg s t [.write snapshot] := by
  refine ⟨(), _, rfl, _, ⟨.refl, rfl, rfl⟩, s.data.populateExtraFields_control cfg,
    s.data.populateExtraFields_completedPhases cfg, ?_⟩
  intro e member
  cases List.mem_singleton.mp member
  refine ⟨?_, s.data.populateExtraFields_nodeState cfg⟩
  have sameAll : (s.data.populateExtraFields cfg).allPhases = s.data.allPhases :=
    congrArg Control.allPhases (s.data.populateExtraFields_control cfg)
  simp only [State.view, State.snapshot, Snapshot.view, ExtensionData.populateExtraFields_control,
    ExtensionData.populateExtraFields_completedPhases, sameAll]

theorem submit_spec (s : State W) :
    Returns env.submit s fun _ t => ∃ reports, Persisted env cfg s t reports := by
  refine ⟨(), _, rfl, _, ⟨.single .update, rfl, rfl⟩, rfl, rfl, ?_⟩
  intro e member
  cases List.mem_singleton.mp member
  rfl

/-- The extension file is among what was written, unless that is disabled. -/
def Recorded (cfg : Config) (reports : List Event) : Prop :=
  cfg.disableExtFile = false → ∃ snapshot, .write snapshot ∈ reports

theorem submit_unless_spec (s : State W) :
    Returns (if cfg.disableSunpike then pure () else env.submit) s
      fun _ t => ∃ reports, Persisted env cfg s t reports := by
  apply Returns.ite
  · intro _
    exact Returns.pure ⟨[], .refl s⟩
  · intro _
    exact submit_spec env cfg s

theorem tryToPersistStatus_spec (s : State W) :
    Returns (tryToPersistStatus env cfg) s
      fun _ t => ∃ reports, Persisted env cfg s t reports ∧ Recorded cfg reports := by
  unfold tryToPersistStatus
  apply returns_emit_bind
  have persisted := emit_persisted env cfg s
  apply Returns.ite
  · intro disabled
    refine (submit_unless_spec env cfg _).weaken ?_
    rintro _ u ⟨later, submitted⟩
    exact ⟨_, persisted.trans submitted, fun enabled => by simp [disabled] at enabled⟩
  · intro _
    refine (write_spec env cfg _).bind ?_
    rintro _ t ⟨snapshot, wrote⟩
    refine (submit_unless_spec env cfg t).weaken ?_
    rintro _ u ⟨later, submitted⟩
    exact ⟨_, (persisted.trans wrote).trans submitted, fun _ => ⟨snapshot, by simp⟩⟩

end Specs
end Nodelet
