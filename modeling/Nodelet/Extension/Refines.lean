import Nodelet.Extension.File

/-! The data that `Load` gives is what the reconciler starts with, for some decoding of the file. -/
namespace Nodelet.Extension

/-- The fields of the file, all set. -/
def jsonFields (d : ExtensionData) : ExtensionData.JSONFields where
  serviceState := some d.serviceState
  nodeState := some d.nodeState
  startAttempts := some d.startAttempts
  clusterID := some d.clusterID
  clusterRole := some d.clusterRole
  currentStatusCheck := some d.currentStatusCheck
  currentPhase := some d.currentPhase
  lastFailedCheck := some d.lastFailedCheck
  lastFailedCheckTime := some d.lastFailedCheckTime
  lastFailedPhase := some d.lastFailedPhase
  currentStatusCheckTime := some d.currentStatusCheckTime

/-- Only fields of the file have been set. -/
def Decoded (d : ExtensionData) : Prop := ExtensionData.new.decode (jsonFields d) = d

theorem decoded_iff : Decoded d ↔ d.allStatusChecks = [] ∧ d.allPhases = .empty ∧
    d.completedPhases = .empty ∧ d.operation = .unset ∧ d.kubeRunning = false ∧
    d.failedStatusCheck = 0 ∧ d.lastSuccessfulStatus = Go.Time.zero ∧ d.startFailStep = 0 := by
  cases d
  simp [Decoded, ExtensionData.decode, jsonFields, ExtensionData.new, eq_comm]

theorem unmarshal_decoded {contents : List Char} {failed : Bool}
    (decoded : Go.JsonStruct.unmarshal Loaded.struct contents .new = some (l, failed)) :
    Decoded l.data := by
  have fresh : Decoded Loaded.new.data := rfl
  refine Go.JsonStruct.unmarshal_keeps Loaded.struct (fun l => Decoded l.data) ?_ fresh decoded
  have kept : ∀ f ∈ Loaded.fields, ∀ value l, Decoded l.data → Decoded (f.set value l).data := by
    simp only [Loaded.fields, List.forall_mem_cons, List.not_mem_nil, false_implies, implies_true,
      and_true]
    refine ⟨?_, ?_, ?_, ?_, ?_, ?_, ?_, ?_, ?_, ?_, ?_, ?_, ?_, ?_⟩
    all_goals
      intro value l before
      have rest := decoded_iff.mp before
      exact decoded_iff.mpr rest
  exact fun f member value l before => kept f member _ l before

/-- The data is that of a file which the reconciler may start with. -/
theorem load_refines (cfg : Config) (contents : List Char) (order : List (String × String)) :
    ∃ file,
    ExtensionData.load cfg .new file = (load cfg contents order).map fun result =>
      result.1.data := by
  have folded (l : Loaded) :
      (order.foldl Loaded.convertOldField l).data = order.foldl ExtensionData.convertOldField l.data := by
    induction order generalizing l with
    | nil => rfl
    | cons entry rest ih => exact ih _
  cases decoded : Go.JsonStruct.unmarshal Loaded.struct contents .new with
  | none =>
    refine ⟨.null, ?_⟩
    rw [load, decoded]
    rfl
  | some result =>
    obtain ⟨l, failed⟩ := result
    have fields : ExtensionData.new.decode (jsonFields l.data) = l.data := unmarshal_decoded decoded
    cases failed with
    | false =>
      refine ⟨.object (jsonFields l.data), ?_⟩
      rw [load, decoded, ExtensionData.load, fields]
      rfl
    | true =>
      refine ⟨.undecodable (jsonFields l.data) order, ?_⟩
      rw [load, decoded, ExtensionData.load, fields, ExtensionData.convertExtnDataToJSON, ← folded]
      rfl

end Nodelet.Extension
