import Nodelet.Ctl.Convergence

/-! What a scaling that was aborted leaves behind where the masters are as they should be. -/
namespace Nodeletctl
open Go.Resumption (Emits Runs Traces)
open Go.Remote (runs_bind_cases Sends)

namespace Cluster
variable {cfg : BootstrapConfig} {s t : Cluster} {trace : List Event}

theorem faulty_reading (reading : ¬ request.Changes)
    (taken : s.Faulty ⟨request, answer⟩ t) : t = s ∧
      Reports s.masters s.workers ⟨request, answer⟩ := by
  obtain smooth | ⟨failed, moved⟩ := taken
  · obtain ⟨granted, rfl⟩ := smooth_reading reading smooth
    refine ⟨rfl, ?_⟩
    cases request with
    | newEtcdClient rootCA endpoints => exact fun none connected => granted.mp connected none
    | getCurrentMasters | getCurrentWorkers =>
      cases granted
      rfl
    | _ => trivial
  · refine ⟨?_, ?_⟩
    · cases request <;> first | exact absurd trivial reading | exact moved.elim id id
    · cases request with
      | newEtcdClient rootCA endpoints =>
        obtain ⟨err, rfl⟩ := failed
        exact fun _ => nofun
      | getCurrentMasters | getCurrentWorkers =>
        obtain ⟨err, rfl⟩ := failed
        trivial
      | _ => trivial

theorem traces_of_reading {program remaining : Call α} {post : α → Prop}
    (emits : Emits (fun event => ¬ event.1.Changes) post program)
    (runs : Runs Faulty program s trace remaining t) :
    t = s ∧ Traces (Reports s.masters s.workers) program trace remaining := by
  induction runs with
  | refl => exact ⟨rfl, .refl⟩
  | @call _ _ answer _ _ _ _ _ taken _ ih =>
    obtain ⟨reading, rest⟩ := emits answer
    obtain ⟨rfl, reported⟩ := faulty_reading reading taken
    obtain ⟨same, traces⟩ := ih rest
    exact ⟨same, .call reported traces⟩

/-- What the event does to a settled cluster leaves it settled. -/
def Settles (cfg : BootstrapConfig) (event : Event) : Prop :=
  ∀ before after : Cluster, before.Settled cfg → before.Faulty event after → after.Settled cfg

theorem settles_reading (request : Request) (answer : request.Answer)
    (reading : ¬ request.Changes) : Settles cfg ⟨request, answer⟩ := by
  intro before after settled taken
  obtain ⟨rfl, -⟩ := faulty_reading reading taken
  exact settled

variable {step : Nodeletctl.Step}

theorem faulty_perform {answer : Except Go.Error Unit}
    (taken : s.Faulty ⟨.perform deployer step, answer⟩ t) : t = s ∨
      t = s.carryOut (.perform deployer step) := by
  obtain smooth | ⟨-, moved⟩ := taken
  · exact .inr (smooth_perform smooth).2
  · exact moved

theorem settles_deploy (desired : host.nodeName ∈ names cfg.workers)
    (deploys : step ≠ .deleteNodelet) (answer : Except Go.Error Unit) :
    Settles cfg ⟨.perform ⟨workerConfig cfg host⟩ step, answer⟩ := by
  intro before after settled taken
  obtain rfl | rfl := faulty_perform taken
  · exact settled
  have grows : Grows before (before.carryOut (.perform ⟨workerConfig cfg host⟩ step)) :=
    grows_perform rfl deploys
  cases step with
  | deleteNodelet => exact absurd rfl deploys
  | startNodelet =>
    have active {nodeName : String} :
        nodeName ∈ (before.carryOut (.perform ⟨workerConfig cfg host⟩ .startNodelet)).workers ↔
          nodeName = host.nodeName ∨ nodeName ∈ before.workers := List.mem_insert_iff
    have alive : (before.carryOut (.perform ⟨workerConfig cfg host⟩ .startNodelet)).Alive host.nodeName :=
      alive_start rfl
    refine ⟨settled.members, settled.masters, fun nodeName master =>
      ?_, fun nodeName reported worker => ?_, fun nodeName reported master => ?_⟩
    · exact grows.alive _ (settled.masterAlive nodeName master)
    · obtain rfl | earlier := active.mp reported
      · exact alive
      · exact grows.alive _ (settled.workerAlive nodeName earlier worker)
    · obtain rfl | earlier := active.mp reported
      · exact desired
      · exact settled.desired nodeName earlier master
  | _ => exact settled

theorem settles_delete {nodeName : String} (worker : nodeName ∉ names cfg.workers)
    (master : nodeName ∉ names cfg.masters) : Performs (Settles cfg) nodeName .deleteNodelet := by
  rintro deployer rfl answer before after settled taken
  obtain rfl | rfl := faulty_perform taken
  · exact settled
  have alive {other : String} (different : other ≠ deployer.hostId) (alive : before.Alive other) :
      (before.carryOut (.perform deployer .deleteNodelet)).Alive other := by
    simpa [Alive, carryOut, Function.update_of_ne different] using alive
  refine ⟨settled.members, settled.masters, fun other desired => ?_, fun other active desired =>
    ?_, settled.desired⟩
  · exact alive (fun same => master (same ▸ desired)) (settled.masterAlive other desired)
  · exact alive (fun same => worker (same ▸ desired)) (settled.workerAlive other active desired)

/-- Where the masters are as they should be, scaling changes workers only. -/
theorem Settled.emits {masters workers : Diff} (settled : s.Settled cfg)
    (ofMasters : masters.Of cfg.masters s.masters) (ofWorkers : workers.Of cfg.workers s.workers) :
    Sends (Settles cfg) (scaleNodes cfg masters workers) := by
  rw [scaleNodes, settled.new_nil ofMasters, settled.old_nil ofMasters]
  have none {Q : HostConfig → Prop} : ∀ host ∈ ([] : List HostConfig), Q host :=
    List.forall_mem_nil _
  have reading : ∀ request answer, request.Plain → Settles cfg ⟨request, answer⟩ :=
    plainly settles_reading
  have connects :
      ∀ endpoints answer, Settles cfg ⟨.newEtcdClient (etcdCA cfg.clusterId) endpoints, answer⟩ :=
    connecting settles_reading
  have renders (host : HostConfig) (_ : host ∈ workers.new) (answer : Except Go.Error Unit) :
      Settles cfg ⟨.genNodeletConfigLocal (workerConfig cfg host), answer⟩ := rendering settles_reading answer
  refine .bind (.mapError (emits_addMasters reading connects none none none)) fun currMasters _ =>
    ?_
  refine .bind (.mapError (emits_removeMasters reading connects none none)) fun _ _ => ?_
  refine .bind (.mapError (emits_deployWorkers reading renders fun host new step member => ?_))
    fun _ _ => ?_
  · refine settles_deploy ((ofWorkers.new _).mp (mem_names new)).1 ?_
    rintro rfl
    exact absurd member (by decide)
  refine .bind (emits_syncNodes reading) fun _ _ => .mapError (emits_deleteWorkers reading ?_)
  intro host old
  obtain ⟨active, dropped⟩ := (ofWorkers.old host.nodeName).mp (mem_names old)
  exact settles_delete dropped fun master => dropped (settled.desired _ active master)

theorem Settled.aborted {remaining : Call (Except Go.Error Unit)} (settled : s.Settled cfg)
    (runs : Runs Faulty (scaleCluster cfg).run s trace remaining t) : t.Settled cfg := by
  have plans : Emits (fun event : Event => ¬ event.1.Changes) _ (planScale cfg).run :=
    emits_planScale (plainly (P := fun event => ¬ event.1.Changes) fun _ _ => id)
  obtain ⟨_, planning⟩ | ⟨_, plan, _, _, rfl, planning, scaling⟩ := runs_bind_cases runs
  · obtain ⟨rfl, -⟩ := traces_of_reading plans planning
    exact settled
  · obtain ⟨rfl, planned⟩ := traces_of_reading plans planning
    obtain ⟨ofMasters, ofWorkers⟩ := planScale_of planned
    exact (settled.emits ofMasters ofWorkers).invariant settled scaling

theorem Left.settled (left : Left cfg s t) (settled : s.Settled cfg) : t.Settled cfg := by
  induction left with
  | start => exact settled
  | aborted _ runs ih => exact ih.aborted runs

end Cluster
end Nodeletctl
