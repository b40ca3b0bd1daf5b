import Nodelet.Ctl.Phases

/-! Which nodes a scaling leaves without the agent. Masters and workers are compared with
the configuration independently, so a host that changes its role, or has both, may be
deployed as one and deleted as the other. -/
namespace Nodeletctl
open Go.Resumption (Traces runs_bind_ok)
open Go.Remote (Can runs_bind_cases runs_mapError_cases runs_mapError_ok)

/-- Where a host is active or desired in both roles, or changes its role, the two comparisons
do not contradict each other. -/
structure RolesAgree (cfg : BootstrapConfig) (masters workers : List String) : Prop where
  desiredMaster : ∀ nodeName ∈ names cfg.masters, nodeName ∈ workers → nodeName ∈ names cfg.workers
  desiredWorker : ∀ nodeName ∈ names cfg.workers, nodeName ∈ masters → nodeName ∈ workers →
    nodeName ∈ names cfg.masters

namespace Phases
variable {cfg : BootstrapConfig} {masters workers : List String} {diffMasters diffWorkers : Diff}
  {nodeName : String}

theorem neverWiped (phases : Phases diffMasters diffWorkers)
    (agree : RolesAgree cfg masters workers) (ofMasters : diffMasters.Of cfg.masters masters)
    (ofWorkers : diffWorkers.Of cfg.workers workers) : NeverWiped phases.trace := by
  have waited : Part (fun _ _ => False) phases.waited := .of_uniform phases.waits nofun
  have ended := waited.append (part_of_deletes phases.deletes) nofun
  have deployed :=
    (part_of_deploys phases.deploys).append ended fun nodeName step deploying _ later => by
    have desired := ((ofWorkers.new nodeName).mp deploying.1).1
    obtain impossible | deleting := later
    · exact impossible
    · exact ((ofWorkers.old nodeName).mp deleting.1).2 desired
  have removed := (part_of_deletes phases.removes).append deployed fun _ _ deleting deploying =>
    absurd deleting.2 deploying
  have added :=
    (part_of_deploys phases.adds).append removed fun nodeName step deploying _ later => by
    have desired := ((ofMasters.new nodeName).mp deploying.1).1
    obtain removing | deploying | impossible | deleting := later
    · exact ((ofMasters.old nodeName).mp removing.1).2 desired
    · exact absurd deploying.2 (by decide)
    · exact impossible
    · obtain ⟨active, dropped⟩ := (ofWorkers.old nodeName).mp deleting.1
      exact dropped (agree.desiredMaster nodeName desired active)
  exact added.neverWiped

variable {phases : Phases diffMasters diffWorkers}

theorem lastOperation_kept (complete : phases.Complete)
    (agree : RolesAgree cfg masters workers) (ofMasters : diffMasters.Of cfg.masters masters)
    (ofWorkers : diffWorkers.Of cfg.workers workers) (desired : nodeName ∈ names cfg.allNodes) :
    lastOperation nodeName phases.trace ≠ some .deleteNodelet := by
  have role : nodeName ∈ names cfg.workers ∨ nodeName ∈ names cfg.masters := by
    simpa [names, BootstrapConfig.allNodes, or_comm] using desired
  simp only [trace, lastOperation_append, ne_eq, Option.or_eq_some_iff, Option.or_eq_none_iff]
  rintro ((((deleted | ⟨_, waited⟩) | ⟨_, deployed⟩) | ⟨⟨_, undeployed⟩, removed⟩) | ⟨_, added⟩)
  · obtain ⟨event, member, operation⟩ := lastOperation_mem deleted
    obtain ⟨active, dropped⟩ :=
      (ofWorkers.old nodeName).mp (phases.deletes event member _ _ operation).1
    exact dropped (role.elim id fun master => agree.desiredMaster nodeName master active)
  · obtain ⟨event, member, operation⟩ := lastOperation_mem waited
    exact phases.waits event member _ _ operation
  · obtain ⟨event, member, operation⟩ := lastOperation_mem deployed
    exact absurd (phases.deploys event member _ _ operation).2 (by decide)
  · obtain ⟨event, member, operation⟩ := lastOperation_mem removed
    obtain ⟨active, dropped⟩ :=
      (ofMasters.old nodeName).mp (phases.removes event member _ _ operation).1
    have worker := role.resolve_right dropped
    refine dropped (agree.desiredWorker nodeName worker active ?_)
    -- otherwise it is deployed as a worker, after it was removed as a master
    by_contra inactive
    obtain ⟨host, member, rfl⟩ := List.mem_map.mp ((ofWorkers.new nodeName).mpr ⟨worker, inactive⟩)
    obtain ⟨event, there, operation⟩ := complete.deployed host member
    exact absurd (mem_operationsOn.mpr ⟨event, there, operation⟩)
      (by simp [List.getLast?_eq_none_iff.mp undeployed])
  · obtain ⟨event, member, operation⟩ := lastOperation_mem added
    exact absurd (phases.adds event member _ _ operation).2 (by decide)

theorem lastOperation_oldWorker (complete : phases.Complete)
    (old : nodeName ∈ names diffWorkers.old) :
    lastOperation nodeName phases.trace = some .deleteNodelet := by
  obtain ⟨host, member, rfl⟩ := List.mem_map.mp old
  have last := lastOperation_eq (complete.deleted host member) fun event there step operation =>
    (phases.deletes event there _ step operation).2
  simp only [trace, lastOperation_append, last, Option.some_or]

theorem lastOperation_oldMaster (complete : phases.Complete)
    (old : nodeName ∈ names diffMasters.old) (notNew : nodeName ∉ names diffWorkers.new)
    (notOld : nodeName ∉ names diffWorkers.old) :
    lastOperation nodeName phases.trace = some .deleteNodelet := by
  obtain ⟨host, member, rfl⟩ := List.mem_map.mp old
  have last := lastOperation_eq (complete.removed host member) fun event there step operation =>
    (phases.removes event there _ step operation).2
  have deployed := lastOperation_none fun event there step operation =>
    notNew (phases.deploys event there _ step operation).1
  have waited := lastOperation_none fun event there step operation =>
    phases.waits event there host.nodeName step operation
  have deleted := lastOperation_none fun event there step operation =>
    notOld (phases.deletes event there _ step operation).1
  simp only [trace, lastOperation_append, last, deployed, waited, deleted, Option.none_or,
    Option.some_or]

theorem lastOperation_disagree (complete : phases.Complete)
    (ofMasters : diffMasters.Of cfg.masters masters)
    (ofWorkers : diffWorkers.Of cfg.workers workers) (disagree : ¬ RolesAgree cfg masters workers) :
    ∃ nodeName ∈ names cfg.allNodes, lastOperation nodeName phases.trace = some .deleteNodelet := by
  by_contra kept
  push Not at kept
  refine disagree ⟨fun nodeName desired active => ?_, fun nodeName desired master worker => ?_⟩
  · by_contra dropped
    refine kept nodeName (by simp_all [names, BootstrapConfig.allNodes]) ?_
    exact lastOperation_oldWorker complete ((ofWorkers.old nodeName).mpr ⟨active, dropped⟩)
  · by_contra dropped
    refine kept nodeName (by simp_all [names, BootstrapConfig.allNodes]) ?_
    refine lastOperation_oldMaster complete ((ofMasters.old nodeName).mpr ⟨master, dropped⟩) ?_ ?_
    · exact fun new => ((ofWorkers.new nodeName).mp new).2 worker
    · exact fun old => ((ofWorkers.old nodeName).mp old).2 desired

end Phases

section Scaling
variable {cfg : BootstrapConfig} {masters workers : List String} {trace : List Event}
  {first second : List Event}

theorem lastOperation_quiet (quiet : ∀ event ∈ trace, Touches (fun _ _ => False) event)
    (nodeName : String) : lastOperation nodeName trace = none :=
  lastOperation_none fun event member step operation => quiet event member nodeName step operation

theorem planScale_quiet {allowed : Event → Prop} {remaining : Call (Except Go.Error (Diff × Diff))}
    (runs : Traces allowed (planScale cfg).run trace remaining) :
    ∀ event ∈ trace, Touches (fun _ _ => False) event :=
  (emits_planScale (plainly Touches.of_reading)).mem runs

theorem neverWiped_after (quiet : ∀ event ∈ first, Touches (fun _ _ => False) event)
    (later : NeverWiped second) : NeverWiped (first ++ second) :=
  have rest : Part (fun _ _ => True) second := ⟨fun _ _ _ _ _ => trivial, later⟩
  ((Part.of_uniform quiet nofun).append rest nofun).neverWiped

theorem lastOperation_after (quiet : ∀ event ∈ first, Touches (fun _ _ => False) event)
    (nodeName : String) :
    lastOperation nodeName (first ++ second) = lastOperation nodeName second := by
  rw [lastOperation_append, lastOperation_quiet quiet, Option.or_none]

section Unconnected
variable {trace : List Event} {newMasters : List HostConfig}

theorem addNodeToEtcd_unconnected {hostId hostIp : String} :
    ¬ Traces (Reports masters workers) (addNodeToEtcd cfg [] hostId hostIp).run trace
      (.done (.ok ())) := by
  intro runs
  obtain ⟨_, _, _, _, rfl, connecting, -⟩ := runs_bind_ok.mp runs
  obtain ⟨-, refused⟩ := ask_returns.mp (runs_mapError_ok.mp connecting)
  exact refused rfl rfl

/-- Without a master that stays, the first new one cannot be added to etcd. -/
theorem addMasters_unconnected (new : newMasters ≠ []) :
    ¬ Traces (Reports masters workers) (addMasters cfg [] newMasters).run trace
      (.done (.ok hosts)) := by
  obtain ⟨host, rest, rfl⟩ := List.exists_cons_of_ne_nil new
  intro runs
  obtain ⟨_, _, _, _, rfl, -, later⟩ := runs_bind_ok.mp runs
  obtain ⟨_, _, _, _, rfl, joining, -⟩ := runs_bind_ok.mp later
  exact addNodeToEtcd_unconnected (runs_mapError_ok.mp joining)

theorem addMasters_quiet {remaining : Call (Except Go.Error (List HostConfig))}
    (new : newMasters ≠ [])
    (runs : Traces (Reports masters workers) (addMasters cfg [] newMasters).run trace remaining) :
    ∀ event ∈ trace, Touches (fun _ _ => False) event := by
  obtain ⟨host, rest, rfl⟩ := List.exists_cons_of_ne_nil new
  have renders (nodeletCfg : NodeletConfig) :
      Go.Remote.Emits (Touches fun _ _ => False) (· = ⟨nodeletCfg⟩) (renderedDeployer nodeletCfg) :=
    emits_renderedDeployer (plainly Touches.of_reading) (rendering Touches.of_reading)
  obtain ⟨_, rendering⟩ | ⟨_, _, _, _, rfl, rendering, later⟩ := runs_bind_cases runs
  · exact (renders _).mem rendering
  · refine List.forall_mem_append.mpr ⟨(renders _).mem rendering, ?_⟩
    obtain ⟨_, joining⟩ | ⟨_, _, _, _, rfl, joined, -⟩ := runs_bind_cases later
    · obtain ⟨_, joining⟩ := runs_mapError_cases joining
      exact (emits_addNodeToEtcd (fun _ _ => nofun) fun _ => nofun).mem joining
    · exact absurd (runs_mapError_ok.mp joined) addNodeToEtcd_unconnected

theorem scaleNodes_unconnected {remaining : Call (Except Go.Error Unit)}
    (nothing : diffMasters.curr = []) (new : diffMasters.new ≠ [])
    (runs : Traces (Reports masters workers) (scaleNodes cfg diffMasters diffWorkers).run trace
      remaining) :
    (∀ event ∈ trace, Touches (fun _ _ => False) event) ∧ remaining ≠ .done (.ok ()) := by
  rw [scaleNodes, nothing] at runs
  constructor
  · obtain ⟨_, adding⟩ | ⟨_, _, _, _, rfl, added, -⟩ := runs_bind_cases runs
    · obtain ⟨_, adding⟩ := runs_mapError_cases adding
      exact addMasters_quiet new adding
    · exact absurd (runs_mapError_ok.mp added) (addMasters_unconnected new)
  · rintro rfl
    obtain ⟨_, _, _, _, rfl, added, -⟩ := runs_bind_ok.mp runs
    exact addMasters_unconnected new (runs_mapError_ok.mp added)

end Unconnected

theorem can_planScale (cfg : BootstrapConfig) (masters workers : List String) :
    ∃ plan, Can (Reports masters workers) (planScale cfg).run (.ok plan) := by
  have lenient := reports_lenient masters workers
  have checked : Can (Reports masters workers) (checkCerts cfg).run (.ok ()) := by
    rw [checkCerts]
    split
    · exact .bindOk (.lift (can_ask lenient (.certsExist _) true trivial)) .done
    · exact .done
  have compared : ∀ desired active, ∃ diff, Can (Reports masters workers) (getDiffNodes desired active) diff := by
    intro desired active
    refine ⟨diffNodes desired active active.dedup (hostMap desired), ?_⟩
    refine .bind (can_ask lenient (.rangeNames _) ⟨_, .refl _⟩ trivial) ?_
    exact .bind (can_ask lenient (.rangeHosts _) ⟨_, .refl _⟩ trivial) .done
  have gotMasters : Can (Reports masters workers) (ask .getCurrentMasters) (.ok masters) :=
    .perform rfl
  have gotWorkers : Can (Reports masters workers) (ask .getCurrentWorkers) (.ok workers) :=
    .perform rfl
  obtain ⟨diffMasters, canMasters⟩ := compared cfg.masters masters
  obtain ⟨diffWorkers, canWorkers⟩ := compared cfg.workers workers
  refine ⟨(diffMasters, diffWorkers), .bindOk checked ?_⟩
  refine .bindOk (.mapError gotMasters) (.bindOk (.mapError gotWorkers) ?_)
  exact .bindOk (.lift canMasters) (.bindOk (.lift canWorkers) .done)

section Unkept
variable {diff : Diff} (of : diff.Of cfg.masters masters)
  (unkept : ∀ nodeName ∈ names cfg.masters, nodeName ∉ masters)
include of unkept

theorem curr_nil_of_unkept : diff.curr = [] := by
  refine List.eq_nil_iff_forall_not_mem.mpr fun host member => ?_
  obtain ⟨desired, active⟩ := (of.curr host.nodeName).mp (mem_names member)
  exact unkept _ desired active

theorem new_ne_nil_of_unkept (accepted : cfg.Accepted) : diff.new ≠ [] := by
  obtain ⟨host, member⟩ := List.exists_mem_of_ne_nil _ accepted.masters_ne_nil
  intro nothing
  simpa [nothing, names] using (of.new host.nodeName).mpr
    ⟨mem_names member, unkept _ (mem_names member)⟩

end Unkept

/-- Where a master stays, scaling can succeed. -/
theorem exists_scaling (kept : ∃ nodeName ∈ names cfg.masters, nodeName ∈ masters) :
    ∃ planned plan scaled, Traces (Reports masters workers) (planScale cfg).run planned
      (.done (.ok plan)) ∧
      Traces (Reports masters workers) (scaleNodes cfg plan.1 plan.2).run scaled
      (.done (.ok ())) := by
  obtain ⟨plan, planned, planning⟩ := can_planScale cfg masters workers
  obtain ⟨ofMasters, -⟩ := planScale_of planning
  obtain ⟨master, desired, active⟩ := kept
  have stays : plan.1.curr ≠ [] := by
    intro nothing
    simpa [nothing, names] using (ofMasters.curr master).mpr ⟨desired, active⟩
  have removed : ∀ host ∈ plan.1.old, host.nodeName ∉ names (plan.1.curr ++ plan.1.new) := by
    intro host old member
    have dropped := ((ofMasters.old host.nodeName).mp (mem_names old)).2
    rw [names, List.map_append, List.mem_append] at member
    obtain curr | new := member
    · exact dropped ((ofMasters.curr host.nodeName).mp curr).1
    · exact dropped ((ofMasters.new host.nodeName).mp new).1
  obtain ⟨scaled, scaling⟩ := can_scaleNodes (reports_lenient masters workers) stays removed
  exact ⟨planned, plan, scaled, planning, scaling⟩

/-- Where a master stays and the comparisons disagree, a run that succeeds deletes a node it was
asked to keep. -/
theorem scaleCluster_deletes (disagree : ¬ RolesAgree cfg masters workers)
    (kept : ∃ nodeName ∈ names cfg.masters, nodeName ∈ masters) :
    ∃ trace, Traces (Reports masters workers) (scaleCluster cfg).run trace (.done (.ok ())) ∧
      ∃ nodeName ∈ names cfg.allNodes, lastOperation nodeName trace = some .deleteNodelet := by
  obtain ⟨planned, plan, scaled, planning, scaling⟩ := exists_scaling kept
  obtain ⟨ofMasters, ofWorkers⟩ := planScale_of planning
  refine ⟨planned ++ scaled, runs_bind_ok.mpr ⟨planned, plan, (), scaled, rfl, planning, scaling⟩,
    ?_⟩
  obtain ⟨phases, rfl, complete⟩ := scaleNodes_complete scaling
  obtain ⟨nodeName, asked, last⟩ :=
    Phases.lastOperation_disagree complete ofMasters ofWorkers disagree
  exact ⟨nodeName, asked, by rw [lastOperation_append, last, Option.some_or]⟩

/-- Scaling keeps the nodes that the configuration asks for exactly where the two comparisons
agree on every host, or where no master stays and nothing can be done at all. -/
theorem scale_keeps_desired_iff (accepted : cfg.Accepted) :
    (∀ trace remaining, Traces (Reports masters workers) (scaleCluster cfg).run trace remaining →
      NeverWiped trace ∧ (remaining = .done (.ok ()) → ∀ nodeName ∈ names cfg.allNodes,
        lastOperation nodeName trace ≠ some .deleteNodelet)) ↔
    RolesAgree cfg masters workers ∨ ∀ nodeName ∈ names cfg.masters, nodeName ∉ masters := by
  constructor
  · intro keeps
    by_contra neither
    push Not at neither
    obtain ⟨trace, runs, nodeName, asked, last⟩ := scaleCluster_deletes neither.1 neither.2
    exact (keeps trace _ runs).2 rfl nodeName asked last
  · intro condition trace remaining runs
    obtain ⟨_, planning⟩ | ⟨planned, plan, _, scaled, rfl, planning, scaling⟩ :=
      runs_bind_cases runs
    · have quiet := planScale_quiet planning
      exact ⟨(Part.of_uniform quiet nofun).neverWiped, fun _ nodeName _ => by simp [lastOperation_quiet quiet]⟩
    have quiet := planScale_quiet planning
    obtain ⟨ofMasters, ofWorkers⟩ := planScale_of planning
    simp only [lastOperation_after quiet]
    obtain agree | unkept := condition
    · constructor
      · obtain ⟨phases, rfl⟩ := scaleNodes_phases scaling
        exact neverWiped_after quiet (phases.neverWiped agree ofMasters ofWorkers)
      · rintro rfl nodeName asked
        obtain ⟨phases, rfl, complete⟩ := scaleNodes_complete scaling
        exact Phases.lastOperation_kept complete agree ofMasters ofWorkers asked
    · obtain ⟨idle, unfinished⟩ := scaleNodes_unconnected (curr_nil_of_unkept ofMasters unkept)
        (new_ne_nil_of_unkept ofMasters unkept accepted) scaling
      exact ⟨neverWiped_after quiet (Part.of_uniform idle nofun).neverWiped, fun returned =>
        absurd returned unfinished⟩

theorem scale_keeps_desired_growth :
    threeMasters.Accepted ∧ RolesAgree threeMasters ["one"] [] ∧
      ∀ trace remaining, Traces (Reports ["one"] []) (scaleCluster threeMasters).run trace
      remaining →
        NeverWiped trace ∧ (remaining = .done (.ok ()) → ∀ nodeName ∈ names threeMasters.allNodes,
          lastOperation nodeName trace ≠ some .deleteNodelet) :=
  have agree : RolesAgree threeMasters ["one"] [] := ⟨nofun, nofun⟩
  have accepted : threeMasters.Accepted := rfl
  ⟨accepted, agree, (scale_keeps_desired_iff accepted).mpr (.inl agree)⟩

/-- A worker that becomes a master is deployed as a master, and then deleted as a worker. -/
theorem promoted_worker_deleted :
    threeMasters.Accepted ∧ ∃ trace,
      Traces (Reports ["one"] ["two"]) (scaleCluster threeMasters).run trace (.done (.ok ())) ∧
      operationsOn "two" trace = Deployer.deploySteps.map Prod.fst ++ [.deleteNodelet] := by
  have driven :
    (Go.Resumption.drive (succeed ["one"] ["two"]) (scaleCluster threeMasters).run ()).map
      (fun run => (operationsOn "two" run.1, run.2.1)) =
      some (Deployer.deploySteps.map Prod.fst ++ [.deleteNodelet], .ok ()) := by decide +kernel
  obtain ⟨trace, value, runs, seen⟩ := exists_traces_of_succeed driven
  obtain ⟨operations, rfl⟩ := Prod.mk.inj seen
  exact ⟨rfl, trace, runs, operations⟩

end Scaling
end Nodeletctl
