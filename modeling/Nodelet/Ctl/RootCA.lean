import Nodelet.Ctl.Operations

/-! The certificate authority of a cluster. A command trusts it on the machine it runs on, signs the
certificate of the administrator with it, expects it of etcd and sends it to the nodes; each of
these functions builds the path of the file on its own. -/
namespace Nodeletctl
open Go.Filepath (named isAbs join split resolve isAbs_join named_join)
open Go.Resumption (Traces Emits)
open Go.Remote (Sends)

def rootCACRT := "rootCA.crt"

section Regen
variable (cfg : BootstrapConfig)

def Deployer.regenSteps : List (Step × String) :=
  [(.uploadCerts, "failed to upload new CA certs: "),
   (.deleteOldCerts, "failed to clear old client certs: "),
   (.deleteCniDir, "failed to clear old client certs: "),
   (.nodeletStackRestart, "failed to stop/start nodelet stack: ")]

/-- Nobody looks at the error of the goroutine. -/
def Deployer.uploadCertsAndRestartStack (deployer : Deployer) : Call Unit := do
  let _ ← (deployer.runSteps Deployer.regenSteps).run

def regenCA : Remote Unit := do
  annotate "Failed to remove old certs directory: "
    (attempt (ask (.removeAll (clusterCertsDir cfg.clusterId))))
  let _ ← mapError ("Cert regeneration failed: " ++ · ++ "\n") (genCALocal cfg.clusterId)
  annotate "Failed to regen kubeconfig with new CA: " (attempt (ask (.genKubeconfig cfg.clusterId)))

/-- A goroutine for each host; all are waited for. -/
def regenInParallel : List HostConfig → Remote Unit
  | [] => pure ()
  | host :: rest => do
    let deployer ← annotate "failed to get nodelet deployer: "
      (getNodeletDeployer (nodeletConfig cfg host))
    ExceptT.mk (Go.Resumption.parallel (ask .schedule) deployer.uploadCertsAndRestartStack (regenInParallel rest).run)

def regenCertsForHosts (nodes : List HostConfig) : Remote Unit := do
  regenInParallel cfg nodes
  syncNodes cfg nodes

/-- From the point where the configuration has been read and accepted. The first master comes
last. -/
def regenClusterCerts : Remote Unit := do
  annotate "Failed to regenerate new CA: " (regenCA cfg)
  mapError ("error adding nodelet Root CA as trusted certs: " ++ · ++ "\n")
    (attempt (ask (.trustCA cfg.certsDir)))
  let otherMasters := cfg.masters.drop 1
  let failed (_ : Go.Error) :=
    "Failed to regen certs for masters [" ++ " ".intercalate (otherMasters.map HostConfig.text) ++
      "]: err"
  mapError failed (regenCertsForHosts cfg otherMasters)
  mapError failed (regenCertsForHosts cfg cfg.workers)
  mapError failed (regenCertsForHosts cfg (cfg.masters.take 1))

end Regen

/-- The file of the authority that a request writes or reads. -/
def Request.rootCA : Request → Option String
  | .genCALocal clusterId => some (join [clusterCertsDir clusterId, rootCACRT])
  | .trustCA certsDir => some (join [certsDir, rootCACRT])
  | .genKubeconfig clusterId => some (join [clusterCertsDir clusterId, "rootCA.crt"])
  | .newEtcdClient rootCA _ => some rootCA
  | .perform deployer .uploadCerts =>
    some (join [clusterStateDir, deployer.nodeletCfg.clusterId, "certs", rootCACRT])
  | _ => none

/-- What a path names in a working directory, which may be gone. -/
def fileAt (cwd : Option (List Go.Filepath.Part)) (path : String) :
    Option (List Go.Filepath.Part) :=
  if isAbs path then some (named [] path) else cwd.map (named · path)

/-- All uses of an authority are uses of one file. -/
def OneRootCA (cwd : Option (List Go.Filepath.Part)) (trace : List Event) : Prop :=
  ∃ file, ∀ event ∈ trace, ∀ path, event.1.rootCA = some path → fileAt cwd path = some file

inductive Command where
  | deploy
  | scale
  | regen
  deriving DecidableEq, Repr

namespace Command
variable (cfg : BootstrapConfig) (cwd : List Go.Filepath.Part)

def program : Command → Remote Unit
  | .deploy => deployCluster cfg
  | .scale => scaleCluster cfg
  | .regen => regenClusterCerts cfg

/-- The directory that is regenerated is removed first, and the working directory with it if it is
inside. -/
def workingDir : Command → Option (List Go.Filepath.Part)
  | .regen => if named [] (clusterCertsDir cfg.clusterId) <:+ cwd then none else some cwd
  | _ => some cwd

/-- The directory that is given, as it is seen by the command, is that of the cluster. -/
def OwnDir : Command → Prop
  | .deploy => cfg.certsDir = "" ∨
    fileAt (some cwd) cfg.certsDir = some (named [] (clusterCertsDir cfg.clusterId))
  | .scale => True
  | .regen => fileAt (workingDir cfg cwd .regen) cfg.certsDir = some (named [] (clusterCertsDir cfg.clusterId))

end Command

section Files
variable {cwd : Option (List Go.Filepath.Part)} {clusterId path : String}

/-- The file of the authority in the directory of the cluster. -/
def clusterCA (clusterId : String) : List Go.Filepath.Part :=
    rootCACRT.toList :: named [] (clusterCertsDir clusterId)

theorem rootCACRT_plain : Go.Filepath.Plain rootCACRT.toList := ⟨by decide, by decide, by decide⟩

theorem fileAt_join (dir : String) :
    fileAt cwd (join [dir, rootCACRT]) = (fileAt cwd dir).map (rootCACRT.toList :: ·) := by
  have file (cwd : List Go.Filepath.Part) :=
    Go.Filepath.named_join_file cwd dir rootCACRT_plain (by decide)
  have abs : isAbs (join [dir, rootCACRT]) = isAbs dir := by
    by_cases given : dir = ""
    · subst given
      decide +kernel
    · exact isAbs_join given _
  unfold fileAt
  rw [abs]
  split
  · rw [file]
    rfl
  · simp only [Option.map_map, Function.comp_def, file]

theorem fileAt_clusterCertsDir :
    fileAt cwd (clusterCertsDir clusterId) = some (named [] (clusterCertsDir clusterId)) := by
  have abs : isAbs (clusterCertsDir clusterId) = true := isAbs_join (by decide) _
  rw [fileAt, if_pos abs]

theorem fileAt_generated :
    fileAt cwd (join [clusterCertsDir clusterId, rootCACRT]) = some (clusterCA clusterId) := by
  rw [fileAt_join, fileAt_clusterCertsDir]
  rfl

theorem clusterCA_eq : clusterCA clusterId =
    rootCACRT.toList :: "certs".toList :: resolve true (named [] clusterStateDir)
      (split clusterId) := by
  have certs : split "certs" = ["certs".toList] := by decide +kernel
  rw [clusterCA, clusterCertsDir, named_join _ (by decide), List.flatMap_cons, List.flatMap_cons,
    List.flatMap_nil, List.append_nil, certs, Go.Filepath.resolve_concat]
  rfl

theorem fileAt_etcdCA : fileAt cwd (etcdCA clusterId) = some (clusterCA clusterId) := by
  have abs : isAbs (etcdCA clusterId) = true := isAbs_join (by decide) _
  have base : named [] "/etc/nodelet" = named [] clusterStateDir := by decide +kernel
  have file : split "certs/rootCA.crt" = ["certs".toList, rootCACRT.toList] := by decide +kernel
  rw [fileAt, if_pos abs, etcdCA, named_join _ (by decide), List.flatMap_cons, List.flatMap_cons,
    List.flatMap_nil, List.append_nil, Go.Filepath.resolve_append, file, base, clusterCA_eq]
  rfl

theorem fileAt_uploaded :
    fileAt cwd (join [clusterStateDir, clusterId, "certs", rootCACRT]) =
      some (clusterCA clusterId) := by
  have abs : isAbs (join [clusterStateDir, clusterId, "certs", rootCACRT]) = true :=
    isAbs_join (by decide) _
  have file :
    ["certs", rootCACRT].flatMap split = ["certs".toList, rootCACRT.toList] := by decide +kernel
  rw [fileAt, if_pos abs, named_join _ (by decide), List.flatMap_cons, Go.Filepath.resolve_append,
    file,
    clusterCA_eq]
  rfl

end Files

section Uses
variable {cwd : Option (List Go.Filepath.Part)} {cfg : BootstrapConfig}

/-- If the event uses an authority, it is that of the cluster. -/
def UsesOwn (cwd : Option (List Go.Filepath.Part)) (clusterId : String) (event : Event) : Prop :=
  ∀ path, event.1.rootCA = some path → fileAt cwd path = some (clusterCA clusterId)

theorem usesOwn_plain (request : Request) (answer : request.Answer) (plain : request.Plain) :
    UsesOwn cwd clusterId ⟨request, answer⟩ := by
  rintro path uses
  cases request <;> first | exact absurd plain id | cases uses

theorem usesOwn_render {nodeletCfg : NodeletConfig} (answer : Except Go.Error Unit) :
    UsesOwn cwd clusterId ⟨.genNodeletConfigLocal nodeletCfg, answer⟩ := by
  rintro path ⟨⟩

theorem usesOwn_perform (same : deployer.nodeletCfg.clusterId = clusterId)
    (answer : Except Go.Error Unit) : UsesOwn cwd clusterId ⟨.perform deployer step, answer⟩ := by
  rintro path uses
  cases step <;> cases uses
  rw [same]
  exact fileAt_uploaded

theorem usesOwn_connect (endpoints : List String) (answer : Except Go.Error Unit) :
    UsesOwn cwd clusterId ⟨.newEtcdClient (etcdCA clusterId) endpoints, answer⟩ := by
  rintro path ⟨⟩
  exact fileAt_etcdCA

theorem usesOwn_generate (answer : Except Go.Error Unit) :
    UsesOwn cwd clusterId ⟨.genCALocal clusterId, answer⟩ := by
  rintro path ⟨⟩
  exact fileAt_generated

theorem usesOwn_sign (answer : Except Go.Error Unit) :
    UsesOwn cwd clusterId ⟨.genKubeconfig clusterId, answer⟩ := by
  rintro path ⟨⟩
  exact fileAt_generated

theorem usesOwn_trust {certsDir : String}
    (own : fileAt cwd certsDir = some (named [] (clusterCertsDir clusterId)))
    (answer : Except Go.Error Unit) : UsesOwn cwd clusterId ⟨.trustCA certsDir, answer⟩ := by
  rintro path ⟨⟩
  rw [fileAt_join, own]
  rfl

end Uses

section Commands
variable {cwd : Option (List Go.Filepath.Part)} {cfg : BootstrapConfig} {hosts : List HostConfig}

theorem usesOwn_deployMasters {masterList : List (String × String)} :
    Sends (UsesOwn cwd cfg.clusterId) (deployMasters cfg masterList hosts) :=
  emits_deployMasters usesOwn_plain (fun _ _ => usesOwn_render) fun _ _ _ _ => usesOwn_perform rfl

theorem usesOwn_deployWorkers : Sends (UsesOwn cwd cfg.clusterId) (deployWorkers cfg hosts) :=
  emits_deployWorkers usesOwn_plain (fun _ _ => usesOwn_render) fun _ _ _ _ => usesOwn_perform rfl

theorem usesOwn_deployCluster
    (own : fileAt cwd cfg.trustedDir = some (named [] (clusterCertsDir cfg.clusterId))) :
    Sends (UsesOwn cwd cfg.clusterId) (deployCluster cfg) :=
  .bind (emits_prepareCerts usesOwn_generate (usesOwn_trust own) usesOwn_sign) fun _ _ =>
    .bind usesOwn_deployMasters fun _ _ => .bind (.mapError usesOwn_deployWorkers) fun _ _ =>
      emits_ignore (emits_syncNodes usesOwn_plain)

theorem usesOwn_delete (nodeName : String) :
    Performs (UsesOwn cwd cfg.clusterId) nodeName .deleteNodelet := by
  rintro deployer - answer path ⟨⟩

theorem usesOwn_scaleCluster : Sends (UsesOwn cwd cfg.clusterId) (scaleCluster cfg) := by
  refine .bind (emits_planScale usesOwn_plain) fun plan _ => ?_
  have joins (hostId hostIp : String) (answer : Except Go.Error Unit) :
      UsesOwn cwd cfg.clusterId ⟨.memberAdd hostId hostIp, answer⟩ := by
    rintro path ⟨⟩
  have leaves (member : Member) (answer : Except Go.Error Unit) :
      UsesOwn cwd cfg.clusterId ⟨.memberRemove member, answer⟩ := by
    rintro path ⟨⟩
  refine .bind (.mapError (emits_addMasters usesOwn_plain usesOwn_connect (fun _ _ => joins _ _)
    (fun _ _ _ _ => usesOwn_render) fun _ _ _ _ _ => usesOwn_perform rfl)) fun currMasters _ => ?_
  refine .bind (.mapError (emits_removeMasters usesOwn_plain usesOwn_connect (fun _ _ member _ => leaves member)
    fun _ _ => usesOwn_delete _)) fun _ _ => ?_
  refine .bind (.mapError usesOwn_deployWorkers) fun _ _ => ?_
  refine .bind (emits_syncNodes usesOwn_plain) fun _ _ => ?_
  exact .mapError (emits_deleteWorkers usesOwn_plain fun _ _ => usesOwn_delete _)

theorem usesOwn_regenInParallel :
    Sends (UsesOwn cwd cfg.clusterId) (regenInParallel cfg hosts) := by
  induction hosts with
  | nil => exact .pure trivial
  | cons host rest ih =>
    refine .bind (.mapError (emits_getNodeletDeployer usesOwn_plain)) ?_
    rintro _ rfl
    refine Emits.parallel (emits_ask usesOwn_plain trivial) ?_ ih
    exact .bind (emits_runSteps fun _ _ => usesOwn_perform rfl) fun _ _ => trivial

theorem usesOwn_regenCertsForHosts :
    Sends (UsesOwn cwd cfg.clusterId) (regenCertsForHosts cfg hosts) :=
  .bind usesOwn_regenInParallel fun _ _ => emits_syncNodes usesOwn_plain

theorem usesOwn_regenClusterCerts
    (own : fileAt cwd cfg.certsDir = some (named [] (clusterCertsDir cfg.clusterId))) :
    Sends (UsesOwn cwd cfg.clusterId) (regenClusterCerts cfg) := by
  have removes (answer : Except Go.Error Unit) :
      UsesOwn cwd cfg.clusterId ⟨.removeAll (clusterCertsDir cfg.clusterId), answer⟩ := by
    rintro path ⟨⟩
  have generated : Sends (UsesOwn cwd cfg.clusterId) (genCALocal cfg.clusterId) :=
    .bind (.attempt (.perform usesOwn_generate)) fun _ _ => .pure trivial
  have regenerates : Sends (UsesOwn cwd cfg.clusterId) (regenCA cfg) :=
    .bind (.mapError (.attempt (.perform removes))) fun _ _ =>
      .bind (.mapError generated) fun _ _ => .mapError (.attempt (.perform usesOwn_sign))
  refine .bind (.mapError regenerates) fun _ _ => ?_
  refine .bind (.mapError (.attempt (.perform (usesOwn_trust own)))) fun _ _ => ?_
  exact .bind (.mapError usesOwn_regenCertsForHosts) fun _ _ =>
    .bind (.mapError usesOwn_regenCertsForHosts) fun _ _ =>
    .mapError usesOwn_regenCertsForHosts

end Commands

section Agreement
variable {cfg : BootstrapConfig} {cwd : List Go.Filepath.Part} {wd : Option (List Go.Filepath.Part)}
  {trace : List Event}
  {remaining : Call (Except Go.Error Unit)}

theorem oneRootCA_of_emits {program : Remote Unit}
    (emits : Sends (UsesOwn wd cfg.clusterId) program)
    (runs : Traces (fun _ => True) program.run trace remaining) : OneRootCA wd trace :=
  ⟨clusterCA cfg.clusterId, emits.mem runs⟩

theorem OneRootCA.own {clusterId certsDir : String} (one : OneRootCA wd trace)
    (signs : ⟨.genKubeconfig clusterId, .ok ()⟩ ∈ trace)
    (trusts : ⟨.trustCA certsDir, .ok ()⟩ ∈ trace) :
    fileAt wd certsDir = some (named [] (clusterCertsDir clusterId)) := by
  obtain ⟨file, same⟩ := one
  have signing : some (clusterCA clusterId) = some file :=
    fileAt_generated.symm.trans (same _ signs _ rfl)
  have trusting : fileAt wd (join [certsDir, rootCACRT]) = some file := same _ trusts _ rfl
  rw [← signing, fileAt_join] at trusting
  obtain ⟨dir, found, together⟩ := Option.map_eq_some_iff.mp trusting
  rw [found, (List.cons.inj together).2]

/-- The directory that is given is trusted, and the one of the cluster is signed with. -/
theorem deployCluster_signs (given : cfg.certsDir ≠ "") :
    ∃ remaining, Traces (fun _ => True) (deployCluster cfg).run
      [⟨.trustCA cfg.certsDir, .ok ()⟩, ⟨.genKubeconfig cfg.clusterId, .ok ()⟩] remaining := by
  have prepared : prepareCerts cfg = (do
      mapError ("error adding nodelet Root CA as trusted certs: " ++ · ++ "\n")
        (attempt (ask (.trustCA cfg.certsDir)))
      attempt (ask (.genKubeconfig cfg.clusterId))) := by
    rw [prepareCerts, if_neg given]
    rfl
  rw [deployCluster, prepared]
  exact ⟨_, .call (t := ()) trivial (.call (t := ()) trivial .refl)⟩

theorem regenClusterCerts_trusts (cfg : BootstrapConfig) :
    ∃ remaining, Traces (fun _ => True) (regenClusterCerts cfg).run
      [⟨.removeAll (clusterCertsDir cfg.clusterId), .ok ()⟩, ⟨.genCALocal cfg.clusterId, .ok ()⟩,
       ⟨.genKubeconfig cfg.clusterId, .ok ()⟩, ⟨.trustCA cfg.certsDir, .ok ()⟩] remaining :=
  ⟨_, .call (t := ()) trivial
    (.call (t := ()) trivial (.call (t := ()) trivial (.call (t := ()) trivial .refl)))⟩

/-- A command uses one certificate authority, whatever happens on the way, exactly where the
directory that is given to it is that of the cluster. Scaling does not use the directory that is
given. -/
theorem one_rootCA_iff (command : Command) (cfg : BootstrapConfig) (cwd : List Go.Filepath.Part) :
    (∀ trace remaining, Traces (fun _ => True) (command.program cfg).run trace remaining →
      OneRootCA (command.workingDir cfg cwd) trace) ↔ command.OwnDir cfg cwd := by
  cases command with
  | deploy =>
    constructor
    · intro agree
      by_cases given : cfg.certsDir = ""
      · exact .inl given
      · obtain ⟨remaining, runs⟩ := deployCluster_signs given
        exact .inr ((agree _ _ runs).own (by simp) (by simp))
    · intro own trace remaining runs
      refine oneRootCA_of_emits (usesOwn_deployCluster ?_) runs
      obtain given | given := own
      · rw [BootstrapConfig.trustedDir, if_pos given]
        exact fileAt_clusterCertsDir
      · rw [BootstrapConfig.trustedDir]
        split
        · exact fileAt_clusterCertsDir
        · exact given
  | scale => exact ⟨fun _ => trivial, fun _ _ _ => oneRootCA_of_emits usesOwn_scaleCluster⟩
  | regen =>
    constructor
    · intro agree
      obtain ⟨remaining, runs⟩ := regenClusterCerts_trusts cfg
      exact (agree _ _ runs).own (by simp) (by simp)
    · exact fun own _ _ => oneRootCA_of_emits (usesOwn_regenClusterCerts own)

/-- A directory that is given is trusted only, and without one a command trusts what is in the
working directory. -/
theorem other_rootCA :
    (∃ trace remaining,
      Traces (fun _ => True) (deployCluster { clusterId := "one", certsDir := "/root/ca" }).run
      trace remaining ∧
      ¬ OneRootCA (Command.workingDir { clusterId := "one", certsDir := "/root/ca" } [] .deploy)
      trace) ∧
    ∃ trace remaining, Traces (fun _ => True) (regenClusterCerts { clusterId := "one" }).run trace
      remaining ∧ ¬ OneRootCA (Command.workingDir { clusterId := "one" } [] .regen) trace := by
  constructor
  · obtain ⟨remaining, runs⟩ :=
      @deployCluster_signs { clusterId := "one", certsDir := "/root/ca" } (by decide)
    refine ⟨_, _, runs, fun one => ?_⟩
    have own := one.own (.tail _ (.head _)) (.head _)
    exact absurd own (by decide +kernel)
  · obtain ⟨remaining, runs⟩ := regenClusterCerts_trusts { clusterId := "one" }
    refine ⟨_, _, runs, fun one => ?_⟩
    have own := one.own (.tail _ (.tail _ (.head _))) (.tail _ (.tail _ (.tail _ (.head _))))
    exact absurd own (by decide +kernel)

end Agreement
end Nodeletctl
