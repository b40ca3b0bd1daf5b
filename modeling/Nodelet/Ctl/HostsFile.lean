import Nodelet.Ctl.Cluster

/-! The upload of the hosts file to the masters. Whether an operation has failed is kept in a flag,
which a failed upload clears. -/
namespace Nodeletctl
open Go.Resumption (Traces runs_bind_done)
open Go.Remote (runs_lift)

def Deployer.uploadCoreDNSHostsFile (deployer : Deployer) : Remote Unit :=
  if deployer.nodeletCfg.coreDNSHostsFile = "" then pure ()
  else annotate "Failed to upload custom hosts file: " (deployer.perform .uploadCoreDNSHostsFile)

def Deployer.restartNodelet (deployer : Deployer) : Remote Unit := deployer.perform .restartNodelet

/-- What is done on a master, with the flag. The errors are only logged. -/
def Deployer.uploadAndRestart (deployer : Deployer) (failed : Bool) : Call Bool := do
  let failed := match ← deployer.uploadCoreDNSHostsFile.run with
    | .error _ => false
    | .ok () => failed
  match ← deployer.restartNodelet.run with
  | .error _ => return true
  | .ok () => return failed

def uploadHosts (cfg : BootstrapConfig) : Bool → List HostConfig → Remote Bool
  | failed, [] => pure failed
  | failed, host :: rest => do
    let deployer ← annotate "failed to get nodelet deployer: "
      (getNodeletDeployer (nodeletConfig cfg host))
    let failed ← ExceptT.lift (deployer.uploadAndRestart failed)
    uploadHosts cfg failed rest

def uploadHostsFile (cfg : BootstrapConfig) : Remote Unit := do
  if ← uploadHosts cfg false cfg.masters then
    throw "Failed to upload custom hosts file or restart nodelet. Check node for details"

/-- How the two operations on a master end. -/
structure Outcome where
  upload : Except Go.Error Unit
  restart : Except Go.Error Unit

namespace Outcome

def Succeeded (outcome : Outcome) : Prop := outcome.upload.isOk = true ∧ outcome.restart.isOk = true

/-- The flag after a master. -/
def flag (failed : Bool) (outcome : Outcome) : Bool :=
    (failed && outcome.upload.isOk) || !outcome.restart.isOk

section Flag
variable {pattern : List Outcome} {failed : Bool}

theorem flag_true : pattern.foldl flag true = true ↔
    pattern.foldl flag false = true ∨ ∀ outcome ∈ pattern, outcome.upload.isOk = true := by
  induction pattern with
  | nil => simp
  | cons outcome rest ih =>
    rw [List.foldl_cons, List.foldl_cons, List.forall_mem_cons]
    cases upload : outcome.upload.isOk <;> cases restart :
      outcome.restart.isOk <;> simp [flag, upload, restart, ih]

theorem restart_of_flag (flagged : pattern.foldl flag false = true) :
    ∃ outcome ∈ pattern, outcome.restart.isOk = false := by
  induction pattern with
  | nil => contradiction
  | cons outcome rest ih =>
    rw [List.foldl_cons] at flagged
    cases restart : outcome.restart.isOk with
    | false => exact ⟨outcome, List.mem_cons_self, restart⟩
    | true =>
      rw [show flag false outcome = false by simp [flag, restart]] at flagged
      obtain ⟨later, member, failed⟩ := ih flagged
      exact ⟨later, List.mem_cons_of_mem _ member, failed⟩

theorem flag_of_restart (uploaded : ∀ outcome ∈ pattern, outcome.upload.isOk = true)
    (failed : ∃ outcome ∈ pattern, outcome.restart.isOk = false) :
    pattern.foldl flag false = true := by
  induction pattern with
  | nil => simp at failed
  | cons outcome rest ih =>
    obtain ⟨-, uploaded⟩ := List.forall_mem_cons.mp uploaded
    rw [List.foldl_cons]
    cases restart : outcome.restart.isOk with
    | false => simpa [flag, restart] using flag_true.mpr (.inr uploaded)
    | true =>
      rw [show flag false outcome = false by simp [flag, restart]]
      exact ih uploaded (by simpa [restart] using failed)

/-- A failed upload comes before a failed restart, on the same master or on a later one. -/
def Covered (pattern : List Outcome) : Prop :=
  ∀ outcome after, (outcome :: after) <:+ pattern → outcome.upload.isOk = false →
    ∃ later ∈ outcome :: after, later.restart.isOk = false

theorem covered_cons : Covered (outcome :: pattern) ↔
    (outcome.upload.isOk = false → ∃ later ∈ outcome :: pattern, later.restart.isOk = false) ∧
      Covered pattern := by
  constructor
  · exact fun covered => ⟨covered outcome pattern List.suffix_rfl,
      fun other after suffix => covered other after (suffix.trans (List.suffix_cons _ _))⟩
  · rintro ⟨first, others⟩ other after suffix
    obtain same | suffix := List.suffix_cons_iff.mp suffix
    · obtain ⟨rfl, rfl⟩ := List.cons.inj same
      exact first
    · exact others other after suffix

theorem flag_of_succeeded (succeeded : ∀ outcome ∈ pattern, outcome.Succeeded) :
    pattern.foldl flag false = false := by
  refine Bool.eq_false_iff.mpr fun flagged => ?_
  obtain ⟨outcome, member, failed⟩ := restart_of_flag flagged
  simp [(succeeded outcome member).2] at failed

/-- A failure that comes is told exactly where no failed upload is left without a failed restart. -/
theorem told_iff :
    ((∃ outcome ∈ pattern, ¬ outcome.Succeeded) → pattern.foldl flag false = true) ↔
      Covered pattern := by
  induction pattern with
  | nil => exact ⟨fun _ _ _ suffix => by simp at suffix, fun _ failed => by simp at failed⟩
  | cons outcome rest ih =>
    have first :
      (outcome :: rest).foldl flag false = rest.foldl flag (!outcome.restart.isOk) := by simp [flag]
    rw [covered_cons, ← ih, first]
    constructor
    · refine fun told => ⟨fun upload => ?_, fun ⟨later, member, failed⟩ => ?_⟩
      · exact restart_of_flag
          (first ▸ told
            ⟨outcome, List.mem_cons_self, fun succeeded => by simp [succeeded.1] at upload⟩)
      · have flagged := told ⟨later, List.mem_cons_of_mem _ member, failed⟩
        cases restart : outcome.restart.isOk with
        | true => simpa [restart] using flagged
        | false =>
          obtain flagged | uploaded := flag_true.mp (by simpa [restart] using flagged)
          · exact flagged
          · refine flag_of_restart uploaded ⟨later, member, Bool.eq_false_iff.mpr fun restarted => ?_⟩
            exact failed ⟨uploaded later member, restarted⟩
    · rintro ⟨here, told⟩ ⟨later, member, failed⟩
      by_cases others : ∃ outcome ∈ rest, ¬ outcome.Succeeded
      · cases outcome.restart.isOk with
        | true => exact told others
        | false => exact flag_true.mpr (.inl (told others))
      · simp only [not_exists, not_and, not_not] at others
        obtain rfl | later' := List.mem_cons.mp member
        · cases restart : later.restart.isOk with
          | false => exact flag_true.mpr (.inr fun outcome member => (others outcome member).1)
          | true =>
            have upload : later.upload.isOk = false := Bool.eq_false_iff.mpr fun uploaded =>
              failed ⟨uploaded, restart⟩
            obtain ⟨last, member, stopped⟩ := here upload
            obtain rfl | member := List.mem_cons.mp member
            · simp [restart] at stopped
            · simp [(others last member).2] at stopped
        · exact absurd (others later later') failed

theorem flag_iff : (pattern.foldl flag false = false ↔ ∀ outcome ∈ pattern, outcome.Succeeded) ↔ Covered pattern := by
  rw [← told_iff]
  constructor
  · rintro same ⟨outcome, member, failed⟩
    by_contra unflagged
    exact failed (same.mp (Bool.eq_false_iff.mpr unflagged) outcome member)
  · refine fun told => ⟨fun unflagged outcome member => ?_, flag_of_succeeded⟩
    by_contra failed
    simp [told ⟨outcome, member, failed⟩] at unflagged

end Flag
end Outcome

section Runs
variable {cfg : BootstrapConfig} {deployer : Deployer} {outcome : Outcome} {failed : Bool}

/-- Every deployer is created. -/
def Created : Event → Prop
  | ⟨.getNodeletDeployer _, answer⟩ => answer = .ok ()
  | _ => True

/-- What is asked of a master, with the outcome. Without a hosts file there is no upload. -/
def Outcome.events (outcome : Outcome) (deployer : Deployer) : List Event :=
  (if deployer.nodeletCfg.coreDNSHostsFile = "" then []
    else [⟨.perform deployer .uploadCoreDNSHostsFile, outcome.upload⟩]) ++
    [⟨.perform deployer .restartNodelet, outcome.restart⟩]

theorem uploadAndRestart_runs
    (skipped : deployer.nodeletCfg.coreDNSHostsFile = "" → outcome.upload = .ok ()) :
    Traces Created (deployer.uploadAndRestart failed) (outcome.events deployer)
      (.done (outcome.flag failed)) := by
  obtain ⟨upload, restart⟩ := outcome
  rw [Deployer.uploadAndRestart, Deployer.uploadCoreDNSHostsFile, Outcome.events]
  by_cases none : deployer.nodeletCfg.coreDNSHostsFile = ""
  · obtain rfl : upload = .ok () := skipped none
    rw [if_pos none, if_pos none]
    refine .call (t := ()) trivial ?_
    cases restart <;> cases failed <;> exact .refl
  · rw [if_neg none, if_neg none]
    refine .call (t := ()) trivial ?_
    cases upload <;> refine .call (t := ()) trivial ?_ <;> cases restart <;> cases failed <;>
      exact .refl

/-- The events of the masters in turn. -/
def attempts (cfg : BootstrapConfig) : List HostConfig → List Outcome → List Event
  | host :: rest, outcome :: pattern =>
    ⟨.getNodeletDeployer host.hostIp, .ok ()⟩ :: outcome.events ⟨nodeletConfig cfg host⟩ ++
      attempts cfg rest pattern
  | _, _ => []

variable {pattern : List Outcome}

theorem uploadHosts_runs (length : pattern.length = hosts.length)
    (skipped : cfg.dns.hostsFile = "" → ∀ outcome ∈ pattern, outcome.upload = .ok ()) :
    Traces Created (uploadHosts cfg failed hosts).run (attempts cfg hosts pattern)
      (.done (.ok (pattern.foldl Outcome.flag failed))) := by
  induction hosts generalizing failed pattern with
  | nil =>
    obtain rfl := List.length_eq_zero_iff.mp length
    exact .refl
  | cons host rest ih =>
    obtain _ | ⟨outcome, pattern⟩ := pattern
    · contradiction
    · have attempt : Traces Created (Deployer.uploadAndRestart ⟨nodeletConfig cfg host⟩ failed)
          (outcome.events ⟨nodeletConfig cfg host⟩) (.done (outcome.flag failed)) :=
        uploadAndRestart_runs fun none => skipped none outcome List.mem_cons_self
      have others : Traces Created (uploadHosts cfg (outcome.flag failed) rest).run _ _ :=
        ih (Nat.succ.inj length) fun none outcome member => skipped none outcome (List.mem_cons_of_mem _ member)
      have body : Traces Created (ExceptT.lift (Deployer.uploadAndRestart ⟨nodeletConfig cfg host⟩ failed) >>=
          fun failed => uploadHosts cfg failed rest : Remote Bool).run _ _ :=
        runs_bind_done.mpr ⟨_, _, _, _, rfl, runs_lift.mpr ⟨_, rfl, attempt⟩, others⟩
      exact .call (t := ()) rfl body

theorem uploadHostsFile_runs (length : pattern.length = cfg.masters.length)
    (skipped : cfg.dns.hostsFile = "" → ∀ outcome ∈ pattern, outcome.upload = .ok ()) :
    ∃ result, Traces Created (uploadHostsFile cfg).run (attempts cfg cfg.masters pattern)
      (.done result) ∧ (result = .ok () ↔ pattern.foldl Outcome.flag false = false) := by
  have looping : Traces Created (uploadHosts cfg false cfg.masters).run _ _ :=
    uploadHosts_runs length skipped
  rw [← List.append_nil (attempts cfg cfg.masters pattern)]
  cases flagged : pattern.foldl Outcome.flag false with
  | false =>
    rw [flagged] at looping
    exact ⟨.ok (), runs_bind_done.mpr ⟨_, _, _, _, rfl, looping, .refl⟩, by simp⟩
  | true =>
    rw [flagged] at looping
    exact ⟨.error _, runs_bind_done.mpr ⟨_, _, _, _, rfl, looping, .refl⟩, by simp⟩

/-- In every run with these outcomes, nil tells that all has succeeded exactly where a failed
restart follows each failed upload. -/
theorem uploadHostsFile_nil_iff (cfg : BootstrapConfig) (pattern : List Outcome)
    (length : pattern.length = cfg.masters.length)
    (skipped : cfg.dns.hostsFile = "" → ∀ outcome ∈ pattern, outcome.upload = .ok ()) :
    (∀ result,
      Traces Created (uploadHostsFile cfg).run (attempts cfg cfg.masters pattern) (.done result) →
      (result = .ok () ↔ ∀ outcome ∈ pattern, outcome.Succeeded)) ↔ Outcome.Covered pattern := by
  obtain ⟨result, runs, unflagged⟩ := uploadHostsFile_runs length skipped
  rw [← Outcome.flag_iff, ← unflagged]
  refine ⟨fun reported => reported result runs, fun reported other again => ?_⟩
  rwa [runs.unique again]

end Runs

def lone : BootstrapConfig :=
    { dns := { hostsFile := "hosts" }, masterNodes := some [{ nodeName := "10.0.0.1" }] }

/-- Here the restart fails after the upload. -/
def unreachable : Outcome := ⟨.error "unreachable", .error "unreachable"⟩

def notUploaded : Outcome := ⟨.error "no space", .ok ()⟩

def three : BootstrapConfig :=
  { dns := { hostsFile := "hosts" }
    masterNodes :=
      some [{ nodeName := "10.0.0.1" }, { nodeName := "10.0.0.2" }, { nodeName := "10.0.0.3" }] }

/-- The upload that fails on the first master comes before the restart that fails on the last
one. -/
def mixed : List Outcome := [notUploaded, ⟨.ok (), .ok ()⟩, unreachable]

theorem uploadHostsFile_nil_iff_mixed : Outcome.Covered mixed ∧
    ∀ result, Traces Created (uploadHostsFile three).run (attempts three three.masters mixed)
      (.done result) → (result = .ok () ↔ ∀ outcome ∈ mixed, outcome.Succeeded) := by
  have covered : Outcome.Covered mixed := by
    simp only [mixed, Outcome.covered_cons]
    refine ⟨fun _ => ⟨unreachable, by simp, rfl⟩, nofun, fun _ => ⟨unreachable, by simp, rfl⟩, ?_⟩
    intro outcome after suffix
    simp at suffix
  exact ⟨covered, (uploadHostsFile_nil_iff three mixed rfl nofun).mpr covered⟩

/-- The upload fails on the only master, its nodelet is restarted, and nil is returned. -/
theorem failed_upload_is_nil :
    Traces Created (uploadHostsFile lone).run (attempts lone lone.masters [notUploaded])
      (.done (.ok ())) ∧ ¬ ∀ outcome ∈ [notUploaded], outcome.Succeeded := by
  refine ⟨.call (t := ()) rfl (.call (t := ()) trivial (.call (t := ()) trivial .refl)),
    fun succeeded => ?_⟩
  exact absurd (succeeded notUploaded List.mem_cons_self).1 (by decide)

end Nodeletctl
