import Mathlib.Logic.Relation
import Nodelet.Ctl.CertStore

/-! What the commands on a cluster's certificates leave behind: commands that all return without an
error leave a directory whose files belong together. -/
namespace Nodeletctl.CertStore
open Go (Error Failure Faulty)
open Go.Faulty (orFail ofExcept ensures_orFail ensures_ofExcept ensures_mapError)
open Go.Resumption (Ensures Runs drive_runs)

inductive Command where
  | genCALocal
  | genKubeconfig
  | regenCA
  | renewCAIfExpiring
  deriving DecidableEq, Repr

section Specification
variable (cfg : BootstrapConfig)

/-- The credentials of a cluster's administrator. -/
structure Credentials where
  ca : Certificate
  client : Certificate
  signed : client.signedBy = ca.publicKey

def Credentials.kubeConfigData (credentials : Credentials) : KubeConfigData :=
  { clusterId := cfg.clusterId
    masterIp := if cfg.ipv6Enabled then "[" ++ cfg.masterIp ++ "]" else cfg.masterIp
    k8sApiPort := cfg.k8sApiPort
    caCertData := credentials.ca
    clientCertData := credentials.client
    clientKeyData := credentials.client.publicKey }

/-- The directory with these credentials, and with the keys of both certificates. -/
def Credentials.dir (credentials : Credentials) : Dir
  | .rootCACRT => some (.certificate credentials.ca)
  | .rootCAKey => some (.privateKey credentials.ca.publicKey)
  | .adminCert => some (.certificate credentials.client)
  | .adminKey => some (.privateKey credentials.client.publicKey)
  | .adminKubeconfig => some (.kubeconfig (credentials.kubeConfigData cfg))

def Consistent (dir : Dir) : Prop := ∃ credentials : Credentials, dir = credentials.dir cfg

/-- A kubeconfig file that is whole is the one of some credentials. -/
def Sound (dir : Dir) : Prop :=
  ∀ args, dir .adminKubeconfig = some (.kubeconfig args) → ∃ credentials :
    Credentials, args = credentials.kubeConfigData cfg

def Command.program : Command → Program Unit
  | .genCALocal => CertStore.genCALocal
  | .genKubeconfig => CertStore.genKubeconfig cfg
  | .regenCA => CertStore.regenCA cfg
  | .renewCAIfExpiring => CertStore.renewCAIfExpiring cfg

/-- The commands are run one after the other, each to its end. -/
inductive Performs : Dir → List (Command × Except Failure Unit) → Dir → Prop where
  | nil : Performs dir [] dir
  | cons (runs : Runs Serves (command.program cfg).run dir trace (.done outcome) middle)
      (rest : Performs middle commands final) : Performs dir ((command, outcome) :: commands) final

/-- A command has been started on the directory, and may have been killed. -/
def Started (dir next : Dir) : Prop :=
  ∃ (command : Command) (trace : List _) (remaining : _), Runs Serves (command.program cfg).run dir
    trace remaining next

end Specification

section Disk

/-- A disk on which every request succeeds but the write of one file, which is cut short. -/
def disk (torn : Option File) (dir : Dir) : (request : Request) → Option (request.Answer × Dir)
  | .randomSerial => some (.ok 1, dir)
  | .generateKey => some (.ok 2048, dir)
  | .now => some ((0 : Int), dir)
  | .nowInYears years => some ((years * (365 * 24 * 3600 * 1000000000) : Int), dir)
  | .removeAll => some (none, fun _ => none)
  | .stat file => some ((dir file).isSome, dir)
  | .read file => (dir file).map fun contents => (.ok contents, dir)
  | .create file => some (none, dir.put file (.noBlock ""))
  | .write file contents =>
    if torn =
      some file then some (some "no space left on device", dir.put file (.noBlock "-----BEGIN"))
    else some (none, dir.put file contents)
  | .createCertificate | .mkdirAll | .chmod _ => some (none, dir)

theorem disk_serves (torn : Option File) (dir : Dir) (request : Request) (reply : request.Answer)
    (next : Dir)
    (answered : disk torn dir request = some (reply, next)) : Serves dir ⟨request, reply⟩ next := by
  cases request with
  | read file =>
    obtain ⟨contents, found, same⟩ := Option.map_eq_some_iff.mp answered
    cases same
    exact ⟨rfl, fun contents' same => Except.ok.inj same ▸ found⟩
  | write file contents =>
    simp only [disk] at answered
    split at answered
    · cases answered
      exact .inr (.inr ⟨_, rfl⟩)
    · cases answered
      exact rfl
  | stat file =>
    cases answered
    exact ⟨rfl, fun missing => Option.not_isSome_iff_eq_none.mp (by simp [missing])⟩
  | randomSerial | generateKey | createCertificate | now | nowInYears | mkdirAll | removeAll |
    create | chmod =>
    cases answered
    exact rfl

/-- How the command ends on such a disk, and what it leaves. -/
def Command.on (command : Command) (cfg : BootstrapConfig) (torn : Option File) (dir : Dir) :
    Option (Except Failure Unit) × Dir :=
  match Go.Resumption.drive (disk torn) (command.program cfg).run dir with
  | some (_, outcome, next) => (some outcome, next)
  | none => (none, dir)

variable {cfg : BootstrapConfig} {command : Command} {dir : Dir} {outcome : Except Failure Unit}

theorem Command.on_runs (torn : Option File) (ended : (command.on cfg torn dir).1 = some outcome) :
    ∃ trace, Runs Serves (command.program cfg).run dir trace (.done outcome)
      (command.on cfg torn dir).2 := by
  unfold Command.on at ended ⊢
  split at ended
  · rename_i driven
    cases ended
    exact ⟨_, drive_runs (disk_serves torn) driven⟩
  · cases ended

theorem Performs.on {final : Dir} (torn : Option File)
    (ended : (command.on cfg torn dir).1 = some outcome)
    (rest : Performs cfg (command.on cfg torn dir).2 commands final) :
    Performs cfg dir ((command, outcome) :: commands) final := by
  obtain ⟨trace, runs⟩ := Command.on_runs torn ended
  exact .cons runs rest

theorem Started.on (command : Command) (torn : Option File)
    (ended : (command.on cfg torn dir).1 = some outcome) :
    Started cfg dir (command.on cfg torn dir).2 := by
  obtain ⟨trace, runs⟩ := Command.on_runs torn ended
  exact ⟨command, trace, _, runs⟩

/-- What commands leave that are run one after the other from an empty directory. -/
def stored (commands : List (Command × Option File)) : Dir :=
  commands.foldl (fun dir command => (command.1.on {} command.2 dir).2) fun _ => none

end Disk

section Rules
variable {β : Type} {dir : Dir} {file : File} {contents : Contents} {message : String → String}
  {final : β → Dir → Prop}
  {failed : Failure → Dir → Prop}

theorem read_bind {next : Contents → Program β} (failing : ∀ err, failed (.error err) dir)
    (rest : ∀ contents, dir file = some contents →
      Ensures Serves (next contents) dir final failed) :
    Ensures Serves (readFile file >>= fun result => ofExcept (result.mapError message) >>= next)
      dir final failed := by
  refine Ensures.perform_bind ?_
  rintro (err | contents) t ⟨rfl, found⟩
  · exact failing _
  · exact rest contents (found contents rfl)

theorem write_bind {next : Unit → Program β}
    (torn : ∀ err t, Serves dir ⟨.write file contents, some err⟩ t →
      failed (.error (message err)) t)
    (rest : Ensures Serves (next ()) (dir.put file contents) final failed) :
    Ensures Serves (writeFile file contents >>= fun err => orFail (err.map message) >>= next) dir
      final failed := by
  refine Ensures.perform_bind ?_
  rintro (_ | err) t served
  · cases served
    exact rest
  · exact torn err t served

theorem parseCertificate_bind {text : String} {next : Certificate → Program β}
    (failing : ∀ failure, failed failure dir)
    (rest : ∀ certificate, contents = .certificate certificate →
      Ensures Serves (next certificate) dir final failed) :
    Ensures Serves (parseCertificate text contents >>= next) dir final failed := by
  cases contents with
  | certificate certificate => exact rest certificate rfl
  | privateKey | otherBlock | kubeconfig | noBlock => exact failing _

theorem parsePKCS1PrivateKey_bind {text : String} {next : Key → Program β}
    (failing : ∀ failure, failed failure dir)
    (rest : ∀ key, contents = .privateKey key → Ensures Serves (next key) dir final failed) :
    Ensures Serves (parsePKCS1PrivateKey text contents >>= next) dir final failed := by
  cases contents with
  | privateKey key => exact rest key rfl
  | certificate | otherBlock | kubeconfig | noBlock => exact failing _

end Rules

section Established
variable {cfg : BootstrapConfig} {dir : Dir}

theorem createClientCertificate_matches {ca client : Certificate} :
    Ensures Serves (createClientCertificate ca caKey client) dir
      (fun certificate t => t = dir ∧ certificate = client ∧ caKey = ca.publicKey) (fun _ t =>
      t = dir) := by
  refine Ensures.perform_bind ?_
  rintro err t rfl
  refine ensures_orFail (fun _ _ => rfl) fun _ => ?_
  split
  · exact Ensures.throw rfl
  · exact Ensures.pure ⟨rfl, rfl, not_ne_iff.mp ‹_›⟩

theorem genKubeconfig_consistent :
    Ensures Serves (genKubeconfig cfg) dir (fun _ t => Consistent cfg t) (fun _ _ => True) := by
  refine read_bind (fun _ => trivial) fun caFile caFound => ?_
  refine parseCertificate_bind (fun _ => trivial) ?_
  rintro ca rfl
  refine read_bind (fun _ => trivial) fun caKeyBytes keyFound => ?_
  refine parsePKCS1PrivateKey_bind (fun _ => trivial) ?_
  rintro caKey rfl
  refine Ensures.perform_bind ?_
  rintro generated t rfl
  refine ensures_ofExcept (fun _ _ => trivial) fun adminPrivKey _ => ?_
  refine Ensures.perform_bind ?_
  rintro serial t rfl
  refine ensures_ofExcept (fun _ _ => trivial) fun serialNumber _ => ?_
  refine Ensures.perform_bind ?_
  rintro notAfter t rfl
  refine Ensures.bind (createClientCertificate_matches.weaken (fun _ _ => id) fun _ _ _ =>
    trivial) ?_
  rintro clientCert t ⟨rfl, rfl, rfl⟩
  refine write_bind (fun _ _ _ => trivial) (write_bind (fun _ _ _ => trivial) ?_)
  refine Ensures.perform_bind ?_
  rintro created t served
  refine ensures_orFail (fun _ _ => trivial) fun fine => ?_
  cases Option.map_eq_none_iff.mp fine
  cases served
  refine write_bind (fun _ _ _ => trivial) (Ensures.perform_bind ?_)
  rintro (_ | err) t rfl
  · refine Ensures.pure ⟨⟨ca, ⟨serialNumber, adminPrivKey, ca.publicKey, false, notAfter⟩, rfl⟩, ?_⟩
    funext file
    cases file <;> simp [Credentials.dir, Credentials.kubeConfigData, Dir.put, caFound, keyFound]
  · exact Ensures.throw trivial

theorem genCALocal_of_present (crt : dir .rootCACRT ≠ none) (key : dir .rootCAKey ≠ none) :
    Ensures Serves genCALocal dir (fun _ t => t = dir) (fun _ _ => False) := by
  have present :
      Ensures Serves certsExist dir (fun found t => found = true ∧ t = dir) (fun _ _ => False) := by
    refine Ensures.perform_bind ?_
    rintro found t ⟨rfl, missing⟩
    cases found with
    | false => exact absurd (missing rfl) crt
    | true =>
      rintro found t ⟨rfl, missing⟩
      cases found with
      | false => exact absurd (missing rfl) key
      | true => exact ⟨rfl, rfl⟩
  refine Ensures.bind present ?_
  rintro found t ⟨rfl, rfl⟩
  exact Ensures.pure rfl

theorem regenCA_consistent :
    Ensures Serves (regenCA cfg) dir (fun _ t => Consistent cfg t) (fun _ _ => True) := by
  refine Ensures.perform_bind fun err t _ => ensures_orFail (fun _ _ => trivial) fun _ => ?_
  refine Ensures.bind (Ensures.any _) fun _ t _ => ?_
  exact ensures_mapError genKubeconfig_consistent fun _ _ => id

theorem Consistent.present (consistent : Consistent cfg dir) :
    dir .rootCACRT ≠ none ∧ dir .rootCAKey ≠ none := by
  obtain ⟨credentials, rfl⟩ := consistent
  exact ⟨Option.some_ne_none _, Option.some_ne_none _⟩

theorem Command.consistent (consistent : Consistent cfg dir) (command : Command) :
    Ensures Serves (command.program cfg) dir (fun _ t => Consistent cfg t) (fun _ _ => True) := by
  cases command with
  | genCALocal =>
    refine (genCALocal_of_present consistent.present.1 consistent.present.2).weaken ?_ fun _ _ =>
      False.elim
    rintro _ t rfl
    exact consistent
  | genKubeconfig => exact genKubeconfig_consistent
  | regenCA => exact regenCA_consistent
  | renewCAIfExpiring =>
    refine read_bind (fun _ => trivial) fun caFile _ =>
      parseCertificate_bind (fun _ => trivial) fun ca _ => ?_
    refine Ensures.perform_bind ?_
    rintro currTime t rfl
    split
    · exact regenCA_consistent
    · exact Ensures.pure consistent

variable {final : Dir} {commands : List (Command × Except Failure Unit)}

theorem Performs.consistent (performed : Performs cfg dir commands final)
    (succeeded : ∀ c ∈ commands, c.2 = .ok ())
    (consistent : Consistent cfg dir) : Consistent cfg final := by
  induction performed with
  | nil => exact consistent
  | cons runs _ ih =>
    obtain ⟨first, rest⟩ := List.forall_mem_cons.mp succeeded
    cases first
    exact ih rest ((Command.consistent consistent _).returned runs)

/-- Whatever earlier commands have left: if from then on every command returns without an error, and
one of them makes the kubeconfig, then the files of the directory belong together. -/
theorem certs_belong_together (performed : Performs cfg dir commands final)
    (succeeded : ∀ c ∈ commands, c.2 = .ok ())
    (made : ∃ c ∈ commands, c.1 = .genKubeconfig ∨ c.1 = .regenCA) : Consistent cfg final := by
  induction performed with
  | nil =>
    obtain ⟨c, member, -⟩ := made
    cases member
  | cons runs rest ih =>
    obtain ⟨first, later⟩ := List.forall_mem_cons.mp succeeded
    cases first
    obtain ⟨c, member, making⟩ := made
    rcases List.mem_cons.mp member with rfl | member
    · refine rest.consistent later ?_
      rcases making with rfl | rfl
      · exact genKubeconfig_consistent.returned runs
      · exact regenCA_consistent.returned runs
    · exact ih later ⟨c, member, making⟩

theorem certs_belong_together_when_created : ∃ final,
    Performs {} (fun _ =>
      none) [(.genCALocal, .ok ()), (.genKubeconfig, .ok ()), (.renewCAIfExpiring, .ok ())] final ∧
      Consistent {} final := by
  have performed : Performs {} (fun _ => none) _
      (stored [(.genCALocal, none), (.genKubeconfig, none), (.renewCAIfExpiring, none)]) :=
    .on none rfl (.on none rfl (.on none rfl .nil))
  exact ⟨_, performed, certs_belong_together performed (by simp) (by simp)⟩

end Established

end Nodeletctl.CertStore
