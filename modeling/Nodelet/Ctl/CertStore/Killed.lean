import Nodelet.Ctl.CertStore.Kept

/-! The directory of the certificates after commands that fail or are killed. It may be incomplete,
but its kubeconfig file never mixes credentials; a private key that was cut short stays until the
directory is removed. -/
namespace Nodeletctl.CertStore
open Go (Error Failure)
open Go.Faulty
  (perform orFail ofExcept emits_perform_bind emits_orFail emits_ofExcept emits_mapError)
open Go.Remote (Emits Sends)
open Go.Resumption (Ensures Runs)

section Killed
variable {cfg : BootstrapConfig} {dir next : Dir} {event : Go.Resumption.Event Request.Answer}

theorem Serves.file (served : Serves dir event next) (file : File) :
    next file = dir file ∨ next file = none ∨ (∃ text, next file = some (.noBlock text)) ∨
      ∃ contents, event.1 = .write file contents ∧ next file = some contents := by
  have put : ∀ written contents, dir.put written contents file = dir file ∨
      written = file ∧ dir.put written contents file = some contents := by
    intro written contents
    by_cases same : file = written
    · subst same
      exact .inr ⟨rfl, Function.update_self ..⟩
    · exact .inl (Function.update_of_ne same ..)
  obtain ⟨request, answer⟩ := event
  cases request with
  | removeAll =>
    cases answer with
    | none =>
      cases served
      exact .inr (.inl rfl)
    | some err => exact (served file).imp_right .inl
  | stat | read =>
    obtain ⟨rfl, -⟩ := served
    exact .inl rfl
  | create written =>
    cases answer with
    | none =>
      cases served
      exact (put written _).imp_right fun new => .inr (.inl ⟨_, new.2⟩)
    | some err =>
      cases served
      exact .inl rfl
  | write written contents =>
    have torn_or_whole : next = dir ∨ next = dir.put written contents ∨
        ∃ text, next = dir.put written (.noBlock text) := by
      cases answer with
      | none => exact .inr (.inl served)
      | some err => exact served
    obtain rfl | rfl | ⟨text, rfl⟩ := torn_or_whole
    · exact .inl rfl
    · obtain kept | ⟨rfl, new⟩ := put written contents
      · exact .inl kept
      · exact .inr (.inr (.inr ⟨contents, rfl, new⟩))
    · exact (put written _).imp_right fun new => .inr (.inl ⟨text, new.2⟩)
  | randomSerial | generateKey | createCertificate | now | nowInYears | mkdirAll | chmod =>
    cases served
    exact .inl rfl

/-- The kubeconfig that a request writes. -/
def Request.writtenKubeconfig : Request → Option KubeConfigData
  | .write .adminKubeconfig (.kubeconfig args) => some args
  | _ => none

/-- No kubeconfig is written but of some credentials. -/
def Harmless (cfg : BootstrapConfig) (event : Go.Resumption.Event Request.Answer) : Prop :=
  ∀ args, event.1.writtenKubeconfig = some args → ∃ credentials :
    Credentials, args = credentials.kubeConfigData cfg

theorem Harmless.other (nothing : event.1.writtenKubeconfig = none) : Harmless cfg event := by
  intro args written
  simp [nothing] at written

theorem Sound.serves (sound : Sound cfg dir) (harmless : Harmless cfg event)
    (served : Serves dir event next) : Sound cfg next := by
  intro args whole
  obtain same | gone | ⟨text, torn⟩ | ⟨contents, written, same⟩ := served.file .adminKubeconfig
  · exact sound args (same ▸ whole)
  · simp [gone] at whole
  · simp [torn] at whole
  · obtain rfl : contents = .kubeconfig args := Option.some.inj (same.symm.trans whole)
    exact harmless args (congrArg Request.writtenKubeconfig written)

theorem perform_harmless {α : Type} {next : request.Answer → Program α} {post : α → Prop}
    (nothing : request.writtenKubeconfig = none)
    (rest : ∀ answer, Emits (Harmless cfg) post (next answer)) :
    Emits (Harmless cfg) post (perform request >>= next) :=
  emits_perform_bind (fun _ => .other nothing) rest

theorem orFail_harmless {α : Type} {err : Option Error} {next : Unit → Program α} {post : α → Prop}
    (rest : Emits (Harmless cfg) post (next ())) :
    Emits (Harmless cfg) post (orFail err >>= next) :=
  emits_orFail.bind fun _ _ => rest

theorem ofExcept_harmless {α β : Type} {result : Except Error α} {next : α → Program β}
    {post : β → Prop} (rest : ∀ value, Emits (Harmless cfg) post (next value)) :
    Emits (Harmless cfg) post (ofExcept result >>= next) :=
  emits_ofExcept.bind fun value _ => rest value

theorem genCALocal_harmless : Sends (Harmless cfg) genCALocal := by
  have idle : Sends (Harmless cfg) certsExist := by
    refine perform_harmless rfl fun found => ?_
    cases found with
    | false => exact Emits.pure trivial
    | true => exact fun found => ⟨.other rfl, trivial⟩
  refine Emits.bind idle fun found _ => ?_
  cases found with
  | true => exact Emits.pure trivial
  | false =>
    refine perform_harmless rfl fun err => orFail_harmless ?_
    refine perform_harmless rfl fun serial => ?_
    cases serial with
    | error err => exact Emits.pure trivial
    | ok serialNumber =>
      refine perform_harmless rfl fun notAfter => ?_
      refine perform_harmless rfl fun generated => ofExcept_harmless fun caPrivKey => ?_
      refine perform_harmless rfl fun err => orFail_harmless ?_
      refine perform_harmless rfl fun err => orFail_harmless ?_
      exact perform_harmless rfl fun err => emits_orFail

variable {contents : Contents}

theorem parseCertificate_harmless {text : String} :
    Sends (Harmless cfg) (parseCertificate text contents) := by
  cases contents <;> trivial

theorem parsePKCS1PrivateKey_harmless {text : String} :
    Sends (Harmless cfg) (parsePKCS1PrivateKey text contents) := by
  cases contents <;> trivial

theorem createClientCertificate_harmless {ca client : Certificate} :
    Emits (Harmless cfg) (fun certificate => certificate = client ∧ caKey = ca.publicKey)
      (createClientCertificate ca caKey client) := by
  refine perform_harmless rfl fun err => orFail_harmless ?_
  split
  · exact Emits.throw
  · exact Emits.pure ⟨rfl, not_ne_iff.mp ‹_›⟩

theorem genKubeconfig_harmless : Sends (Harmless cfg) (genKubeconfig cfg) := by
  refine perform_harmless rfl fun result => ofExcept_harmless fun caFile => ?_
  refine Emits.bind parseCertificate_harmless fun ca _ => ?_
  refine perform_harmless rfl fun result => ofExcept_harmless fun caKeyBytes => ?_
  refine Emits.bind parsePKCS1PrivateKey_harmless fun caKey _ => ?_
  refine perform_harmless rfl fun result => ofExcept_harmless fun adminPrivKey => ?_
  refine perform_harmless rfl fun result => ofExcept_harmless fun serialNumber => ?_
  refine perform_harmless rfl fun notAfter => Emits.bind createClientCertificate_harmless ?_
  rintro clientCert ⟨rfl, rfl⟩
  refine perform_harmless rfl fun err => orFail_harmless ?_
  refine perform_harmless rfl fun err => orFail_harmless ?_
  refine perform_harmless rfl fun err => orFail_harmless ?_
  refine emits_perform_bind ?_ fun err => orFail_harmless ?_
  · intro answer args written
    cases Option.some.inj written
    exact ⟨⟨ca, ⟨serialNumber, adminPrivKey, ca.publicKey, false, notAfter⟩, rfl⟩, rfl⟩
  · exact perform_harmless rfl fun err => emits_orFail

theorem regenCA_harmless : Sends (Harmless cfg) (regenCA cfg) := by
  refine perform_harmless rfl fun err => orFail_harmless ?_
  exact Emits.bind (emits_mapError genCALocal_harmless) fun _ _ =>
    emits_mapError genKubeconfig_harmless

theorem Command.harmless (command : Command) : Sends (Harmless cfg) (command.program cfg) := by
  cases command with
  | genCALocal => exact genCALocal_harmless
  | genKubeconfig => exact genKubeconfig_harmless
  | regenCA => exact regenCA_harmless
  | renewCAIfExpiring =>
    refine perform_harmless rfl fun result => ofExcept_harmless fun caFile => ?_
    refine Emits.bind parseCertificate_harmless fun ca _ => perform_harmless rfl fun currTime => ?_
    split
    · exact regenCA_harmless
    · exact Emits.pure trivial

/-- Where there is no kubeconfig file at first, commands that fail, panic or are killed at any point
never leave a whole one but of the cluster, whose client certificate is signed by the authority in
it and belongs to the key in it. -/
theorem kubeconfig_never_mixed {final : Dir}
    (started : Relation.ReflTransGen (Started cfg) dir final)
    (initial : dir .adminKubeconfig = none) : Sound cfg final := by
  induction started with
  | refl =>
    intro args whole
    simp [initial] at whole
  | tail _ last ih =>
    obtain ⟨command, trace, remaining, runs⟩ := last
    have preserved :
      Emits (fun event => ∀ before after, Sound cfg before → Serves before event after →
        Sound cfg after) (fun _ => True) (command.program cfg) :=
      (Command.harmless command).weaken (fun _ harmless _ _ sound => sound.serves harmless) fun _ => id
    exact Go.Resumption.Emits.invariant preserved ih runs

/-- The certificate of the administrator was cut short when it was made anew. -/
theorem kubeconfig_never_mixed_on_full_disk : ∃ (final : Dir) (args : KubeConfigData),
    Relation.ReflTransGen (Started {}) (fun _ => none) final ∧
      final .adminCert = some (.noBlock "-----BEGIN") ∧
      final .adminKubeconfig = some (.kubeconfig args) ∧ Sound {} final := by
  have started : Relation.ReflTransGen (Started {}) (fun _ => none)
      (stored [(.genCALocal, none), (.genKubeconfig, none), (.genKubeconfig, some .adminCert)]) := by
    refine .head (Started.on .genCALocal none rfl) ?_
    refine .head (Started.on .genKubeconfig none rfl) ?_
    exact .single (Started.on .genKubeconfig (some .adminCert) rfl)
  exact ⟨_, _, started, rfl, rfl, kubeconfig_never_mixed started rfl⟩

end Killed

section Damaged
variable {cfg : BootstrapConfig} {dir final : Dir} {commands : List (Command × Except Failure Unit)}

/-- Both files of the authority are there, and the one of the key holds no whole block. -/
structure Damaged (dir : Dir) : Prop where
  crt : dir .rootCACRT ≠ none
  key : ∃ text, dir .rootCAKey = some (.noBlock text)

theorem Damaged.genCALocal (damaged : Damaged dir) :
    Ensures Serves genCALocal dir (fun _ t => t = dir) (fun _ _ => False) := by
  obtain ⟨text, key⟩ := damaged.key
  exact genCALocal_of_present damaged.crt (by simp [key])

theorem Damaged.genKubeconfig (damaged : Damaged dir) :
    Ensures Serves (genKubeconfig cfg) dir (fun _ _ => False) (fun _ t => t = dir) := by
  obtain ⟨text, key⟩ := damaged.key
  refine read_bind (fun _ => rfl) fun caFile _ => parseCertificate_bind (fun _ => rfl) fun ca _ =>
    ?_
  refine read_bind (fun _ => rfl) fun caKeyBytes found =>
    parsePKCS1PrivateKey_bind (fun _ => rfl) ?_
  rintro caKey rfl
  simp [key] at found

theorem Damaged.command {command : Command} {middle : Dir} {outcome : Except Failure Unit}
    (damaged : Damaged dir) (only : command = .genCALocal ∨ command = .genKubeconfig)
    (runs : Runs Serves (command.program cfg).run dir trace (.done outcome) middle) :
    middle = dir ∧ (outcome = .ok () ↔ command = .genCALocal) := by
  obtain rfl | rfl := only
  · cases outcome with
    | ok => exact ⟨damaged.genCALocal.returned runs, by simp⟩
    | error failure => exact (damaged.genCALocal.threw runs).elim
  · cases outcome with
    | ok => exact (damaged.genKubeconfig.returned runs).elim
    | error failure => exact ⟨damaged.genKubeconfig.threw runs, by simp⟩

/-- Creating the cluster anew does not repair a private key that was cut short: the authority is
taken as it is, without an error, and no kubeconfig can be made with it. -/
theorem damaged_key_stays (performed : Performs cfg dir commands final) (damaged : Damaged dir)
    (only : ∀ c ∈ commands, c.1 = .genCALocal ∨ c.1 = .genKubeconfig) :
    final = dir ∧ ∀ c ∈ commands, c.2 = .ok () ↔ c.1 = .genCALocal := by
  induction performed with
  | nil => exact ⟨rfl, by simp⟩
  | cons runs _ ih =>
    obtain ⟨first, later⟩ := List.forall_mem_cons.mp only
    obtain ⟨rfl, ended⟩ := damaged.command first runs
    obtain ⟨same, all⟩ := ih damaged later
    exact ⟨same, List.forall_mem_cons.mpr ⟨ended, all⟩⟩

/-- The disk was full when the cluster was created first. -/
theorem damaged_key_stays_after_full_disk : ∃ (failure : Failure) (dir final : Dir),
    Performs {} (fun _ => none) [(.genCALocal, .error failure)] dir ∧ Damaged dir ∧
      Performs {} dir [(.genCALocal, .ok ()), (.genKubeconfig, .error (.panic .nilDereference))]
      final ∧ final = dir := by
  have full : Performs {} (fun _ => none) [(.genCALocal, .error _)] (stored [(.genCALocal, some .rootCAKey)]) :=
    .on (some .rootCAKey) rfl .nil
  have damaged : Damaged (stored [(.genCALocal, some .rootCAKey)]) :=
    ⟨Option.some_ne_none _, _, rfl⟩
  have again :
    Performs {} _ [(.genCALocal, .ok ()), (.genKubeconfig, .error (.panic .nilDereference))]
      (stored [(.genCALocal, some .rootCAKey), (.genCALocal, none), (.genKubeconfig, none)]) :=
    .on none rfl (.on none rfl .nil)
  exact ⟨_, _, _, full, damaged, again, (damaged_key_stays again damaged (by simp)).1⟩

end Damaged
end Nodeletctl.CertStore
