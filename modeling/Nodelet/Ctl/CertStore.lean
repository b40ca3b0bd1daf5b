import Nodelet.Ctl.RootCA
import Nodelet.Go.Time
import Nodelet.Go.Wlp

/-! The directory of a cluster's certificates: the authority, the administrator's certificate that
it signs, and the kubeconfig file. Every access to a file may fail, and a write that fails may leave
a part of what was to be written. -/
namespace Nodeletctl.CertStore
open Go (Error Failure Faulty)
open Go.Faulty (perform orFail ofExcept)
open Go.Filepath (join)

/-- A pair of keys. -/
abbrev Key := Nat

structure Certificate where
  serialNumber : Nat
  publicKey : Key
  signedBy : Key
  isCA : Bool
  notAfter : Int
  deriving DecidableEq, Repr

/-- The names of the files. -/
inductive File where
  | rootCACRT
  | rootCAKey
  | adminCert
  | adminKey
  | adminKubeconfig
  deriving DecidableEq, Repr

structure KubeConfigData where
  clusterId : String
  masterIp : String
  k8sApiPort : String
  caCertData : Certificate
  clientCertData : Certificate
  clientKeyData : Key
  deriving DecidableEq, Repr

/-- What a file holds: a PEM block of a certificate or of a key, a block that is neither, or no PEM
block. A kubeconfig file is kept as the data of its template. -/
inductive Contents where
  | certificate (certificate : Certificate)
  | privateKey (key : Key)
  | otherBlock (text : String)
  | kubeconfig (args : KubeConfigData)
  | noBlock (text : String)
  deriving DecidableEq, Repr

abbrev Dir := File → Option Contents

inductive Request where
  | randomSerial
  | generateKey
  | createCertificate
  | now
  | nowInYears (years : Int)
  | mkdirAll
  | removeAll
  | stat (file : File)
  | read (file : File)
  | create (file : File)
  | write (file : File) (contents : Contents)
  | chmod (file : File)

/-- For `stat` whether the file is not known to be missing. -/
def Request.Answer : Request → Type
  | .randomSerial | .generateKey => Except Error Nat
  | .now | .nowInYears _ => Int
  | .stat _ => Bool
  | .read _ => Except Error Contents
  | .createCertificate | .mkdirAll | .removeAll | .create _ | .write _ _ | .chmod _ => Option Error

abbrev Program (α : Type) := Faulty Request Request.Answer α

def cACertExpiryYears : Int := 3

def cAExpiryLimitDays : Int := 90

/-- `pem.Decode` gives a nil block where there is none. -/
def parseCertificate (message : String) : Contents → Program Certificate
  | .certificate certificate => pure certificate
  | .privateKey _ | .otherBlock _ => throw (.error (message ++ "x509: malformed certificate"))
  | .kubeconfig _ | .noBlock _ => throw (.panic .nilDereference)

def parsePKCS1PrivateKey (message : String) : Contents → Program Key
  | .privateKey key => pure key
  | .certificate _ | .otherBlock _ => throw (.error (message ++ "asn1: structure error\n"))
  | .kubeconfig _ | .noBlock _ => throw (.panic .nilDereference)

section Requests

def getPseudoRandomSerial : Program (Except Error Nat) := perform Request.randomSerial

def generateKey : Program (Except Error Key) := perform Request.generateKey

def createCertificate : Program (Option Error) := perform Request.createCertificate

def now : Program Int := perform Request.now

def nowInYears (years : Int) : Program Int := perform (Request.nowInYears years)

def mkdirAll : Program (Option Error) := perform Request.mkdirAll

def removeAll : Program (Option Error) := perform Request.removeAll

def stat (file : File) : Program Bool := perform (Request.stat file)

def readFile (file : File) : Program (Except Error Contents) := perform (Request.read file)

def createFile (file : File) : Program (Option Error) := perform (Request.create file)

def writeFile (file : File) (contents : Contents) : Program (Option Error) :=
    perform (Request.write file contents)

def chmod (file : File) : Program (Option Error) := perform (Request.chmod file)

end Requests

def certsExist : Program Bool := do
  if ← stat .rootCACRT then stat .rootCAKey else pure false

/-- Without a serial number nothing is generated, and there is no error. -/
def genCA : Program Unit := do
  match ← getPseudoRandomSerial with
  | .error _ => pure ()
  | .ok serialNumber =>
    let notAfter ← nowInYears cACertExpiryYears
    let caPrivKey ← ofExcept (← generateKey)
    orFail (← createCertificate)
    let ca : Certificate := ⟨serialNumber, caPrivKey, caPrivKey, true, notAfter⟩
    orFail ((← writeFile .rootCACRT (.certificate ca)).map ("Failed to write CA cert: " ++ ·))
    orFail ((← writeFile .rootCAKey (.privateKey caPrivKey)).map
      ("Failed to write CA private key: " ++ ·))

def genCALocal : Program Unit := do
  if ← certsExist then pure ()
  else
    orFail (← mkdirAll)
    genCA

section Kubeconfig
variable (cfg : BootstrapConfig)

def caCertPath : String := join [clusterCertsDir cfg.clusterId, "rootCA.crt"]

def caKeyPath : String := join [clusterCertsDir cfg.clusterId, "rootCA.key"]

def kubeconfigFile : String := join [clusterCertsDir cfg.clusterId, "admin.kubeconfig"]

def writeKubeconfigFile (args : KubeConfigData) : Program Unit := do
  orFail ((← createFile .adminKubeconfig).map
    ("Failed to create " ++ kubeconfigFile cfg ++ ": " ++ · ++ "\n"))
  orFail ((← writeFile .adminKubeconfig (.kubeconfig args)).map
    ("template.Execute failed for file: " ++ kubeconfigFile cfg ++ " err: " ++ · ++ "\n"))
  orFail ((← chmod .adminKubeconfig).map ("Failed to chmod 600 kubeconfig: " ++ ·))

/-- `x509.CreateCertificate` compares the key with the certificate of the authority. -/
def createClientCertificate (ca : Certificate) (caKey : Key) (client : Certificate) :
    Program Certificate := do
  orFail (← createCertificate)
  if caKey ≠ ca.publicKey then throw (.error "x509: provided PrivateKey doesn't match parent's PublicKey")
  else pure client

def genKubeconfig : Program Unit := do
  let caFile ← ofExcept
    ((← readFile .rootCACRT).mapError ("Failed to read CA Cert " ++ caCertPath cfg ++ ": " ++ ·))
  let ca ← parseCertificate ("Failed to parse CA Cert " ++ caCertPath cfg ++ ": ") caFile
  let caKeyBytes ← ofExcept ((← readFile .rootCAKey).mapError
    ("Failed to read CA Private Key " ++ caKeyPath cfg ++ ": " ++ ·))
  let caKey ← parsePKCS1PrivateKey ("Failed to parse CA private key " ++ caKeyPath cfg ++ ": ")
    caKeyBytes
  let adminPrivKey ← ofExcept
    ((← generateKey).mapError ("Failed to generate admin private key: " ++ ·))
  let serialNumber ← ofExcept (← getPseudoRandomSerial)
  let notAfter ← nowInYears cACertExpiryYears
  let clientCert ← createClientCertificate ca caKey
    ⟨serialNumber, adminPrivKey, caKey, false, notAfter⟩
  orFail ((← writeFile .adminCert (.certificate clientCert)).map
    ("Failed to write admin client cert: " ++ ·))
  orFail ((← writeFile .adminKey (.privateKey adminPrivKey)).map
    ("Failed to write admin private key: " ++ ·))
  writeKubeconfigFile cfg
    { clusterId := cfg.clusterId
      masterIp := if cfg.ipv6Enabled then "[" ++ cfg.masterIp ++ "]" else cfg.masterIp
      k8sApiPort := cfg.k8sApiPort
      caCertData := ca
      clientCertData := clientCert
      clientKeyData := adminPrivKey }

def regenCA : Program Unit := do
  orFail ((← removeAll).map ("Failed to remove old certs directory: " ++ ·))
  Faulty.mapError ("Cert regeneration failed: " ++ · ++ "\n") genCALocal
  Faulty.mapError ("Failed to regen kubeconfig with new CA: " ++ ·) (genKubeconfig cfg)

/-- `int64(diffTime.Hours() / 24)`. -/
def daysTillExpiry (ca : Certificate) (currTime : Int) : Int :=
  (Go.Time.sub ca.notAfter currTime).tdiv (24 * 3600 * 1000000000)

def renewCAIfExpiring : Program Unit := do
  let caFile ← ofExcept
    ((← readFile .rootCACRT).mapError ("Failed to read CA Cert " ++ caCertPath cfg ++ ": " ++ ·))
  let ca ← parseCertificate ("Failed to parse CA Cert " ++ caCertPath cfg ++ ": ") caFile
  let currTime ← now
  if daysTillExpiry ca currTime < cAExpiryLimitDays then regenCA cfg else pure ()

end Kubeconfig

section Service

def Dir.put (dir : Dir) (file : File) (contents : Contents) : Dir :=
    Function.update dir file (some contents)

/-- How requests are served on a directory that nobody else changes. A write that fails may have
been complete, or have left the file without a whole block. -/
def Serves (dir : Dir) : Go.Resumption.Event Request.Answer → Dir → Prop
  | ⟨.removeAll, none⟩, next => next = fun _ => none
  | ⟨.removeAll, some _⟩, next => ∀ file, next file = dir file ∨ next file = none
  | ⟨.stat file, found⟩, next => next = dir ∧ (found = false → dir file = none)
  | ⟨.read file, result⟩, next => next = dir ∧ ∀ contents, result = .ok contents →
    dir file = some contents
  | ⟨.create file, none⟩, next => next = dir.put file (.noBlock "")
  | ⟨.write file contents, none⟩, next => next = dir.put file contents
  | ⟨.write file contents, some _⟩, next =>
    next = dir ∨ next = dir.put file contents ∨ ∃ text, next = dir.put file (.noBlock text)
  | _, next => next = dir

end Service
end Nodeletctl.CertStore
