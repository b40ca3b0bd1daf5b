import Nodelet.Bouncer.Authn
import Nodelet.Go.Base64
import Nodelet.Go.JsonText

/-! The token of a review, which is a Keystone token ID or credentials. The two readings of it
decode the same bytes if both decode any, and no JSON text begins with the byte that a Fernet token
begins with. -/
namespace Bouncer
open Go (Error)
open Go.Base64 (rawURLEncoding stdEncoding)
open Go.Utf8 (bytes)

def fernetVersion : UInt8 := 128

def isUnpaddedFernetToken (t : List UInt8) : Bool :=
  match rawURLEncoding.decodeString t with
  | .error _ => false
  | .ok [] => false
  | .ok (magic :: _) => magic = fernetVersion

def isKeystoneTokenID (t : List UInt8) : Bool := isUnpaddedFernetToken t

structure Creds where
  username : String := ""
  password : String := ""
  deriving DecidableEq, Repr

def Creds.fields : List (Go.JsonText.StringField Creds) := [
  ⟨"Username", fun value creds => { creds with username := value }⟩,
  ⟨"Password", fun value creds => { creds with password := value }⟩]

def Creds.type : String := "struct \x7b Username string; Password string \x7d"

def credentials (t : List UInt8) : Except Error (String × String) := do
  let decoded ← (stdEncoding.decodeString t).mapError ("decode credentials: " ++ ·)
  let creds ← (Go.JsonText.unmarshal Creds.fields Creds.type decoded {}).mapError
    ("unmarshal credentials: " ++ ·)
  return (creds.username, creds.password)

/-- What `ServeHTTP` takes the token of a review for. A token that is neither is a bad request. -/
def reviewed (webhookToken : String) : Except Error Credential :=
  if isKeystoneTokenID (bytes webhookToken) then return .tokenID webhookToken
  else do
    let (username, password) ← credentials (bytes webhookToken)
    return .password username password

/-- The two readings tried the other way around. -/
def reviewedLast (webhookToken : String) : Except Error Credential :=
  match credentials (bytes webhookToken) with
  | .ok (username, password) => .ok (.password username password)
  | .error error => if isKeystoneTokenID (bytes webhookToken) then .ok (.tokenID webhookToken)
    else .error error

theorem isUnpaddedFernetToken_iff {t : List UInt8} :
    isUnpaddedFernetToken t = true ↔
      ∃ rest, rawURLEncoding.decodeString t = .ok (fernetVersion :: rest) := by
  rw [isUnpaddedFernetToken]
  cases rawURLEncoding.decodeString t with
  | error error => simp
  | ok decoded => cases decoded <;> simp

theorem unmarshal_fernetVersion {σ : Type} (fields : List (Go.JsonText.StringField σ))
    (type : String) (rest : List UInt8)
    (prior : σ) :
    ∃ error, Go.JsonText.unmarshal fields type (fernetVersion :: rest) prior = .error error := by
  refine ⟨"invalid character", ?_⟩
  rw [fernetVersion, Go.JsonText.unmarshal, Go.Utf8.runes_continuation, Go.JsonText.outline,
    Go.JsonText.Outline.run, List.foldlM_cons]
  rfl

theorem credentials_of_fernet {t : List UInt8} (fernet : isUnpaddedFernetToken t = true) :
    ∃ error, credentials t = .error error := by
  obtain ⟨rest, raw⟩ := isUnpaddedFernetToken_iff.mp fernet
  rw [credentials]
  cases std : stdEncoding.decodeString t with
  | error error => exact ⟨_, rfl⟩
  | ok decoded =>
    obtain rfl := Go.Base64.agree_std.decodeFrom raw std
    obtain ⟨error, failed⟩ := unmarshal_fernetVersion Creds.fields Creds.type rest {}
    exact ⟨"unmarshal credentials: " ++ error, by simp [Except.mapError, failed, bind, Except.bind]⟩

/-- A token is read in one way at most, so that it does not matter which is tried first. -/
theorem readings_exclusive :
    (∀ t, isUnpaddedFernetToken t = true → ∃ error, credentials t = .error error) ∧
    ∀ webhookToken, reviewed webhookToken = reviewedLast webhookToken := by
  refine ⟨fun t => credentials_of_fernet, fun webhookToken => ?_⟩
  rw [reviewed, reviewedLast]
  cases token : isKeystoneTokenID (bytes webhookToken) with
  | true =>
    obtain ⟨error, failed⟩ := credentials_of_fernet token
    rw [failed]
    rfl
  | false => cases credentials (bytes webhookToken) <;> rfl

theorem readings_exclusive_fernet : isUnpaddedFernetToken (bytes "gAAAAABY") = true ∧
    ∃ error, credentials (bytes "gAAAAABY") = .error error :=
  ⟨by decide +kernel, readings_exclusive.1 _ (by decide +kernel)⟩

end Bouncer
