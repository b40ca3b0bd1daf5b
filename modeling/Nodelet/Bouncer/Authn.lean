import Nodelet.Bouncer.Cache
import Nodelet.Go.Map

/-! The authenticator. It answers a review from its cache where it can and asks Keystone otherwise.
Entries for users and for tokens are in one cache, under the user's name and under the token
itself. -/
namespace Bouncer

structure KeystoneRole where
  id : String
  name : String
  deriving DecidableEq, Repr

structure KeystoneGroup where
  id : String
  name : String
  deriving DecidableEq, Repr

/-- The groups are those of a federated user. -/
structure KeystoneUser where
  id : String
  name : String
  groups : List KeystoneGroup := []
  deriving DecidableEq, Repr

structure KeystoneToken where
  user : KeystoneUser
  roles : List KeystoneRole := []
  deriving DecidableEq, Repr

structure KeystoneTokenWrapper where
  token : KeystoneToken
  tokenID : String
  deriving DecidableEq, Repr

structure KeystoneResponseError where
  message : String
  statusCode : Int
  deriving DecidableEq, Repr

/-- Only the type of an error tells that it holds a response; one that has been wrapped is a mere
text. -/
inductive KeystoneError where
  | response (error : KeystoneResponseError)
  | text (message : String)
  deriving DecidableEq, Repr

def statusUnauthorized : Int := 401

structure TokenReviewStatusUser where
  username : String
  uid : String
  groups : List String := []
  deriving DecidableEq, Repr

structure TokenReviewStatus where
  authenticated : Bool := false
  user : Option TokenReviewStatusUser := none
  deriving DecidableEq, Repr

structure RoleMapper where
  mapping : Go.Map String String

/-- A role that is not mapped gives the empty group. -/
def RoleMapper.getGroupsFromTokenRole (m : RoleMapper) (token : KeystoneToken) : List String :=
  token.roles.map fun role => (m.mapping.lookup role.name).getD ""

/-- Hashes of passwords. -/
structure Hashing where
  Hash : Type
  Salt : Type
  salted : Nonempty Salt
  generate (password : String) (cost : Int) (salt : Salt) : Except String Hash
  compare (hashed : Hash) (password : String) : Bool

/-- Comparison succeeds for the password that was hashed and for no other. -/
structure Bcrypt extends Hashing where
  compare_iff : ∀ {password cost salt hashed}, generate password cost salt = .ok hashed →
    ∀ other, compare hashed other = true ↔ other = password

instance : Coe Bcrypt Hashing := ⟨Bcrypt.toHashing⟩

/-- What a review asks to be authenticated. -/
inductive Credential where
  | password (username password : String)
  | tokenID (id : String)
  deriving DecidableEq, Repr

/-- What it is cached under. -/
def Credential.key : Credential → String
  | .password username _ => username
  | .tokenID id => id

namespace Authn
variable {H : Type}

inductive Entry (H : Type) where
  | credentials (hashed : H) (status : TokenReviewStatus)
  | token (status : TokenReviewStatus)
  deriving DecidableEq, Repr

/-- The status of an entry for a user with this password. -/
def Entry.ofCredentials (bcrypt : Hashing) (password : String) :
    Entry bcrypt.Hash → Option TokenReviewStatus
  | .credentials hashed status => if bcrypt.compare hashed password then some status else none
  | .token _ => none

def Entry.ofToken : Entry H → Option TokenReviewStatus
  | .credentials .. => none
  | .token status => some status

inductive Request (H : Type) where
  | cache (request : Cache.Request (Entry H))
  | projectToken (credential : Credential) (projectID : String)
  | groups (token : KeystoneTokenWrapper)
  | generate (password : String) (cost : Int)

@[reducible] def Request.Answer : Request H → Type
  | .cache request => request.Answer
  | .projectToken .. => Except KeystoneError KeystoneTokenWrapper
  | .groups _ => Except String (List String)
  | .generate .. => Except String H

abbrev Program (H : Type) := Go.Resumption (Request H) Request.Answer

def ask (request : Request H) : Program H request.Answer := Go.Resumption.perform request

def cached (call : Cache.Call (Entry H) α) : Program H α :=
    call.translate fun request => ask (.cache request)

end Authn

structure Authenticator where
  projectID : String
  authTTL : Int
  unauthTTL : Int
  bcryptCost : Int
  mapper : RoleMapper

namespace Authenticator
open Authn
variable (a : Authenticator) {H : Type}

/-- The groups that the roles are mapped to, and those that Keystone tells of. -/
def mapped (user : TokenReviewStatusUser) (wrapper : KeystoneTokenWrapper)
    (keystoneGroups : Except String (List String)) : TokenReviewStatusUser :=
  let user := { user with groups := user.groups ++ a.mapper.getGroupsFromTokenRole wrapper.token }
  match keystoneGroups with
  | .ok groups => { user with groups := user.groups ++ groups }
  | .error _ => user

def fillMappedGroups (user : TokenReviewStatusUser) (wrapper : KeystoneTokenWrapper) :
    Program H TokenReviewStatusUser := do
  return a.mapped user wrapper (← ask (.groups wrapper))

/-- Of the failures only a response that says unauthorized may be cached. -/
def failureTTL : KeystoneError → Option Int
  | .response error => if error.statusCode = statusUnauthorized then some a.unauthTTL else none
  | .text _ => none

theorem eq_of_failureTTL {a : Authenticator} {ttl : Int} (limit : a.failureTTL error = some ttl) :
    ttl = a.unauthTTL := by
  cases error with
  | response error =>
    rw [failureTTL] at limit
    split at limit
    · exact (Option.some.inj limit).symm
    · contradiction
  | text message => contradiction

/-- The status, and how long it may be cached. -/
def statusOf :
    Except KeystoneError KeystoneTokenWrapper → Program H (TokenReviewStatus × Option Int)
  | .error error => return ({}, a.failureTTL error)
  | .ok wrapper => do
    let user ← a.fillMappedGroups
      { username := wrapper.token.user.name, uid := wrapper.token.user.id } wrapper
    return ({ authenticated := true, user := some user }, some a.authTTL)

def authenticate (credential : Credential) : Program H (TokenReviewStatus × Option Int) := do
  a.statusOf (← ask (.projectToken credential a.projectID))

/-- Store a status that may be cached. -/
def keep (store : TokenReviewStatus → Int → Program H Unit) :
    TokenReviewStatus × Option Int → Program H TokenReviewStatus
  | (status, none) => return status
  | (status, some ttl) => do
    store status ttl
    return status

/-- What both handlers do: answer from the cache where the entry matches, and ask Keystone
otherwise. -/
def handleWith (credential : Credential) (matching : Entry H → Option TokenReviewStatus)
    (store : TokenReviewStatus → Int → Program H Unit) : Program H TokenReviewStatus := do
  match (← cached (Cache.get credential.key)).bind matching with
  | some status => return status
  | none => keep store (← a.authenticate credential)

variable (bcrypt : Hashing)

def handleCredentials (username password : String) : Program bcrypt.Hash TokenReviewStatus :=
  a.handleWith (.password username password) (Entry.ofCredentials bcrypt password) fun status
    ttl => do
    match ← ask (.generate password a.bcryptCost) with
    | .error _ => return
    | .ok hashed => cached (Cache.add username (.credentials hashed status) ttl)

def handleTokenID (tokenID : String) : Program bcrypt.Hash TokenReviewStatus :=
  a.handleWith (.tokenID tokenID) Entry.ofToken fun status ttl =>
    cached (Cache.add tokenID (.token status) ttl)

def handle : Credential → Program bcrypt.Hash TokenReviewStatus
  | .password username password => a.handleCredentials bcrypt username password
  | .tokenID id => a.handleTokenID bcrypt id

end Authenticator

namespace Authn
open Go (Lru Machine)

/-- What Keystone answers, should it be asked, and the salt of a hash. -/
structure Reply (bcrypt : Bcrypt) where
  token : Except KeystoneError KeystoneTokenWrapper
  groups : Except String (List String)
  salt : bcrypt.Salt

section
variable (bcrypt : Bcrypt) [Store (Entry bcrypt.Hash)]

def serve (reply : Reply bcrypt) :
    (request : Request bcrypt.Hash) → Cache.State (Entry bcrypt.Hash) →
    Option (request.Answer × Cache.State (Entry bcrypt.Hash))
  | .cache request, s => some (Cache.serve request s)
  | .projectToken .., s => some (reply.token, s)
  | .groups _, s => some (reply.groups, s)
  | .generate password cost, s => some (bcrypt.generate password cost reply.salt, s)

/-- Each review is handled by a thread of its own. -/
def machine (a : Authenticator) :
    Machine (Cache.State (Entry bcrypt.Hash)) Credential (Reply bcrypt)
    Cache.Move (Request.Answer (H := bcrypt.Hash)) TokenReviewStatus where
  program := a.handle bcrypt
  serve := serve bcrypt
  move := Cache.move

end

end Authn
end Bouncer
