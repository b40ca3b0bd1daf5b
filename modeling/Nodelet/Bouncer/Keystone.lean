import Nodelet.Bouncer.Authn
import Nodelet.Go.Remote

/-! The client of Keystone, and the authenticator on top of it. -/
namespace Bouncer

/-- What becomes of an HTTP request. The body is what it decodes to. -/
inductive Http (β : Type) where
  | notCreated (err : Go.Error)
  | notSent (err : Go.Error)
  | response (statusCode : Int) (status : String) (subjectToken : String) (body : Except Go.Error β)

def statusCreated : Int := 201

def KeystoneError.error : KeystoneError → Go.Error
  | .response error =>
    "keystone response error: " ++ toString error.statusCode ++ " - " ++ error.message
  | .text message => message

namespace Keystone

def defaultDomainName : String := "default"

structure PasswordMethod where
  name : String
  domainName : String
  password : String
  deriving DecidableEq, Repr

structure AuthRequest where
  methods : List String
  password : Option PasswordMethod := none
  tokenID : Option String := none
  projectID : String := ""
  deriving DecidableEq, Repr

inductive Request where
  | tokens (request : AuthRequest)
  | userGroups (userID tokenID : String)
  | listGroups (tokenID : String)
  /-- The values of a map, in an order that is up to the runtime. -/
  | range (names : Go.Map String String)

@[reducible] def Request.Answer : Request → Type
  | .tokens _ => Http KeystoneToken
  | .userGroups .. | .listGroups _ => Http (List KeystoneGroup)
  | .range names =>
    { order : List String // (order : Multiset String) = names.entries.map Sigma.snd }

abbrev Client := Go.Resumption Request Request.Answer

def ask (request : Request) : Client request.Answer := Go.Resumption.perform request

def authAnswer : Http KeystoneToken → Except KeystoneError KeystoneTokenWrapper
  | .notCreated err => .error (.text ("create keystone http request: " ++ err))
  | .notSent err => .error (.text ("send keystone request: " ++ err))
  | .response statusCode status subjectToken body =>
    if statusCode ≠ statusCreated then .error (.response ⟨status, statusCode⟩)
    else match body with
      | .error err => .error (.text ("decode auth response: " ++ err))
      | .ok token => .ok ⟨token, subjectToken⟩

def auth (request : AuthRequest) : Client (Except KeystoneError KeystoneTokenWrapper) := do
  return authAnswer (← ask (.tokens request))

/-- `fmt.Errorf("message: %s", err)`, which keeps no more than the text of the error. -/
def wrap (message : String) : Except KeystoneError α → Except KeystoneError α
  | .error err => .error (.text (message ++ err.error))
  | .ok value => .ok value

def projectTokenFromTokenID (tokenID projectID : String) :
    Client (Except KeystoneError KeystoneTokenWrapper) := do
  return wrap "obtain project token from tokenID: "
    (← auth { methods := ["token"], tokenID := some tokenID, projectID })

def projectTokenFromCredentialsWithProjectId (username password projectID : String) :
    Client (Except KeystoneError KeystoneTokenWrapper) := do
  return wrap "obtain project token from credentials: " (← auth {
    methods := ["password"]
    password := some ⟨username, defaultDomainName, password⟩
    projectID })

def projectToken : Credential → String → Client (Except KeystoneError KeystoneTokenWrapper)
  | .password username password, projectID =>
    projectTokenFromCredentialsWithProjectId username password projectID
  | .tokenID tokenID, projectID => projectTokenFromTokenID tokenID projectID

/-- The status of the response is not looked at. -/
def groupsAnswer (undecodable : String) :
    Http (List KeystoneGroup) → Except Go.Error (List KeystoneGroup)
  | .notCreated err => .error ("create keystone http request: " ++ err)
  | .notSent err => .error ("send keystone request: " ++ err)
  | .response _ _ _ (.error err) => .error (undecodable ++ err)
  | .response _ _ _ (.ok groups) => .ok groups

abbrev Fallible := Go.Remote Request Request.Answer

def groupsLocalUserBelongsTo (token : KeystoneTokenWrapper) : Fallible (List KeystoneGroup) :=
  ExceptT.mk do return groupsAnswer "decode keystone response: " (← ask (.userGroups token.token.user.id token.tokenID))

def listGroups (token : KeystoneTokenWrapper) : Fallible (List KeystoneGroup) :=
  ExceptT.mk do return groupsAnswer "decode list groups response: " (← ask (.listGroups token.tokenID))

/-- The name of each group of the user; a group that is not listed has the empty name. -/
def groupNameMap (federated belongsTo listed : List KeystoneGroup) : Go.Map String String :=
  let names := federated.foldl (fun names group => names.insert group.id "") ∅
  let names := belongsTo.foldl (fun names group => names.insert group.id "") names
  listed.foldl (fun names group => if group.id ∈ names then names.insert group.id group.name
    else names) names

def groupsFromProjectToken (token : KeystoneTokenWrapper) : Fallible (List String) := do
  let keystoneGroupsForUser ← (groupsLocalUserBelongsTo token).annotate
    "error fetching groupsLocalUserBelongsTo "
  let keystoneGroups ← (listGroups token).annotate "error fetching listGroups "
  let groupNames ← ExceptT.lift
    (ask (.range (groupNameMap token.token.user.groups keystoneGroupsForUser keystoneGroups)))
  return groupNames.val

end Keystone

namespace Composed

/-- The cache, the hashes, and HTTP. -/
inductive Request (H : Type) where
  | cache (request : Cache.Request (Authn.Entry H))
  | generate (password : String) (cost : Int)
  | keystone (request : Keystone.Request)

@[reducible] def Request.Answer {H : Type} : Request H → Type
  | .cache request => request.Answer
  | .generate .. => Except String H
  | .keystone request => request.Answer

abbrev Program (H : Type) := Go.Resumption (Request H) Request.Answer

abbrev Event (H : Type) := Go.Resumption.Event (Request.Answer (H := H))

variable {H : Type}

def ask (request : Request H) : Program H request.Answer := Go.Resumption.perform request

def client (call : Keystone.Client α) : Program H α :=
    call.translate fun request => ask (.keystone request)

/-- The interface to Keystone, as the client implements it. -/
def implement : (request : Authn.Request H) → Program H request.Answer
  | .cache request => ask (.cache request)
  | .generate password cost => ask (.generate password cost)
  | .projectToken credential projectID => client (Keystone.projectToken credential projectID)
  | .groups token => client (Keystone.groupsFromProjectToken token).run

def compose (program : Authn.Program H α) : Program H α := program.translate implement

end Composed
end Bouncer
