import Nodelet.Bouncer.Keystone
import Nodelet.Bouncer.Provenance

/-! Which failures of the authenticator are remembered. The client wraps every error of Keystone in
a text, so that the authenticator never learns that a response said unauthorized. -/
namespace Bouncer
open Authn (Entry)
open Go (Lru)
open Go.Resumption (Runs Emits runs_done translate_bind)

def Http.Unauthorized : Http β → Prop
  | .response statusCode .. => statusCode = statusUnauthorized
  | _ => False

/-- There is no token in the answer. -/
def Http.Fails : Http β → Prop
  | .response statusCode _ _ (.ok _) => statusCode ≠ statusCreated
  | _ => True

namespace Composed
variable {bcrypt : Hashing} [Store (Entry bcrypt.Hash)] {a : Authenticator}
    {credential : Credential} {outcome : Http KeystoneToken}
  {s t u : Cache.State (Entry bcrypt.Hash)} {status : TokenReviewStatus}

def Later [Store V] (s t : Cache.State V) : Prop :=
    ∃ elapsed : Nat, t = { s with clock := s.clock + elapsed }

theorem later_refl [Store V] (s : Cache.State V) : Later s s := ⟨0, by simp⟩

/-- One event of a request that nobody interferes with, where a token is answered with this
outcome. -/
def Takes (bcrypt : Hashing) [Store (Entry bcrypt.Hash)] (outcome : Http KeystoneToken)
    (s : Cache.State (Entry bcrypt.Hash)) :
    Event bcrypt.Hash → Cache.State (Entry bcrypt.Hash) → Prop
  | ⟨.cache request, answer⟩, t => answer = (Cache.serve request s).1 ∧
    Later (Cache.serve request s).2 t
  | ⟨.generate password cost, hashed⟩, t => (∃ salt, hashed = bcrypt.generate password cost salt) ∧
    Later s t
  | ⟨.keystone (.tokens _), answer⟩, t => answer = outcome ∧ Later s t
  | ⟨.keystone _, _⟩, t => Later s t

def Adds : Event bcrypt.Hash → Prop
  | ⟨.cache (.add ..), _⟩ => True
  | _ => False

def Contacts : Event bcrypt.Hash → Prop
  | ⟨.keystone (.tokens _), _⟩ => True
  | _ => False

/-- A request for a token is remembered when it is answered as unauthorized, and not when it fails
otherwise. -/
structure Remembers (bcrypt : Bcrypt) [Store (Entry bcrypt.Hash)] (a : Authenticator)
    (credential : Credential) (outcome : Http KeystoneToken) : Prop where
  unauthorized : outcome.Unauthorized → ∀ s events status t,
    Runs (Takes bcrypt outcome) (compose (a.handle bcrypt credential)) s events (.done status) t →
    (∃ event ∈ events, Contacts event) →
    status = {} ∧
      (∃ stored, ⟨.cache (.add credential.key stored), ()⟩ ∈ events ∧
        stored.value.Of bcrypt credential {}) ∧
    -- The same request again, within the time that the first one allows.
    ∀ again events' status' u, Later t again →
      Runs (Takes bcrypt outcome) (compose (a.handle bcrypt credential)) again events' (.done status') u →
      u.clock ≤ s.clock + a.unauthTTL → status' = {} ∧ ∀ event ∈ events', ¬ Contacts event
  otherwise : outcome.Fails → ¬ outcome.Unauthorized → ∀ s events status t,
    Runs (Takes bcrypt outcome) (compose (a.handle bcrypt credential)) s events (.done status) t →
    ∀ event ∈ events, ¬ Adds event

section Failed
variable {events : List (Event bcrypt.Hash)}

theorem authAnswer_of_fails (fails : outcome.Fails) :
    ∃ error, Keystone.authAnswer outcome = .error error := by
  cases outcome with
  | notCreated err => exact ⟨_, rfl⟩
  | notSent err => exact ⟨_, rfl⟩
  | response statusCode message subjectToken body =>
    by_cases created : statusCode = statusCreated
    · cases body with
      | error err => exact ⟨_, if_neg (not_not.mpr created)⟩
      | ok token => exact absurd created fails
    · exact ⟨_, if_pos created⟩

theorem fails_of_unauthorized (unauthorized : outcome.Unauthorized) : outcome.Fails := by
  cases outcome with
  | notCreated err => trivial
  | notSent err => trivial
  | response statusCode message subjectToken body =>
    cases body with
    | error err => trivial
    | ok token =>
      rw [Http.Unauthorized] at unauthorized
      rw [Http.Fails, unauthorized]
      decide

/-- The authenticator sees no more of an error than its text. -/
theorem compose_authenticate (bcrypt : Hashing) (a : Authenticator) (credential : Credential) :
    ∃ request message,
    (compose (a.authenticate credential) : Program bcrypt.Hash _) =
      .call (.keystone (.tokens request)) fun answer =>
      compose (a.statusOf (Keystone.wrap message (Keystone.authAnswer answer))) := by
  cases credential with
  | password username password => exact ⟨_, _, rfl⟩
  | tokenID tokenID => exact ⟨_, _, rfl⟩

/-- A failure of any kind has no time to be cached for. -/
theorem runs_authenticate {result : TokenReviewStatus × Option Int} (fails : outcome.Fails)
    (runs : Runs (Takes bcrypt outcome) (compose (a.authenticate credential)) s events
      (.done result) t) : result = ({}, none) ∧ ∀ event ∈ events, ¬ Adds event := by
  obtain ⟨request, message, shape⟩ := compose_authenticate bcrypt a credential
  rw [shape] at runs
  obtain ⟨answer, middle, rest, rfl, taken, runs⟩ := Go.Resumption.runs_call_done.mp runs
  obtain ⟨rfl, -⟩ := taken
  obtain ⟨error, failed⟩ := authAnswer_of_fails fails
  rw [failed] at runs
  obtain ⟨rfl, same, -⟩ := runs_done.mp runs
  cases same
  exact ⟨rfl, by simp [Adds]⟩

omit [Store (Entry bcrypt.Hash)] in
theorem emits_get (key : String) : Emits (fun event => ¬ Adds event) (fun _ => True)
    (compose (Authn.cached (Cache.get key)) : Program bcrypt.Hash _) := by
  rintro (_ | stored)
  · exact ⟨id, trivial⟩
  · refine ⟨id, fun now => ⟨id, ?_⟩⟩
    change Emits _ _ (compose (Authn.cached (if stored.expireTime < now then
      Cache.ask (.remove key) >>= fun _ => pure none else pure (some stored.value))))
    split
    · exact fun _ => ⟨id, trivial⟩
    · trivial

theorem not_adds_handleWith {matching : Entry bcrypt.Hash → Option TokenReviewStatus}
    {store : TokenReviewStatus → Int → Authn.Program bcrypt.Hash Unit} (fails : outcome.Fails)
    (runs : Runs (Takes bcrypt outcome) (compose (a.handleWith credential matching store)) s events
      (.done status) t) : ∀ event ∈ events, ¬ Adds event := by
  rw [compose, Authenticator.handleWith] at runs
  obtain ⟨first, value, middle, second, rfl, looks, runs⟩ :=
    Go.Resumption.runs_bind_done.mp (translate_bind implement _ _ ▸ runs)
  have quiet := (emits_get credential.key).mem looks
  refine List.forall_mem_append.mpr ⟨quiet, ?_⟩
  cases hit : value.bind matching with
  | some found =>
    rw [hit] at runs
    obtain ⟨rfl, -, -⟩ := runs_done.mp runs
    exact nofun
  | none =>
    rw [hit] at runs
    obtain ⟨first, result, middle, second, rfl, asks, later⟩ :=
      Go.Resumption.runs_bind_done.mp (translate_bind implement _ _ ▸ runs)
    obtain ⟨rfl, quiet⟩ := runs_authenticate fails asks
    obtain ⟨rfl, -, -⟩ := runs_done.mp later
    simpa using quiet

theorem not_adds_handle (fails : outcome.Fails)
    (runs : Runs (Takes bcrypt outcome) (compose (a.handle bcrypt credential)) s events
      (.done status) t) : ∀ event ∈ events, ¬ Adds event := by
  cases credential with
  | password username password =>
    rw [Authenticator.handle, Authenticator.handleCredentials] at runs
    exact not_adds_handleWith fails runs
  | tokenID tokenID =>
    rw [Authenticator.handle, Authenticator.handleTokenID] at runs
    exact not_adds_handleWith fails runs

end Failed

theorem runs_handleWith (fails : outcome.Fails)
    (matching : Entry bcrypt.Hash → Option TokenReviewStatus)
    (store : TokenReviewStatus → Int → Authn.Program bcrypt.Hash Unit) : ∃ request t,
    Runs (Takes bcrypt outcome) (compose (a.handleWith credential matching store))
      (.new 1 Nat.one_pos)
      [⟨.cache (.get credential.key), none⟩, ⟨.keystone (.tokens request), outcome⟩] (.done {})
      t := by
  obtain ⟨request, message, shape⟩ := compose_authenticate bcrypt a credential
  obtain ⟨error, failed⟩ := authAnswer_of_fails fails
  have asks (s : Cache.State (Entry bcrypt.Hash)) :
    Runs (Takes bcrypt outcome) (compose (a.authenticate credential)) s
      [⟨.keystone (.tokens request), outcome⟩] (.done ({}, none)) s := by
    rw [shape]
    refine .call ⟨rfl, later_refl s⟩ ?_
    rw [failed]
    exact .refl
  have asked (s : Cache.State (Entry bcrypt.Hash)) : Runs (Takes bcrypt outcome)
      (compose ((a.authenticate credential).bind (Authenticator.keep store))) s
      [⟨.keystone (.tokens request), outcome⟩] (.done {}) s := by
    rw [compose, translate_bind]
    exact (asks s).bind
  exact ⟨request, (Cache.serve (.get credential.key) (.new 1 Nat.one_pos)).2,
    .call ⟨Lru.lookup_new.symm, later_refl _⟩ (asked _)⟩

theorem runs_handle (fails : outcome.Fails) (bcrypt : Hashing) [Store (Entry bcrypt.Hash)]
    (a : Authenticator) (credential : Credential) : ∃ request t,
    Runs (Takes bcrypt outcome) (compose (a.handle bcrypt credential)) (.new 1 Nat.one_pos)
      [⟨.cache (.get credential.key), none⟩, ⟨.keystone (.tokens request), outcome⟩] (.done {})
      t := by
  cases credential with
  | password username password => exact runs_handleWith fails _ _
  | tokenID tokenID => exact runs_handleWith fails _ _

/-- Failures are remembered as they should be, unless there is one that should be remembered. -/
theorem remembers_iff (bcrypt : Bcrypt) [Store (Entry bcrypt.Hash)] (a : Authenticator)
    (credential : Credential) (outcome : Http KeystoneToken) :
    Remembers bcrypt a credential outcome ↔ ¬ outcome.Unauthorized := by
  constructor
  · intro remembers unauthorized
    have fails := fails_of_unauthorized unauthorized
    obtain ⟨request, t, runs⟩ := runs_handle fails bcrypt a credential
    obtain ⟨-, ⟨stored, added, -⟩, -⟩ := remembers.unauthorized unauthorized _ _ _ _ runs
      ⟨_, List.mem_cons_of_mem _ (List.mem_singleton_self _), trivial⟩
    exact not_adds_handle fails runs _ added trivial
  · intro other
    exact ⟨fun unauthorized => absurd unauthorized other, fun fails _ _ _ _ _ runs =>
      not_adds_handle fails runs⟩

def denied : Http KeystoneToken := .response 401 "401 Unauthorized" "" (.error "EOF")

/-- The same user is denied twice in a row, and Keystone is asked both times. -/
theorem unauthorized_asked_again : ∃ request t u,
    Runs (Takes Authn.plain denied)
      (compose (Authenticator.handle ⟨"p", 300, 60, 4, ⟨∅⟩⟩ Authn.plain Authn.ada))
      (.new 3 (by decide)) [⟨.cache (.get "ada"), none⟩, ⟨.keystone (.tokens request), denied⟩]
      (.done {}) t ∧
    Runs (Takes Authn.plain denied)
      (compose (Authenticator.handle ⟨"p", 300, 60, 4, ⟨∅⟩⟩ Authn.plain Authn.ada))
      t [⟨.cache (.get "ada"), none⟩, ⟨.keystone (.tokens request), denied⟩] (.done {}) u ∧
      u.clock = 0 := by
  refine ⟨_, _, _, .call ⟨rfl, later_refl _⟩ (.call ⟨rfl, later_refl _⟩ .refl),
    .call ⟨rfl, later_refl _⟩ (.call ⟨rfl, later_refl _⟩ .refl), rfl⟩

end Composed
end Bouncer
