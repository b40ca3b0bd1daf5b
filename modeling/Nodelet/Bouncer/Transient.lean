import Nodelet.Bouncer.Groups
import Nodelet.Bouncer.Unauthorized

/-! What a failure of Keystone leaves behind. A request whose token could not be fetched leaves the
cache alone; one whose groups could not be fetched is cached without them. -/
namespace Bouncer
open Authn (Entry)
open Go (Lru)
open Go.Resumption
  (Runs Emits runs_done runs_call_done runs_bind_done translate_bind exists_runs_done)

def Http.Succeeds (answer : Http β) : Prop := answer.Ok ∧ answer.decoded.isSome

/-- The cache holds what it held, but for what has expired. -/
structure Cache.LeftAlone [Store V] (s t : Cache.State V) : Prop where
  clock : s.clock ≤ t.clock
  timers : t.timers = s.timers
  entries : ∀ key, Lru.lookup t.lru key = Lru.lookup s.lru key ∨
    Lru.lookup t.lru key = none ∧ ∃ stored, Lru.lookup s.lru key = some stored ∧
      stored.expireTime < t.clock

theorem Cache.LeftAlone.trans [Store V] {s t u : Cache.State V} (first : Cache.LeftAlone s t)
    (second : Cache.LeftAlone t u) : Cache.LeftAlone s u where
  clock := first.clock.trans second.clock
  timers := second.timers.trans first.timers
  entries := by
    intro key
    have late := second.clock
    obtain same | ⟨gone, stored, held, expired⟩ := first.entries key
    · rw [← same]
      exact second.entries key
    · refine .inr ⟨?_, stored, held, expired.trans_le late⟩
      obtain same | ⟨gone', -⟩ := second.entries key
      · rw [same, gone]
      · exact gone'

namespace Composed
variable {bcrypt : Hashing} {a : Authenticator} {credential : Credential}
  {outcome : Http KeystoneToken}
  {userAnswer listAnswer : Http (List KeystoneGroup)} {status : TokenReviewStatus}
  {events : List (Event bcrypt.Hash)}

/-- One event of a request that nobody interferes with, where Keystone answers in this way. -/
def Meets (bcrypt : Hashing) [Store (Entry bcrypt.Hash)] (outcome : Http KeystoneToken)
    (userAnswer listAnswer : Http (List KeystoneGroup)) (s : Cache.State (Entry bcrypt.Hash))
    (event : Event bcrypt.Hash) (t : Cache.State (Entry bcrypt.Hash)) : Prop :=
  Takes bcrypt outcome s event t ∧ Answers userAnswer listAnswer event

/-- A call of Keystone fails, and not because the user is denied. -/
def Fails : Event bcrypt.Hash → Prop
  | ⟨.keystone (.tokens _), answer⟩ => answer.Fails ∧ ¬ answer.Unauthorized
  | ⟨.keystone (.userGroups ..), answer⟩ => ¬ answer.Succeeds
  | ⟨.keystone (.listGroups _), answer⟩ => ¬ answer.Succeeds
  | _ => False

/-- A request can be answered with this status. -/
def CanAnswer (bcrypt : Hashing) [Store (Entry bcrypt.Hash)] (a : Authenticator)
    (outcome : Http KeystoneToken) (userAnswer listAnswer : Http (List KeystoneGroup))
    (s : Cache.State (Entry bcrypt.Hash)) (credential : Credential) (status : TokenReviewStatus) :
    Prop :=
  ∃ events t, Runs (Meets bcrypt outcome userAnswer listAnswer)
    (compose (a.handle bcrypt credential)) s events (.done status) t

/-- A request for which a call of Keystone fails leaves the cache as it was, and later requests are
answered as they would have been. -/
structure Harmless (bcrypt : Hashing) [Store (Entry bcrypt.Hash)] (a : Authenticator)
    (credential : Credential) (outcome : Http KeystoneToken)
    (userAnswer listAnswer : Http (List KeystoneGroup)) : Prop where
  kept : ∀ s events status t,
    Runs (Meets bcrypt outcome userAnswer listAnswer) (compose (a.handle bcrypt credential)) s
      events (.done status) t →
    (∃ event ∈ events, Fails event) → Cache.LeftAlone s t
  later : ∀ s events status t,
    Runs (Meets bcrypt outcome userAnswer listAnswer) (compose (a.handle bcrypt credential)) s
      events (.done status) t →
    (∃ event ∈ events, Fails event) → ∀ outcome' userAnswer' listAnswer' credential' status',
      CanAnswer bcrypt a outcome' userAnswer' listAnswer' t credential' status' ↔
        CanAnswer bcrypt a outcome' userAnswer' listAnswer' { s with clock := t.clock } credential' status'

/-- What is found can be stored: for a user there has to be a hash of the password. -/
def Storable (bcrypt : Hashing) (a : Authenticator) : Credential → Prop
  | .password _ password => ∃ salt hashed, bcrypt.generate password a.bcryptCost salt = .ok hashed
  | .tokenID _ => True

section Handle

def matching (bcrypt : Hashing) : Credential → Entry bcrypt.Hash → Option TokenReviewStatus
  | .password _ password => Entry.ofCredentials bcrypt password
  | .tokenID _ => Entry.ofToken

def store (bcrypt : Hashing) (a : Authenticator) :
    Credential → TokenReviewStatus → Int → Authn.Program bcrypt.Hash Unit
  | .password username password => fun status ttl => do
    match ← Authn.ask (.generate password a.bcryptCost) with
    | .error _ => return
    | .ok hashed => Authn.cached (Cache.add username (.credentials hashed status) ttl)
  | .tokenID tokenID => fun status ttl => Authn.cached (Cache.add tokenID (.token status) ttl)

theorem handle_eq : a.handle bcrypt credential =
    a.handleWith credential (matching bcrypt credential) (store bcrypt a credential) := by
  cases credential with
  | password username password =>
    refine congrArg (a.handleWith _ _) (funext fun status => funext fun ttl => ?_)
    refine congrArg (Go.Resumption.call _) (funext fun hashed => ?_)
    cases hashed with
    | error err => rfl
    | ok hashed => rfl
  | tokenID tokenID => rfl

/-- Ask Keystone, and store the status. -/
def asked (bcrypt : Hashing) (a : Authenticator) (credential : Credential) :
    Program bcrypt.Hash TokenReviewStatus :=
  (compose (a.authenticate credential)).bind fun result =>
    compose (Authenticator.keep (store bcrypt a credential) result)

def answering (bcrypt : Hashing) (a : Authenticator) (credential : Credential)
    (found : Option (Entry bcrypt.Hash)) : Program bcrypt.Hash TokenReviewStatus :=
  match found.bind (matching bcrypt credential) with
  | some status => .done status
  | none => asked bcrypt a credential

theorem compose_handle : compose (a.handle bcrypt credential) =
    (compose (Authn.cached (Cache.get credential.key))).bind (answering bcrypt a credential) := by
  rw [handle_eq, Authenticator.handleWith]
  refine (translate_bind implement _ _).trans ?_
  refine congrArg (Go.Resumption.bind _) (funext fun found => ?_)
  unfold answering
  cases found.bind (matching bcrypt credential) with
  | some status => rfl
  | none => exact translate_bind implement _ _

variable {ttl : Int} {event : Event bcrypt.Hash}

theorem runs_handle_store {σ : Type} {step : σ → Event bcrypt.Hash → σ → Prop} {r m n o : σ}
    {first second third : List (Event bcrypt.Hash)}
    (looks : Runs step (compose (Authn.cached (Cache.get credential.key))) r first (.done none) m)
    (authenticates : Runs step (compose (a.authenticate credential)) m second
      (.done (status, some ttl)) n)
    (stores : Runs step (compose (store bcrypt a credential status ttl)) n third (.done ()) o) :
    Runs step (compose (a.handle bcrypt credential)) r (first ++ (second ++ third)) (.done status)
      o := by
  have keeps :
    Runs step (compose (Authenticator.keep (store bcrypt a credential) (status, some ttl))) n third
      (.done status) o := by
    rw [compose, Authenticator.keep]
    exact (translate_bind implement _ _) ▸ stores.bind
  rw [compose_handle]
  exact looks.bind.trans (authenticates.bind.trans keeps)

theorem compose_get (key : String) :
    (compose (Authn.cached (Cache.get key)) : Program bcrypt.Hash _) = .call (.cache (.get key)) fun
      | none => .done none
      | some stored => .call (.cache .now) fun now =>
        if stored.expireTime < now then .call (.cache (.remove key)) fun _ => .done none
        else .done (some stored.value) := by
  refine congrArg (Go.Resumption.call _) (funext fun found => ?_)
  cases found with
  | none => rfl
  | some stored =>
    refine congrArg (Go.Resumption.call _) (funext fun now => ?_)
    change compose (Authn.cached (if stored.expireTime < now then
      Cache.ask (.remove key) >>= fun _ => pure none else pure (some stored.value))) = _
    split <;> rfl

theorem compose_add (key : String) (entry : Entry bcrypt.Hash) (ttl : Int) :
    (compose (Authn.cached (Cache.add key entry ttl)) : Program bcrypt.Hash _) =
      .call (.cache .now) fun now => .call (.cache (.add key ⟨entry, now + ttl⟩)) fun _ =>
        .call (.cache (.afterFunc ttl key)) .done :=
  rfl

def OnCache : Event bcrypt.Hash → Prop
  | ⟨.cache _, _⟩ => True
  | _ => False

theorem emits_groups (wrapper : KeystoneTokenWrapper) :
    Emits (fun event => ¬ OnCache event) (fun _ => True)
    (client (Keystone.groupsFromProjectToken wrapper).run : Program bcrypt.Hash _) := by
  rw [client_groupsFromProjectToken]
  intro answer
  refine ⟨id, ?_⟩
  dsimp only
  split
  · trivial
  · intro answer
    refine ⟨id, ?_⟩
    dsimp only
    split
    · trivial
    · exact fun _ => ⟨id, trivial⟩

/-- With a token, the groups are fetched and the status may be cached. -/
theorem compose_statusOf (wrapper : KeystoneTokenWrapper) : (compose (a.statusOf (.ok wrapper)) : Program bcrypt.Hash _) =
    (client (Keystone.groupsFromProjectToken wrapper).run).bind fun groups => .done
      ({ authenticated := true
         user := some (a.mapped { username := wrapper.token.user.name, uid := wrapper.token.user.id } wrapper groups) },
        some a.authTTL) := by
  rw [compose, Authenticator.statusOf, Authenticator.fillMappedGroups]
  refine (translate_bind implement _ _).trans ?_
  exact Go.Resumption.bind_assoc (client (Keystone.groupsFromProjectToken wrapper).run) _ _

theorem emits_authenticate (credential : Credential) :
    Emits (fun event => ¬ OnCache event) (fun _ => True)
    (compose (a.authenticate credential) : Program bcrypt.Hash _) := by
  obtain ⟨request, message, shape⟩ := compose_authenticate bcrypt a credential
  rw [shape]
  intro answer
  refine ⟨id, ?_⟩
  dsimp only
  cases Keystone.wrap message (Keystone.authAnswer answer) with
  | error err => trivial
  | ok wrapper =>
    rw [compose_statusOf]
    exact (emits_groups wrapper).bind fun _ _ => trivial

theorem emits_keep (result : TokenReviewStatus × Option Int) : Emits (fun _ => True) (· = result.1)
    (compose (Authenticator.keep (store bcrypt a credential) result)) := by
  obtain ⟨status, _ | ttl⟩ := result
  · rfl
  · rw [compose, Authenticator.keep]
    exact (translate_bind implement _ _) ▸ (Emits.any _).bind fun _ _ => rfl

end Handle

section Later
variable {V : Type} [Store V] {r s t : Cache.State V}

theorem later_trans (first : Later r s) (second : Later s t) : Later r t := by
  obtain ⟨elapsed, rfl⟩ := first
  obtain ⟨more, rfl⟩ := second
  exact ⟨elapsed + more, by simp [add_assoc]⟩

theorem kept_of_later (later : Later s t) : Cache.LeftAlone s t := by
  obtain ⟨elapsed, rfl⟩ := later
  exact ⟨Int.le_add_of_nonneg_right (Int.natCast_nonneg elapsed), rfl, fun _ => .inl rfl⟩

end Later

variable [Store (Entry bcrypt.Hash)] {s t : Cache.State (Entry bcrypt.Hash)}

section Lookup
variable {key : String} {found : Option (Entry bcrypt.Hash)}

theorem runs_get (runs : Runs (Meets bcrypt outcome userAnswer listAnswer)
      (compose (Authn.cached (Cache.get key))) s events (.done found) t) :
    Cache.LeftAlone s t ∧ ∀ entry, found = some entry →
      ∃ stored, Lru.lookup s.lru key = some stored ∧ s.clock ≤ stored.expireTime ∧
      stored.value = entry := by
  rw [compose_get] at runs
  obtain ⟨answer, m, rest, -, ⟨⟨same, elapsed, rfl⟩, -⟩, runs⟩ := runs_call_done.mp runs
  obtain rfl : answer = Lru.lookup s.lru key := same
  cases held : Lru.lookup s.lru key with
  | none =>
    simp only [held, runs_done] at runs
    obtain ⟨-, missed, rfl⟩ := runs
    cases missed
    exact ⟨⟨by simp [Cache.serve], rfl, fun k => .inl Lru.lookup_get⟩, by simp⟩
  | some stored =>
    simp only [held] at runs
    obtain ⟨now, n, rest, -, ⟨⟨same, more, rfl⟩, -⟩, runs⟩ := runs_call_done.mp runs
    obtain rfl : now = (s.clock + elapsed : Int) := same
    split at runs
    · rename_i expired
      obtain ⟨-, r, rest, -, ⟨⟨-, most, rfl⟩, -⟩, runs⟩ := runs_call_done.mp runs
      obtain ⟨-, missed, rfl⟩ := runs_done.mp runs
      cases missed
      refine ⟨⟨by simp [Cache.serve]; omega, rfl, fun k => ?_⟩, by simp⟩
      by_cases removed : k = key
      · subst removed
        exact .inr ⟨by simp [Cache.serve], stored, held, by simp [Cache.serve]; omega⟩
      · exact .inl (by simp [Cache.serve, removed])
    · rename_i fresh
      obtain ⟨-, hit, rfl⟩ := runs_done.mp runs
      cases hit
      refine ⟨⟨by simp [Cache.serve]; omega, rfl, fun k => .inl (by simp [Cache.serve])⟩, fun entry same => ?_⟩
      cases same
      exact ⟨stored, rfl, by omega, rfl⟩

/-- Whatever the cache holds may have expired by the time the clock is read. -/
theorem exists_runs_miss (outcome : Http KeystoneToken)
    (userAnswer listAnswer : Http (List KeystoneGroup)) (key : String)
    (s : Cache.State (Entry bcrypt.Hash)) : ∃ events t,
    Runs (Meets bcrypt outcome userAnswer listAnswer) (compose (Authn.cached (Cache.get key))) s
      events (.done none) t := by
  rw [compose_get]
  have looks (elapsed : Nat) :
    Meets bcrypt outcome userAnswer listAnswer s ⟨.cache (.get key), Lru.lookup s.lru key⟩
      { s with clock := s.clock + elapsed, lru := Lru.get s.lru key } :=
    ⟨⟨rfl, elapsed, rfl⟩, trivial⟩
  cases held : Lru.lookup s.lru key with
  | none =>
    rw [held] at looks
    exact ⟨_, _, .call (looks 0) .refl⟩
  | some stored =>
    rw [held] at looks
    let n : Cache.State (Entry bcrypt.Hash) :=
      { s with clock := s.clock + (stored.expireTime + 1 - s.clock).toNat, lru := Lru.get s.lru key }
    have expired : stored.expireTime < n.clock := by
      change stored.expireTime < s.clock + (stored.expireTime + 1 - s.clock).toNat
      omega
    have checks : Meets bcrypt outcome userAnswer listAnswer n ⟨.cache .now, n.clock⟩ n :=
      ⟨⟨rfl, later_refl n⟩, trivial⟩
    have removes : Meets bcrypt outcome userAnswer listAnswer n ⟨.cache (.remove key), ()⟩
        { n with lru := Lru.remove n.lru key } := ⟨⟨rfl, later_refl _⟩, trivial⟩
    refine ⟨_, _,
      .call (looks _) (.call checks (Go.Resumption.Runs.ite_pos expired (.call removes .refl)))⟩

theorem exists_runs_hit (outcome : Http KeystoneToken)
    (userAnswer listAnswer : Http (List KeystoneGroup)) (held : Lru.lookup s.lru key = some stored)
    (fresh : s.clock ≤ stored.expireTime) : ∃ events t,
    Runs (Meets bcrypt outcome userAnswer listAnswer) (compose (Authn.cached (Cache.get key))) s
      events (.done (some stored.value)) t := by
  rw [compose_get]
  have looks : Meets bcrypt outcome userAnswer listAnswer s ⟨.cache (.get key), some stored⟩
      { s with lru := Lru.get s.lru key } :=
    ⟨⟨held.symm, later_refl _⟩, trivial⟩
  have checks : Meets bcrypt outcome userAnswer listAnswer { s with lru := Lru.get s.lru key } ⟨.cache .now, s.clock⟩
      { s with lru := Lru.get s.lru key } := ⟨⟨rfl, later_refl _⟩, trivial⟩
  exact ⟨_, _, .call looks (.call checks (Go.Resumption.Runs.ite_neg (not_lt.mpr fresh) .refl))⟩

end Lookup

section Asking

/-- An event that is not about the cache can happen in any state. -/
theorem Meets.anywhere (off : ¬ OnCache event)
    (meets : Meets bcrypt outcome userAnswer listAnswer s event t) :
    Later s t ∧ ∀ r, Meets bcrypt outcome userAnswer listAnswer r event r := by
  obtain ⟨takes, answers⟩ := meets
  match event with
  | ⟨.cache _, _⟩ => exact absurd trivial off
  | ⟨.generate .., _⟩ => exact ⟨takes.2, fun r => ⟨⟨takes.1, later_refl r⟩, answers⟩⟩
  | ⟨.keystone (.tokens _), _⟩ => exact ⟨takes.2, fun r => ⟨⟨takes.1, later_refl r⟩, answers⟩⟩
  | ⟨.keystone (.userGroups ..), _⟩ => exact ⟨takes, fun r => ⟨later_refl r, answers⟩⟩
  | ⟨.keystone (.listGroups _), _⟩ => exact ⟨takes, fun r => ⟨later_refl r, answers⟩⟩
  | ⟨.keystone (.range _), _⟩ => exact ⟨takes, fun r => ⟨later_refl r, answers⟩⟩

/-- A program that leaves the cache alone leaves it as it was, and runs in the same way from any
state. -/
theorem runs_anywhere {program remaining : Program bcrypt.Hash α} {post : α → Prop}
    (off : Emits (fun event => ¬ OnCache event) post program)
    (runs : Runs (Meets bcrypt outcome userAnswer listAnswer) program s events remaining t) :
    Later s t ∧
      ∀ r, Runs (Meets bcrypt outcome userAnswer listAnswer) program r events remaining r := by
  induction runs with
  | refl => exact ⟨later_refl _, fun _ => .refl⟩
  | call taken _ ih =>
    obtain ⟨later, anywhere⟩ := taken.anywhere (off _).1
    obtain ⟨latest, again⟩ := ih (off _).2
    exact ⟨later_trans later latest, fun r => .call (anywhere r) (again r)⟩

theorem exists_meets (outcome : Http KeystoneToken)
    (userAnswer listAnswer : Http (List KeystoneGroup)) (s : Cache.State (Entry bcrypt.Hash))
    (request : Request bcrypt.Hash) :
    ∃ answer t, Meets bcrypt outcome userAnswer listAnswer s ⟨request, answer⟩ t := by
  match request with
  | .cache request =>
    have answers : Answers userAnswer listAnswer
        (⟨.cache request, (Cache.serve request s).1⟩ : Event bcrypt.Hash) := trivial
    exact ⟨_, _, ⟨rfl, later_refl (Cache.serve request s).2⟩, answers⟩
  | .generate password cost =>
    obtain ⟨salt⟩ := bcrypt.salted
    exact ⟨_, s, ⟨⟨salt, rfl⟩, later_refl s⟩, trivial⟩
  | .keystone (.tokens _) => exact ⟨outcome, s, ⟨rfl, later_refl s⟩, trivial⟩
  | .keystone (.userGroups ..) => exact ⟨userAnswer, s, later_refl s, rfl⟩
  | .keystone (.listGroups _) => exact ⟨listAnswer, s, later_refl s, rfl⟩
  | .keystone (.range names) =>
    exact ⟨⟨(names.entries.map Sigma.snd).toList, Multiset.coe_toList _⟩, s, later_refl s, trivial⟩

/-- Asking ends in the same way from any state. -/
theorem exists_runs_asked
    (runs : Runs (Meets bcrypt outcome userAnswer listAnswer) (asked bcrypt a credential) s events
      (.done status) t) (r : Cache.State (Entry bcrypt.Hash)) : ∃ events t,
    Runs (Meets bcrypt outcome userAnswer listAnswer) (asked bcrypt a credential) r events
      (.done status) t := by
  obtain ⟨first, result, m, second, rfl, asks, keeps⟩ := runs_bind_done.mp runs
  obtain ⟨-, anywhere⟩ := runs_anywhere (emits_authenticate credential) asks
  obtain ⟨third, last, t, stores⟩ := exists_runs_done (exists_meets outcome userAnswer listAnswer)
    (compose (Authenticator.keep (store bcrypt a credential) result)) r
  obtain rfl : status = last :=
    ((emits_keep result).returned keeps).trans ((emits_keep result).returned stores).symm
  exact ⟨first ++ third, t, runs_bind_done.mpr ⟨first, result, r, third, rfl, anywhere r, stores⟩⟩

theorem canAnswer_iff : CanAnswer bcrypt a outcome userAnswer listAnswer s credential status ↔
    (∃ stored, Lru.lookup s.lru credential.key = some stored ∧ s.clock ≤ stored.expireTime ∧
      matching bcrypt credential stored.value = some status) ∨
    ∃ r events t, Runs (Meets bcrypt outcome userAnswer listAnswer) (asked bcrypt a credential) r
      events (.done status) t := by
  unfold CanAnswer
  rw [compose_handle]
  constructor
  · rintro ⟨events, t, runs⟩
    obtain ⟨first, found, m, second, rfl, looks, runs⟩ := runs_bind_done.mp runs
    obtain ⟨-, holds⟩ := runs_get looks
    unfold answering at runs
    split at runs
    · rename_i status' hit
      obtain ⟨entry, rfl, hits⟩ := Option.bind_eq_some_iff.mp hit
      obtain ⟨stored, held, fresh, rfl⟩ := holds entry rfl
      obtain ⟨-, same, -⟩ := runs_done.mp runs
      cases same
      exact .inl ⟨stored, held, fresh, hits⟩
    · exact .inr ⟨m, second, t, runs⟩
  · rintro (⟨stored, held, fresh, hits⟩ | ⟨r, events, t, runs⟩)
    · obtain ⟨events, t, looks⟩ := exists_runs_hit outcome userAnswer listAnswer held fresh
      refine ⟨events ++ [], t, runs_bind_done.mpr ⟨events, _, t, [], rfl, looks, ?_⟩⟩
      rw [answering, Option.bind_some, hits]
      exact .refl
    · obtain ⟨first, m, looks⟩ := exists_runs_miss outcome userAnswer listAnswer credential.key s
      obtain ⟨second, t, again⟩ := exists_runs_asked runs m
      exact ⟨first ++ second, t, runs_bind_done.mpr ⟨first, none, m, second, rfl, looks, again⟩⟩

theorem canAnswer_congr (kept : Cache.LeftAlone s t) :
    CanAnswer bcrypt a outcome userAnswer listAnswer t credential status ↔
      CanAnswer bcrypt a outcome userAnswer listAnswer { s with clock := t.clock } credential
      status := by
  rw [canAnswer_iff, canAnswer_iff]
  refine or_congr_left (exists_congr fun stored => ?_)
  obtain same | ⟨gone, expired, held, late⟩ := kept.entries credential.key
  · rw [same]
  · rw [gone]
    refine iff_of_false (fun hit => nomatch hit.1) ?_
    rintro ⟨found, fresh, -⟩
    obtain rfl : stored = expired := Option.some.inj (found.symm.trans held)
    exact absurd late (not_lt.mpr fresh)

end Asking

section Storing

theorem runs_add {key : String}
    (runs : Runs (Meets bcrypt outcome userAnswer listAnswer)
      (compose (Authn.cached (Cache.add key entry ttl))) s events
      (.done ()) t) : Lru.lookup t.lru key ≠ none := by
  rw [compose_add] at runs
  obtain ⟨now, _, _, -, ⟨⟨-, elapsed, rfl⟩, -⟩, adds⟩ := runs_call_done.mp runs
  obtain ⟨_, _, _, -, ⟨⟨-, more, rfl⟩, -⟩, starts⟩ := runs_call_done.mp adds
  obtain ⟨_, _, _, -, ⟨⟨-, most, rfl⟩, -⟩, ends⟩ := runs_call_done.mp starts
  obtain ⟨-, -, rfl⟩ := runs_done.mp ends
  simp [Cache.serve, Lru.lookup_add]

theorem exists_runs_store (storable : Storable bcrypt a credential) (status : TokenReviewStatus)
    (ttl : Int) (s : Cache.State (Entry bcrypt.Hash)) : ∃ events t,
    Runs (Meets bcrypt outcome userAnswer listAnswer)
      (compose (store bcrypt a credential status ttl)) s events (.done ()) t ∧
      Lru.lookup t.lru credential.key ≠ none := by
  cases credential with
  | password username password =>
    obtain ⟨salt, hashed, generated⟩ := storable
    obtain ⟨events, ⟨⟩, t, adds⟩ := exists_runs_done (exists_meets outcome userAnswer listAnswer)
      (compose (Authn.cached (Cache.add username (.credentials hashed status) ttl))) s
    have hashes : Meets bcrypt outcome userAnswer listAnswer s ⟨.generate password a.bcryptCost, .ok hashed⟩ s :=
      ⟨⟨⟨salt, generated.symm⟩, later_refl s⟩, trivial⟩
    exact ⟨_, t, .call hashes adds, runs_add adds⟩
  | tokenID tokenID =>
    obtain ⟨events, ⟨⟩, t, adds⟩ := exists_runs_done (exists_meets outcome userAnswer listAnswer)
      (compose (Authn.cached (Cache.add tokenID (.token status) ttl))) s
    exact ⟨_, t, adds, runs_add adds⟩

theorem runs_store_unstorable (unstorable : ¬ Storable bcrypt a credential)
    (runs : Runs (Meets bcrypt outcome userAnswer listAnswer)
      (compose (store bcrypt a credential status ttl)) s events (.done ()) t) : Later s t := by
  cases credential with
  | password username password =>
    obtain ⟨hashed, m, rest, -, ⟨⟨⟨salt, same⟩, later⟩, -⟩, runs⟩ := runs_call_done.mp runs
    cases generated : bcrypt.generate password a.bcryptCost salt with
    | error err =>
      rw [same, generated] at runs
      obtain ⟨-, -, rfl⟩ := runs_done.mp runs
      exact later
    | ok hashed => exact absurd ⟨salt, hashed, generated⟩ unstorable
  | tokenID tokenID => exact absurd trivial unstorable

end Storing

section Failing
variable {wrapper : KeystoneTokenWrapper}

theorem authAnswer_of_not_fails (obtained : ¬ outcome.Fails) :
    ∃ wrapper, Keystone.authAnswer outcome = .ok wrapper := by
  match outcome with
  | .notCreated _ | .notSent _ | .response _ _ _ (.error _) => exact absurd trivial obtained
  | .response statusCode message subjectToken (.ok token) =>
    exact ⟨⟨token, subjectToken⟩, if_neg obtained⟩

/-- Where an answer about groups is not successful, a call fails. -/
theorem fails_of_runs_groups {result : Except Go.Error (List String)}
    (unsuccessful : ¬ (userAnswer.Succeeds ∧ listAnswer.Succeeds))
    (runs : Runs (Meets bcrypt outcome userAnswer listAnswer)
      (client (Keystone.groupsFromProjectToken wrapper).run) s events
      (.done result) t) : ∃ event ∈ events, Fails event := by
  rw [client_groupsFromProjectToken] at runs
  obtain ⟨answer, m, rest, rfl, ⟨-, rfl⟩, runs⟩ := runs_call_done.mp runs
  by_cases succeeds : answer.Succeeds
  · have unlisted : ¬ listAnswer.Succeeds := fun listed => unsuccessful ⟨succeeds, listed⟩
    have read := decoded_of_groupsAnswer "decode keystone response: " answer
    split at runs
    · rename_i told
      rw [told] at read
      simp [Http.Succeeds, read] at succeeds
    · obtain ⟨listed, m, rest, rfl, ⟨-, rfl⟩, -⟩ := runs_call_done.mp runs
      exact ⟨_, List.mem_cons_of_mem _ List.mem_cons_self, unlisted⟩
  · exact ⟨_, List.mem_cons_self, succeeds⟩

/-- With a token, the status may be cached, whatever becomes of the groups. -/
theorem runs_authenticate_ok {result : TokenReviewStatus × Option Int} (obtained : ¬ outcome.Fails)
    (runs : Runs (Meets bcrypt outcome userAnswer listAnswer) (compose (a.authenticate credential))
      s events (.done result) t) : result.2 = some a.authTTL ∧
    (¬ (userAnswer.Succeeds ∧ listAnswer.Succeeds) → ∃ event ∈ events, Fails event) := by
  obtain ⟨request, message, shape⟩ := compose_authenticate bcrypt a credential
  rw [shape] at runs
  obtain ⟨answer, m, rest, rfl, ⟨⟨rfl, -⟩, -⟩, runs⟩ := runs_call_done.mp runs
  obtain ⟨wrapper, received⟩ := authAnswer_of_not_fails obtained
  rw [received, Keystone.wrap, compose_statusOf] at runs
  obtain ⟨first, groups, m, second, rfl, asks, ends⟩ := runs_bind_done.mp runs
  obtain ⟨rfl, same, -⟩ := runs_done.mp ends
  cases same
  refine ⟨rfl, fun unsuccessful => ?_⟩
  obtain ⟨event, member, fails⟩ := fails_of_runs_groups unsuccessful asks
  exact ⟨event, by simp [member], fails⟩

end Failing
/-- A request leaves the cache alone: there is no token, or nothing can be stored. -/
theorem kept_of_runs (unstored : outcome.Fails ∨ ¬ Storable bcrypt a credential)
    (runs : Runs (Meets bcrypt outcome userAnswer listAnswer)
      (compose (a.handle bcrypt credential)) s events (.done status) t) : Cache.LeftAlone s t := by
  rw [compose_handle] at runs
  obtain ⟨first, found, m, second, rfl, looks, runs⟩ := runs_bind_done.mp runs
  obtain ⟨kept, -⟩ := runs_get looks
  suffices later : Later m t from kept.trans (kept_of_later later)
  unfold answering at runs
  split at runs
  · obtain ⟨-, -, rfl⟩ := runs_done.mp runs
    exact later_refl t
  · obtain ⟨asks, result, n, stores, rfl, authenticates, keeps⟩ := runs_bind_done.mp runs
    refine later_trans (runs_anywhere (emits_authenticate credential) authenticates).1 ?_
    obtain ⟨status', _ | ttl⟩ := result
    · obtain ⟨-, -, rfl⟩ := runs_done.mp keeps
      exact later_refl t
    · obtain fails | unstorable := unstored
      · have failed := (Composed.runs_authenticate fails (authenticates.weaken fun _ _ _ meets => meets.1)).1
        cases failed
      · rw [compose, Authenticator.keep] at keeps
        obtain ⟨events, ⟨⟩, last, rest, rfl, stores, ends⟩ :=
          runs_bind_done.mp (translate_bind implement _ _ ▸ keeps)
        obtain ⟨-, -, rfl⟩ := runs_done.mp ends
        exact runs_store_unstorable unstorable stores

/-- Without its groups, a user is cached all the same. -/
theorem exists_runs_stored (obtained : ¬ outcome.Fails)
    (unsuccessful : ¬ (userAnswer.Succeeds ∧ listAnswer.Succeeds))
    (storable : Storable bcrypt a credential) : ∃ events status t,
    Runs (Meets bcrypt outcome userAnswer listAnswer) (compose (a.handle bcrypt credential))
      (.new 1 Nat.one_pos) events
      (.done status) t ∧ (∃ event ∈ events, Fails event) ∧
      Lru.lookup t.lru credential.key ≠ none := by
  obtain ⟨first, m, looks⟩ := exists_runs_miss outcome userAnswer listAnswer credential.key
    (.new 1 Nat.one_pos : Cache.State (Entry bcrypt.Hash))
  obtain ⟨second, ⟨status, limit⟩, n, authenticates⟩ := exists_runs_done
    (exists_meets outcome userAnswer listAnswer) (compose (a.authenticate credential)) m
  obtain ⟨rfl, failing⟩ := runs_authenticate_ok obtained authenticates
  obtain ⟨third, t, stores, found⟩ := exists_runs_store storable status a.authTTL n
  refine ⟨first ++ (second ++ third), status, t, runs_handle_store looks authenticates stores, ?_,
    found⟩
  obtain ⟨event, member, fails⟩ := failing unsuccessful
  exact ⟨event, by simp [member], fails⟩

theorem not_fails_of_meets (obtained : ¬ outcome.Fails)
    (succeeds : userAnswer.Succeeds ∧ listAnswer.Succeeds)
    (meets : Meets bcrypt outcome userAnswer listAnswer s event t) : ¬ Fails event := by
  obtain ⟨takes, answers⟩ := meets
  match event with
  | ⟨.cache _, _⟩ => exact id
  | ⟨.generate .., _⟩ => exact id
  | ⟨.keystone (.tokens _), answer⟩ =>
    obtain ⟨rfl, -⟩ := takes
    exact fun fails => obtained fails.1
  | ⟨.keystone (.userGroups ..), answer⟩ =>
    obtain rfl : answer = userAnswer := answers
    exact not_not.mpr succeeds.1
  | ⟨.keystone (.listGroups _), answer⟩ =>
    obtain rfl : answer = listAnswer := answers
    exact not_not.mpr succeeds.2
  | ⟨.keystone (.range _), _⟩ => exact id

/-- A failure is harmless if and only if there is no token, nothing fails once there is one, or
nothing can be stored. -/
theorem harmless_iff (bcrypt : Hashing) [Store (Entry bcrypt.Hash)] (a : Authenticator)
    (credential : Credential) (outcome : Http KeystoneToken)
    (userAnswer listAnswer : Http (List KeystoneGroup)) :
    Harmless bcrypt a credential outcome userAnswer listAnswer ↔
      outcome.Fails ∨ (userAnswer.Succeeds ∧ listAnswer.Succeeds) ∨
      ¬ Storable bcrypt a credential := by
  constructor
  · intro harmless
    by_contra stored
    obtain ⟨obtained, unsuccessful, storable⟩ : ¬ outcome.Fails ∧
        ¬ (userAnswer.Succeeds ∧ listAnswer.Succeeds) ∧ Storable bcrypt a credential := by
      simpa only [not_or, not_not] using stored
    obtain ⟨events, status, t, runs, failed, found⟩ :=
      exists_runs_stored obtained unsuccessful storable
    obtain same | ⟨gone, -⟩ := (harmless.kept _ _ _ _ runs failed).entries credential.key
    · exact found (same.trans Lru.lookup_new)
    · exact found gone
  · intro steady
    suffices kept : ∀ s events status t,
        Runs (Meets bcrypt outcome userAnswer listAnswer) (compose (a.handle bcrypt credential)) s
          events (.done status) t →
        (∃ event ∈ events, Fails event) → Cache.LeftAlone s t from
      ⟨kept, fun s events status t runs failed _ _ _ _ _ => canAnswer_congr (kept s events status t runs failed)⟩
    intro s events status t runs failed
    obtain fails | succeeds | unstorable := steady
    · exact kept_of_runs (.inl fails) runs
    · by_cases fails : outcome.Fails
      · exact kept_of_runs (.inl fails) runs
      · obtain ⟨event, member, failed⟩ := failed
        obtain ⟨before, after, meets⟩ := runs.taken event member
        exact absurd failed (not_fails_of_meets fails succeeds meets)
    · exact kept_of_runs (.inr unstorable) runs

def tokenGranted : Http KeystoneToken :=
  .response 201 "201 Created" "s" (.ok { user := { id := "1", name := "ada" } })

def noRoles : Authenticator := ⟨"p", 300, 60, 4, ⟨∅⟩⟩

/-- Keystone does not tell the groups of a user once. The next request, for which it would, is
answered without them and without asking. -/
theorem groups_lost_for_later : ∃ failed events t events' u,
    Runs (Meets Authn.plain tokenGranted (.notSent "timeout") (.response 200 "200 OK" "" (.ok [])))
      (compose (noRoles.handle Authn.plain (.tokenID "gAAA"))) (.new 3 (by decide)) events
      (.done { authenticated := true, user := some ⟨"ada", "1", []⟩ }) t ∧ failed ∈ events ∧
      Fails failed ∧
    Runs (Meets Authn.plain tokenGranted (.response 200 "200 OK" "" (.ok [⟨"g", "devs"⟩]))
      (.response 200 "200 OK" "" (.ok [⟨"g", "devs"⟩])))
      (compose (noRoles.handle Authn.plain (.tokenID "gAAA"))) t events'
      (.done { authenticated := true, user := some ⟨"ada", "1", []⟩ }) u ∧
    (∀ event ∈ events', ¬ Contacts event) ∧ u.clock = 0 := by
  refine ⟨⟨.keystone (.userGroups "1" "s"), .notSent "timeout"⟩, _, _, _, _,
    .call ⟨⟨rfl, later_refl _⟩, trivial⟩
      (.call ⟨⟨rfl, later_refl _⟩, trivial⟩ (.call ⟨later_refl _, rfl⟩
      (.call ⟨⟨rfl, later_refl _⟩, trivial⟩ (.call ⟨⟨rfl, later_refl _⟩, trivial⟩
        (.call ⟨⟨rfl, later_refl _⟩, trivial⟩ .refl))))), ?member, ?fails,
    .call ⟨⟨rfl, later_refl _⟩, trivial⟩ (.call ⟨⟨rfl, later_refl _⟩, trivial⟩ .refl), ?quiet, rfl⟩
  case member => exact List.mem_cons_of_mem _ (List.mem_cons_of_mem _ List.mem_cons_self)
  case fails => simp [Fails, Http.Succeeds, Http.Ok]
  case quiet => simp [Contacts]

end Composed
end Bouncer
