import Nodelet.Bouncer.Transient

/-! Passwords that the cache takes for one another. Bcrypt reads no more than 72 bytes of a
password, so that one which was never shown to Keystone may match the hash of another. -/
namespace Bouncer
open Authn (Entry)
open Go.Resumption (Runs Traces Emits runs_done runs_call_done runs_bind_done)

/-- What bcrypt reads of a password: its bytes and a zero, over and over, until there are 72. -/
def expandedKey (password : List UInt8) : List UInt8 :=
  (List.range 72).map fun i => (password ++ [0])[i % (password.length + 1)]?.getD 0

/-- Comparison succeeds for every password of which bcrypt reads the same. A string stands for its
bytes, which may be any. -/
structure Truncating extends Hashing where
  bytes : String → List UInt8
  compare_iff : ∀ {password cost salt hashed}, generate password cost salt = .ok hashed →
    ∀ other, compare hashed other = true ↔ expandedKey (bytes other) = expandedKey (bytes password)

instance : Coe Truncating Hashing := ⟨Truncating.toHashing⟩

namespace Composed
variable {bcrypt : Hashing} {a : Authenticator} {username p q : String}
  {stored : Stored (Entry bcrypt.Hash)}
  {status : TokenReviewStatus} {events : List (Event bcrypt.Hash)}

/-- Passwords are hashed, and everything else happens as it may. -/
def Hashes (bcrypt : Hashing) : Event bcrypt.Hash → Prop
  | ⟨.generate password cost, hashed⟩ => ∃ salt, hashed = bcrypt.generate password cost salt
  | _ => True

/-- Whoever looks for the user finds this entry. -/
def Finds (username : String) (stored : Stored (Entry bcrypt.Hash)) : Event bcrypt.Hash → Prop
  | ⟨.cache (.get key), found⟩ => key = username → found = some stored
  | _ => True

/-- The clock is not read earlier in these events than in those before. -/
def NotBefore (before after : List (Event bcrypt.Hash)) : Prop :=
  ∀ time time' : Int, ⟨.cache .now, time⟩ ∈ before → ⟨.cache .now, time'⟩ ∈ after → time ≤ time'

/-- A user that comes with the second password is never answered from what was stored for the first,
but Keystone is asked. -/
def Separate (bcrypt : Hashing) (a : Authenticator) (username p q : String) : Prop :=
  ∀ events status, Traces (Hashes bcrypt) (compose (a.handleCredentials bcrypt username p)) events
    (.done status) →
  ∀ stored, ⟨.cache (.add username stored), ()⟩ ∈ events →
  ∀ events' status', Traces (Finds username stored)
    (compose (a.handleCredentials bcrypt username q)) events' (.done status') →
    NotBefore events events' → ∃ event ∈ events', Contacts event

section First

theorem emits_authenticate_limit (credential : Credential) : Emits (fun _ => True)
    (fun result => result.2 = none ∨ result.2 = some a.authTTL)
    (compose (a.authenticate credential) : Program bcrypt.Hash _) := by
  obtain ⟨request, message, shape⟩ := compose_authenticate bcrypt a credential
  rw [shape]
  intro answer
  refine ⟨trivial, ?_⟩
  dsimp only
  cases Keystone.authAnswer answer with
  | error err => exact .inl rfl
  | ok wrapper =>
    rw [Keystone.wrap, compose_statusOf]
    exact (Emits.any _).bind fun _ _ => .inr rfl

theorem stored_of_keep {ttl : Int} {kept : TokenReviewStatus}
    (traces : Traces (Hashes bcrypt)
      (compose (Authenticator.keep (store bcrypt a (.password username p)) (kept, some ttl)))
      events (.done status)) (added : ⟨.cache (.add username stored), ()⟩ ∈ events) :
    ∃ salt hashed time,
    bcrypt.generate p a.bcryptCost salt = .ok hashed ∧
      stored = ⟨.credentials hashed kept, time + ttl⟩ ∧ ⟨.cache .now, time⟩ ∈ events := by
  rw [compose, Authenticator.keep] at traces
  obtain ⟨first, ⟨⟩, ⟨⟩, second, rfl, stores, ends⟩ :=
    runs_bind_done.mp (Go.Resumption.translate_bind implement _ _ ▸ traces)
  obtain ⟨rfl, -⟩ := runs_done.mp ends
  rw [List.append_nil] at added ⊢
  obtain ⟨hashed, ⟨⟩, rest, rfl, ⟨salt, generated⟩, adds⟩ := runs_call_done.mp stores
  replace added := (List.mem_cons.mp added).resolve_left (by simp)
  cases hashed with
  | error err =>
    obtain ⟨rfl, -⟩ := runs_done.mp adds
    contradiction
  | ok hashed =>
    change Traces _ (compose (Authn.cached (Cache.add username (.credentials hashed kept) ttl))) _
      _ at adds
    rw [compose_add] at adds
    obtain ⟨time, ⟨⟩, _, rfl, -, adds⟩ := runs_call_done.mp adds
    obtain ⟨_, ⟨⟩, _, rfl, -, starts⟩ := runs_call_done.mp adds
    obtain ⟨_, ⟨⟩, _, rfl, -, ends⟩ := runs_call_done.mp starts
    obtain ⟨rfl, -⟩ := runs_done.mp ends
    refine ⟨salt, hashed, time, generated.symm, ?_, by simp⟩
    simpa using added

theorem stored_of_traces
    (traces : Traces (Hashes bcrypt) (compose (a.handleCredentials bcrypt username p)) events
      (.done status))
    (added : ⟨.cache (.add username stored), ()⟩ ∈ events) : ∃ salt hashed status time,
    bcrypt.generate p a.bcryptCost salt = .ok hashed ∧
      stored = ⟨.credentials hashed status, time + a.authTTL⟩ ∧ ⟨.cache .now, time⟩ ∈ events := by
  change Traces _ (compose (a.handle bcrypt (.password username p))) _ _ at traces
  rw [compose_handle] at traces
  obtain ⟨first, found, ⟨⟩, second, rfl, looks, answers⟩ := runs_bind_done.mp traces
  have unadded := (emits_get username).mem looks
  replace added := (List.mem_append.mp added).resolve_left fun member => unadded _ member trivial
  unfold answering at answers
  split at answers
  · obtain ⟨rfl, -⟩ := runs_done.mp answers
    contradiction
  · obtain ⟨asks, ⟨kept, limit⟩, ⟨⟩, stores, rfl, authenticates, keeps⟩ := runs_bind_done.mp answers
    have off := (emits_authenticate (.password username p)).mem authenticates
    have limited := (emits_authenticate_limit (.password username p)).returned authenticates
    replace added := (List.mem_append.mp added).resolve_left fun member => off _ member trivial
    obtain rfl | rfl : limit = none ∨ limit = some a.authTTL := limited
    · obtain ⟨rfl, -⟩ := runs_done.mp keeps
      contradiction
    · obtain ⟨salt, hashed, time, generated, same, read⟩ := stored_of_keep keeps added
      exact ⟨salt, hashed, kept, time, generated, same, by simp [read]⟩

/-- A user that is not in the cache, at time zero, and that Keystone knows. -/
def Admits (salt : bcrypt.Salt) : Event bcrypt.Hash → Prop
  | ⟨.cache (.get _), found⟩ => found = none
  | ⟨.cache .now, time⟩ => time = 0
  | ⟨.generate password cost, hashed⟩ => hashed = bcrypt.generate password cost salt
  | ⟨.keystone (.tokens _), answer⟩ => answer = tokenGranted
  | _ => True

theorem admitted (salt : bcrypt.Salt) (request : Request bcrypt.Hash) :
    ∃ answer, Admits salt ⟨request, answer⟩ := by
  match request with
  | .cache .now => exact ⟨0, rfl⟩
  | .cache (.get _) => exact ⟨none, rfl⟩
  | .cache (.add ..) | .cache (.remove _) | .cache (.afterFunc ..) => exact ⟨(), trivial⟩
  | .generate password cost => exact ⟨_, rfl⟩
  | .keystone (.tokens _) => exact ⟨_, rfl⟩
  | .keystone (.userGroups ..) | .keystone (.listGroups _) => exact ⟨.notSent "", trivial⟩
  | .keystone (.range names) =>
    exact ⟨⟨(names.entries.map Sigma.snd).toList, Multiset.coe_toList _⟩, trivial⟩

variable {salt : bcrypt.Salt} {event : Event bcrypt.Hash}

theorem hashes_of_admits
    (admits : Admits salt event) : Hashes bcrypt event := by
  match event with
  | ⟨.generate .., _⟩ => exact ⟨salt, admits⟩
  | ⟨.cache _, _⟩ | ⟨.keystone _, _⟩ => trivial

theorem exists_traces_adding (a : Authenticator) (username : String)
    (generated : bcrypt.generate p a.bcryptCost salt = .ok hashed) : ∃ events status,
    Traces (Hashes bcrypt) (compose (a.handleCredentials bcrypt username p)) events (.done status) ∧
      ⟨.cache (.add username ⟨.credentials hashed status, 0 + a.authTTL⟩), ()⟩ ∈ events ∧
      ∀ time : Int, ⟨.cache .now, time⟩ ∈ events → time = 0 := by
  obtain ⟨request, message, shape⟩ := compose_authenticate bcrypt a (.password username p)
  obtain ⟨wrapper, received⟩ : ∃ wrapper, Keystone.authAnswer tokenGranted = .ok wrapper := ⟨_, rfl⟩
  obtain ⟨asks, groups, told⟩ := Go.Resumption.exists_traces_done (admitted salt)
    (client (Keystone.groupsFromProjectToken wrapper).run : Program bcrypt.Hash _)
  let status : TokenReviewStatus :=
    { authenticated := true
      user := some (a.mapped { username := wrapper.token.user.name, uid := wrapper.token.user.id } wrapper groups) }
  have authenticates : Traces (Admits salt) (compose (a.authenticate (.password username p)))
      (⟨.keystone (.tokens request), tokenGranted⟩ :: asks) (.done (status, some a.authTTL)) := by
    rw [shape]
    refine .call (t := ()) rfl ?_
    rw [received, Keystone.wrap, compose_statusOf]
    exact told.bind
  have stores :
    Traces (Admits salt) (compose (store bcrypt a (.password username p) status a.authTTL))
      [⟨.generate p a.bcryptCost, .ok hashed⟩, ⟨.cache .now, (0 : Int)⟩,
        ⟨.cache (.add username ⟨.credentials hashed status, 0 + a.authTTL⟩), ()⟩,
        ⟨.cache (.afterFunc a.authTTL username), ()⟩] (.done ()) :=
    .call (t := ()) generated.symm
      (.call (t := ()) rfl (.call (t := ()) trivial (.call (t := ()) trivial .refl)))
  have looks :
    Traces (Admits salt) (compose (Authn.cached (Cache.get username)))
      [⟨.cache (.get username), none⟩] (.done none) := .call (t := ()) rfl .refl
  have traces : Traces (Admits salt) (compose (a.handle bcrypt (.password username p))) _ _ :=
    runs_handle_store looks authenticates stores
  refine ⟨_, status, traces.weaken fun _ event _ admits =>
    hashes_of_admits admits, by simp, fun time read => ?_⟩
  obtain ⟨-, -, zero⟩ := traces.taken _ read
  exact zero

end First

section Second

theorem contacts_of_asked {allowed : Event bcrypt.Hash → Prop}
    (traces : Traces allowed (asked bcrypt a credential) events (.done status)) :
    ∃ event ∈ events, Contacts event := by
  obtain ⟨request, message, shape⟩ := compose_authenticate bcrypt a credential
  rw [asked, shape] at traces
  obtain ⟨answer, ⟨⟩, rest, rfl, -, -⟩ := runs_call_done.mp traces
  exact ⟨_, List.mem_cons_self, trivial⟩

/-- A user whose entry is there is answered from it only if it has not expired and the password
matches. -/
theorem contacts_or_matches
    (traces : Traces (Finds username stored) (compose (a.handleCredentials bcrypt username q))
      events (.done status)) :
    (∃ event ∈ events, Contacts event) ∨ ∃ time : Int, ⟨.cache .now, time⟩ ∈ events ∧
      time ≤ stored.expireTime ∧ Entry.ofCredentials bcrypt q stored.value = some status := by
  change Traces _ (compose (a.handle bcrypt (.password username q))) _ _ at traces
  rw [compose_handle, compose_get] at traces
  obtain ⟨found, ⟨⟩, rest, rfl, finds, traces⟩ := runs_call_done.mp traces
  obtain rfl : found = some stored := finds rfl
  obtain ⟨time, ⟨⟩, rest, rfl, -, traces⟩ := runs_call_done.mp traces
  beta_reduce at traces
  by_cases expired : stored.expireTime < (time : Int)
  · rw [if_pos expired] at traces
    obtain ⟨_, ⟨⟩, rest, rfl, -, asks⟩ := runs_call_done.mp traces
    obtain ⟨event, member, contacts⟩ := contacts_of_asked asks
    exact .inl ⟨event, by simp [member], contacts⟩
  · rw [if_neg expired] at traces
    change Traces _ (answering bcrypt a (.password username q) (some stored.value)) _ _ at traces
    rw [answering, Option.bind_some] at traces
    cases hit : matching bcrypt (.password username q) stored.value with
    | none =>
      rw [hit] at traces
      obtain ⟨event, member, contacts⟩ := contacts_of_asked traces
      exact .inl ⟨event, by simp [member], contacts⟩
    | some found =>
      rw [hit] at traces
      obtain ⟨rfl, same, -⟩ := runs_done.mp traces
      cases same
      exact .inr ⟨time, by simp, not_lt.mp expired, hit⟩

theorem exists_traces_matching (a : Authenticator) (username : String)
    (stored : Stored (Entry bcrypt.Hash)) {time : Int} {found : TokenReviewStatus}
    (fresh : time ≤ stored.expireTime)
    (hit : Entry.ofCredentials bcrypt q stored.value = some found) :
    Traces (Finds username stored) (compose (a.handleCredentials bcrypt username q))
      [⟨.cache (.get username), some stored⟩, ⟨.cache .now, time⟩] (.done found) := by
  change Traces _ (compose (a.handle bcrypt (.password username q))) _ _
  rw [compose_handle]
  have looks : Traces (Finds username stored) (compose (Authn.cached (Cache.get username)))
      [⟨.cache (.get username), some stored⟩, ⟨.cache .now, time⟩] (.done (some stored.value)) := by
    rw [compose_get]
    exact .call (t := ()) (fun _ =>
      rfl) (.call (t := ()) trivial (.ite_neg (not_lt.mpr fresh) .refl))
  have answers : answering bcrypt a (.password username q) (some stored.value) = .done found := by
    rw [answering, Option.bind_some, matching, hit]
  exact answers ▸ looks.bind

/-- Such a request reads the clock once and does not ask Keystone. -/
theorem notBefore_of_zero (early : ∀ time : Int, ⟨.cache .now, time⟩ ∈ events → time = 0) :
    NotBefore events [⟨.cache (.get username), some stored⟩, ⟨.cache .now, (0 : Int)⟩] := by
  intro time time' read read'
  obtain rfl : time' = 0 := by simpa using read'
  exact (early time read).le

theorem not_contacts_of_mem {time : Int}
    (member : event ∈ [⟨.cache (.get username), some stored⟩, ⟨.cache .now, time⟩]) :
    ¬ Contacts event := by
  obtain rfl | rfl := List.mem_pair.mp member
  · exact id
  · exact id

end Second

/-- The passwords are told apart if and only if bcrypt reads something else of each, or nothing is
ever found for the first. -/
theorem separate_iff (bcrypt : Truncating) (a : Authenticator) (username p q : String) :
    Separate bcrypt a username p q ↔ expandedKey (bcrypt.bytes q) ≠ expandedKey (bcrypt.bytes p) ∨
      a.authTTL < 0 ∨ ¬ Storable bcrypt a (.password username p) := by
  constructor
  · intro separate
    by_contra merged
    obtain ⟨same, lasting, storable⟩ :
      expandedKey (bcrypt.bytes q) = expandedKey (bcrypt.bytes p) ∧ 0 ≤ a.authTTL ∧
        Storable bcrypt a (.password username p) := by
      simpa only [not_or, not_not, not_lt, ne_eq] using merged
    obtain ⟨salt, hashed, generated⟩ := storable
    obtain ⟨events, status, traces, added, early⟩ := exists_traces_adding a username generated
    have hit : Entry.ofCredentials bcrypt q (.credentials hashed status) = some status :=
      if_pos ((bcrypt.compare_iff generated q).mpr same)
    have fresh : (0 : Int) ≤ 0 + a.authTTL := by simpa using lasting
    have again :=
      exists_traces_matching a username ⟨.credentials hashed status, 0 + a.authTTL⟩ fresh hit
    obtain ⟨event, member, contacts⟩ :=
      separate events status traces _ added _ _ again (notBefore_of_zero early)
    exact not_contacts_of_mem member contacts
  · intro apart events status traces stored added events' status' again ordered
    obtain ⟨salt, hashed, kept, time, generated, rfl, read⟩ := stored_of_traces traces added
    obtain contacts | ⟨time', read', fresh, hit⟩ := contacts_or_matches again
    · exact contacts
    · have later := ordered time time' read read'
      obtain different | negative | unstorable := apart
      · have agrees : bcrypt.compare hashed q = true := by
          by_contra differs
          simp [Entry.ofCredentials, differs] at hit
        exact absurd ((bcrypt.compare_iff generated q).mp agrees) different
      · have : time' ≤ time + a.authTTL := fresh
        omega
      · exact absurd ⟨salt, hashed, generated⟩ unstorable

/-- A hash that is what bcrypt reads of the password. -/
def firstBytes : Truncating where
  Hash := List UInt8
  Salt := Unit
  salted := ⟨()⟩
  generate password _ _ := .ok (expandedKey password.toUTF8.toList)
  compare hashed password := hashed == expandedKey password.toUTF8.toList
  bytes password := password.toUTF8.toList
  compare_iff := by
    rintro password cost salt hashed ⟨⟩ other
    exact beq_iff_eq.trans eq_comm

/-- A password of 72 letters, and another one that begins with it. -/
def longPassword : String := String.ofList (List.replicate 72 'a')

/-- A password of 72 letters has been checked for a user. A longer one is then answered from the
cache. -/
theorem longer_password_accepted :
    longPassword ≠ longPassword ++ "b" ∧ ∃ events events' stored status,
    Traces (Hashes firstBytes) (compose (noRoles.handleCredentials firstBytes "ada" longPassword))
    events (.done status) ∧ ⟨.cache (.add "ada" stored), ()⟩ ∈ events ∧
    Traces (Finds "ada" stored)
      (compose (noRoles.handleCredentials firstBytes "ada" (longPassword ++ "b"))) events'
      (.done status) ∧ NotBefore events events' ∧ ∀ event ∈ events', ¬ Contacts event := by
  refine ⟨by decide +kernel, ?_⟩
  have generated :
      firstBytes.generate longPassword noRoles.bcryptCost () =
        .ok (expandedKey longPassword.toUTF8.toList) :=
    rfl
  obtain ⟨events, status, traces, added, early⟩ := exists_traces_adding noRoles "ada" generated
  have same :
      expandedKey longPassword.toUTF8.toList = expandedKey (longPassword ++ "b").toUTF8.toList := by
    decide +kernel
  have hit : Entry.ofCredentials firstBytes (longPassword ++ "b")
      (.credentials (expandedKey longPassword.toUTF8.toList) status) = some status := if_pos (beq_iff_eq.mpr same)
  have fresh : (0 : Int) ≤ 0 + noRoles.authTTL := by decide
  let stored : Stored (Entry firstBytes.Hash) :=
    ⟨.credentials (expandedKey longPassword.toUTF8.toList) status, 0 + noRoles.authTTL⟩
  have again := exists_traces_matching noRoles "ada" stored fresh hit
  exact ⟨events, _, _, status, traces, added, again, notBefore_of_zero early, fun _ member =>
    not_contacts_of_mem member⟩

end Composed
end Bouncer
