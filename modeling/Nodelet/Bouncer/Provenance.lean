import Nodelet.Bouncer.Authn

/-! Where the answers of the authenticator come from. Each entry of the cache was put there by a
thread that had asked Keystone about a credential; a thread that is answered from the cache has that
credential. -/
namespace Bouncer.Authn
open Go (Lru Machine)
open Go.Machine (Fact Lasting After)
open Go.Surroundings (Outline)
open Go.Threads (Thread Occurrence Log Pool Choice)
variable {bcrypt : Bcrypt} [Store (Entry bcrypt.Hash)]

/-- What has happened around the authenticator. -/
abbrev History (bcrypt : Bcrypt) [Store (Entry bcrypt.Hash)] :=
  Log (Cache.State (Entry bcrypt.Hash)) (Request.Answer (H := bcrypt.Hash))

/-- The entry is one for this credential. -/
inductive Entry.Of (bcrypt : Bcrypt) : Credential → Entry bcrypt.Hash → TokenReviewStatus →
    Prop where
  | credentials (generated : bcrypt.generate password cost salt = .ok hashed) :
    Of bcrypt (.password username password) (.credentials hashed status) status
  | token : Of bcrypt (.tokenID tokenID) (.token status) status

/-- A thread has asked Keystone about a credential, and its status is the one of the answer. -/
inductive Built (a : Authenticator) (thread : Nat) (credential : Credential)
    (log : History bcrypt) : TokenReviewStatus → Option Int → Prop where
  | failed (asked : ⟨thread, before, ⟨.projectToken credential a.projectID, .error error⟩⟩ ∈ log) :
    Built a thread credential log {} (a.failureTTL error)
  | authenticated
    (asked : ⟨thread, before, ⟨.projectToken credential a.projectID, .ok wrapper⟩⟩ ∈ log)
      (told : ⟨thread, after, ⟨.groups wrapper, groups⟩⟩ ∈ log) :
    Built a thread credential log
      { authenticated := true
        user := some (a.mapped { username := wrapper.token.user.name, uid := wrapper.token.user.id } wrapper groups) }
      (some a.authTTL)

def ttlOf (a : Authenticator) (status : TokenReviewStatus) : Int :=
  if status.authenticated then a.authTTL else a.unauthTTL

variable {a : Authenticator} {thread : Nat} {credential : Credential} {log : History bcrypt}
  {status : TokenReviewStatus} {ttl : Int} {stored : Stored (Entry bcrypt.Hash)}

theorem Built.ttl_eq (built : Built a thread credential log status (some ttl)) :
    ttl = ttlOf a status := by
  generalize same : some ttl = limit at built
  cases built with
  | failed asked => exact Authenticator.eq_of_failureTTL same.symm
  | authenticated asked told => exact Option.some.inj same

theorem lasting_built {limit : Option Int} :
    Lasting fun log : History bcrypt => Built a thread credential log status limit := by
  intro log more built
  cases built with
  | failed asked => exact .failed (List.mem_append_left _ asked)
  | authenticated asked told =>
    exact .authenticated (List.mem_append_left _ asked) (List.mem_append_left _ told)

/-- An entry that is in the cache was added by a thread that had asked about its credential. -/
def Sourced (a : Authenticator) (key : String) (stored : Stored (Entry bcrypt.Hash))
    (log : History bcrypt) : Prop :=
  ∃ (thread : Nat) (added : Cache.State (Entry bcrypt.Hash)) (credential : Credential)
    (status : TokenReviewStatus) (ttl : Int),
    key = credential.key ∧ stored.value.Of bcrypt credential status ∧
      stored.expireTime ≤ added.clock + ttl ∧
    After (fun earlier => Built a thread credential earlier status (some ttl))
      ⟨thread, added, ⟨.cache (.add key stored), ()⟩⟩ log

theorem lasting_sourced {key : String} : Lasting (Sourced a key stored) := by
  rintro log more ⟨thread, added, credential, status, ttl, same, entry, expires, after⟩
  exact ⟨thread, added, credential, status, ttl, same, entry, expires,
    Machine.lasting_after log more after⟩

/-- Every entry has a source, and time has not gone back. -/
structure Vouched (a : Authenticator) (s : Cache.State (Entry bcrypt.Hash))
    (log : History bcrypt) : Prop where
  past : ∀ occurrence ∈ log, occurrence.before.clock ≤ s.clock
  entries : ∀ key stored, Lru.lookup s.lru key = some stored → Sourced a key stored log

/-- A thread has found an entry, and then seen that it has not expired. -/
def Found (a : Authenticator) (thread : Nat) (key : String) (stored : Stored (Entry bcrypt.Hash))
    (log : History bcrypt) : Prop :=
  ∃ checked looked, checked.clock ≤ stored.expireTime ∧
    After (After (Sourced a key stored) ⟨thread, looked, ⟨.cache (.get key), some stored⟩⟩)
      ⟨thread, checked, ⟨.cache .now, checked.clock⟩⟩ log

/-- A thread is answered from the cache. The entry has been added by a thread that asked about this
very credential, and not too long ago. -/
def FromCache (a : Authenticator) (thread : Nat) (credential : Credential)
    (status : TokenReviewStatus) (log : History bcrypt) : Prop :=
  ∃ (source : Nat) (stored : Stored (Entry bcrypt.Hash))
    (added looked checked : Cache.State (Entry bcrypt.Hash)),
    checked.clock ≤ added.clock + ttlOf a status ∧
    After (After (After (fun earlier => ∃ ttl, Built a source credential earlier status (some ttl))
      ⟨source, added, ⟨.cache (.add credential.key stored), ()⟩⟩)
      ⟨thread, looked, ⟨.cache (.get credential.key), some stored⟩⟩)
      ⟨thread, checked, ⟨.cache .now, checked.clock⟩⟩ log

section Steps
variable {s t : Cache.State (Entry bcrypt.Hash)}

theorem Vouched.extend (vouched : Vouched a s log) (clock : t.clock = s.clock)
    (entries : ∀ key stored, Lru.lookup t.lru key = some stored →
      Lru.lookup s.lru key = some stored ∨ Sourced a key stored (log ++ [⟨thread, s, event⟩])) :
    Vouched a t (log ++ [⟨thread, s, event⟩]) := by
  refine ⟨fun occurrence member => ?_, fun key stored here => ?_⟩
  · rw [clock]
    obtain before | last := List.mem_append.mp member
    · exact vouched.past occurrence before
    · rw [List.mem_singleton.mp last]
  · obtain before | sourced := entries key stored here
    · exact lasting_sourced log _ (vouched.entries key stored before)
    · exact sourced

theorem Vouched.add (vouched : Vouched a s log) (entry : stored.value.Of bcrypt credential status)
    (built : Built a thread credential log status (some ttl))
    (expires : stored.expireTime ≤ s.clock + ttl) :
    Vouched a { s with lru := Lru.add s.lru credential.key stored }
      (log ++ [⟨thread, s, ⟨.cache (.add credential.key stored), ()⟩⟩]) := by
  refine vouched.extend rfl fun key other here => ?_
  rw [Lru.lookup_add] at here
  split at here
  · rename_i same
    cases here
    subst same
    exact .inr ⟨thread, s, credential, status, ttl, rfl, entry, expires, Machine.after_last built⟩
  · split at here
    · contradiction
    · exact .inl here

theorem Vouched.moved {choice : Cache.Move} (vouched : Vouched a s log)
    (moves : Cache.move choice s = some t) : Vouched a t log := by
  obtain ⟨elapsed, rfl⟩ | ⟨i, timer, -, -, rfl⟩ := Cache.move_cases moves
  · refine ⟨fun occurrence member => ?_, vouched.entries⟩
    have past := vouched.past occurrence member
    show _ ≤ s.clock + elapsed
    omega
  · exact ⟨vouched.past, fun key stored here =>
      vouched.entries key stored (Lru.lookup_of_lookup_remove here)⟩

end Steps

section Outlines
variable {key : String}

theorem outline_quiet {next : request.Answer → Program bcrypt.Hash α}
    {P : History bcrypt → Prop} {post : α → Cache.State (Entry bcrypt.Hash) × History bcrypt → Prop}
    (Q : request.Answer → History bcrypt → Prop) (lasting : ∀ answer, Lasting (Q answer))
    (quiet : ∀ reply s answer t, serve bcrypt reply request s = some (answer, t) →
      t.clock = s.clock ∧ ∀ key stored, Lru.lookup t.lru key = some stored →
      Lru.lookup s.lru key = some stored)
    (learned : ∀ s log reply answer t, Vouched a s log → P log →
      serve bcrypt reply request s = some (answer, t) →
      Q answer (log ++ [⟨thread, s, ⟨request, answer⟩⟩]))
    (rest : ∀ answer,
      ((machine bcrypt a).around (Vouched a) thread).Outline post (next answer)
      (Fact (Vouched a) (Q answer))) :
    ((machine bcrypt a).around (Vouched a) thread).Outline post (.call request next)
    (Fact (Vouched a) P) := by
  refine Machine.outline_ask Q lasting (fun s log reply answer t vouched holds answered => ?_) rest
  obtain ⟨clock, entries⟩ := quiet reply s answer t answered
  exact ⟨vouched.extend clock fun key stored here => .inl (entries key stored here),
    learned s log reply answer t vouched holds answered⟩

theorem outline_authenticate : ((machine bcrypt a).around (Vouched a) thread).Outline
    (fun (built : TokenReviewStatus × Option Int) =>
      Fact (Vouched a) fun log => Built a thread credential log built.1 built.2)
    (a.authenticate credential) (Fact (Vouched a) fun _ => True) := by
  refine outline_quiet (fun answer log =>
    ∃ before, ⟨thread, before, ⟨.projectToken credential a.projectID, answer⟩⟩ ∈ log) ?_ ?_ ?_ ?_
  · rintro answer log more ⟨before, member⟩
    exact ⟨before, List.mem_append_left _ member⟩
  · rintro reply s answer t ⟨⟩
    exact ⟨rfl, fun _ _ => id⟩
  · rintro s log reply answer t - - -
    exact ⟨s, by simp⟩
  · rintro (error | wrapper)
    · rintro ⟨s, log⟩ ⟨vouched, before, asked⟩
      exact ⟨vouched, .failed asked⟩
    · refine outline_quiet (fun groups log =>
        (∃ before, ⟨thread, before, ⟨.projectToken credential a.projectID, .ok wrapper⟩⟩ ∈ log) ∧
        ∃ after, ⟨thread, after, ⟨.groups wrapper, groups⟩⟩ ∈ log) ?_ ?_ ?_ ?_
      · rintro groups log more ⟨⟨before, asked⟩, after, told⟩
        exact ⟨⟨before, List.mem_append_left _ asked⟩, after, List.mem_append_left _ told⟩
      · rintro reply s answer t ⟨⟩
        exact ⟨rfl, fun _ _ => id⟩
      · rintro s log reply answer t - ⟨before, asked⟩ -
        exact ⟨⟨before, List.mem_append_left _ asked⟩, s, by simp⟩
      · rintro groups ⟨s, log⟩ ⟨vouched, ⟨before, asked⟩, after, told⟩
        exact ⟨vouched, .authenticated asked told⟩

theorem outline_get : ((machine bcrypt a).around (Vouched a) thread).Outline
    (fun value => Fact (Vouched a) fun log => ∀ entry ∈ value, ∃ stored, stored.value = entry ∧
      Found a thread key stored log) (cached (Cache.get key)) (Fact (Vouched a) fun _ => True) := by
  refine outline_quiet (fun found log => ∀ stored ∈ found, ∃ looked,
    After (Sourced a key stored) ⟨thread, looked, ⟨.cache (.get key), some stored⟩⟩ log) ?_ ?_ ?_ ?_
  · rintro found log more after stored member
    obtain ⟨looked, after⟩ := after stored member
    exact ⟨looked, Machine.lasting_after log more after⟩
  · rintro reply s found t ⟨⟩
    exact ⟨rfl, fun key stored here => by simpa using here⟩
  · rintro s log reply found t vouched - ⟨⟩ stored member
    have here : Lru.lookup s.lru key = some stored := member
    refine ⟨s, ?_⟩
    rw [here]
    exact Machine.after_last (vouched.entries key stored here)
  · rintro (_ | stored)
    · rintro ⟨s, log⟩ ⟨vouched, -⟩
      exact ⟨vouched, by simp⟩
    · refine outline_quiet (fun now log => ∃ checked looked, checked.clock = now ∧
        After (After (Sourced a key stored) ⟨thread, looked, ⟨.cache (.get key), some stored⟩⟩)
          ⟨thread, checked, ⟨.cache .now, checked.clock⟩⟩ log) ?_ ?_ ?_ ?_
      · rintro now log more ⟨checked, looked, same, after⟩
        exact ⟨checked, looked, same, Machine.lasting_after log more after⟩
      · rintro reply s now t ⟨⟩
        exact ⟨rfl, fun _ _ => id⟩
      · rintro s log reply now t - looked ⟨⟩
        obtain ⟨looked, after⟩ := looked stored rfl
        exact ⟨s, looked, rfl, Machine.after_last after⟩
      · intro now
        change Outline _ _ (cached (if stored.expireTime < now then
          Cache.ask (.remove key) >>= fun _ => pure none else pure (some stored.value))) _
        by_cases late : stored.expireTime < now
        · rw [if_pos late]
          refine outline_quiet (fun _ _ => True) (fun _ _ _ => id) ?_ (fun _ _ _ _ _ _ _ _ => trivial) fun _ => ?_
          · rintro reply s answer t ⟨⟩
            exact ⟨rfl, fun _ _ => Lru.lookup_of_lookup_remove⟩
          · rintro ⟨s, log⟩ ⟨vouched, -⟩
            exact ⟨vouched, by simp⟩
        · rw [if_neg late]
          rintro ⟨s, log⟩ ⟨vouched, checked, looked, rfl, after⟩
          refine ⟨vouched, ?_⟩
          rintro entry ⟨⟩
          exact ⟨stored, rfl, checked, looked, by omega, after⟩

theorem outline_add {value : Entry bcrypt.Hash} (entry : value.Of bcrypt credential status) :
    ((machine bcrypt a).around (Vouched a) thread).Outline
      (fun _ => Fact (Vouched a) fun log => Built a thread credential log status (some ttl))
      (cached (Cache.add credential.key value ttl))
      (Fact (Vouched a) fun log => Built a thread credential log status (some ttl)) := by
  refine outline_quiet (fun now log => Built a thread credential log status (some ttl) ∧
    ∃ occurrence ∈ log, occurrence.before.clock = now) ?_ ?_ ?_ fun now => ?_
  · rintro now log more ⟨built, occurrence, member, same⟩
    exact ⟨lasting_built log more built, occurrence, List.mem_append_left _ member, same⟩
  · rintro reply s now t ⟨⟩
    exact ⟨rfl, fun _ _ => id⟩
  · rintro s log reply now t - built ⟨⟩
    exact ⟨lasting_built log _ built, _, List.mem_append_right _ (List.mem_singleton_self _), rfl⟩
  · refine Machine.outline_ask (fun _ log => Built a thread credential log status (some ttl))
      (fun _ => lasting_built) ?_ fun _ => ?_
    · rintro s log reply answer t vouched ⟨built, occurrence, member, rfl⟩ ⟨⟩
      have past := vouched.past occurrence member
      exact ⟨vouched.add entry built (Int.add_le_add_right past ttl), lasting_built log _ built⟩
    · refine outline_quiet (fun _ log => Built a thread credential log status (some ttl)) (fun _ =>
        lasting_built) ?_ ?_ fun _ _ => id
      · rintro reply s answer t ⟨⟩
        exact ⟨rfl, fun _ _ => id⟩
      · rintro s log reply answer t - built -
        exact lasting_built log _ built

end Outlines

section Handlers
variable {stored : Stored (Entry bcrypt.Hash)}

omit [Store (Entry bcrypt.Hash)] in
variable {other : Credential} {told : TokenReviewStatus} {username password : String}

theorem Entry.Of.ofCredentials {entry : Entry bcrypt.Hash} (source : entry.Of bcrypt other told)
    (matching : entry.ofCredentials bcrypt password = some status) (same : username = other.key) :
    other = .password username password ∧ told = status := by
  cases source with
  | credentials generated =>
    rw [Entry.ofCredentials] at matching
    split at matching
    · rename_i compares
      cases matching
      rw [(bcrypt.compare_iff generated password).mp compares, show username = _ from same]
      exact ⟨rfl, rfl⟩
    · contradiction
  | token => contradiction

omit [Store (Entry bcrypt.Hash)] in
theorem Entry.Of.ofToken {entry : Entry bcrypt.Hash} {tokenID : String}
    (source : entry.Of bcrypt other told) (matching : entry.ofToken = some status)
    (same : tokenID = other.key) : other = .tokenID tokenID ∧ told = status := by
  cases source with
  | credentials generated => contradiction
  | token =>
    cases matching
    rw [show tokenID = _ from same]
    exact ⟨rfl, rfl⟩

/-- What a thread finds in the cache answers its own credential, if all entries that match are for
it. -/
theorem Found.fromCache (found : Found a thread credential.key stored log)
    (matching : ∀ other told, stored.value.Of bcrypt other told → credential.key = other.key →
      other = credential ∧ told = status) : FromCache a thread credential status log := by
  obtain ⟨checked, looked, fresh, before, last, rfl, earlier, later, rfl, source⟩ := found
  obtain ⟨thread', added, other, told, ttl, key, entry, expires, after⟩ := source
  obtain ⟨rfl, rfl⟩ := matching other told entry key
  obtain ⟨first, rest, rfl, built⟩ := after
  have limit := built.ttl_eq
  refine ⟨thread', stored, added, looked, checked, by omega, _, last, rfl, _, later, rfl, first,
    rest, rfl, ttl, built⟩

/-- Either the thread has asked Keystone itself, or it is answered from the cache. -/
def Answered (a : Authenticator) (thread : Nat) (credential : Credential)
    (status : TokenReviewStatus) (log : History bcrypt) : Prop :=
  (∃ limit, Built a thread credential log status limit) ∨ FromCache a thread credential status log

theorem outline_handleWith {matching : Entry bcrypt.Hash → Option TokenReviewStatus}
    {store : TokenReviewStatus → Int → Program bcrypt.Hash Unit}
    (own : ∀ entry other told status, entry.Of bcrypt other told → matching entry = some status →
      credential.key = other.key → other = credential ∧ told = status)
    (stores : ∀ status ttl,
      ((machine bcrypt a).around (Vouched a) thread).Outline (fun _ => Fact (Vouched a) fun log =>
      Built a thread credential log status (some ttl)) (store status ttl)
      (Fact (Vouched a) fun log => Built a thread credential log status (some ttl))) :
    ((machine bcrypt a).around (Vouched a) thread).Outline (fun status s =>
      Answered a thread credential status s.2)
      (a.handleWith credential matching store) (Fact (Vouched a) fun _ => True) := by
  refine .bind outline_get fun value => ?_
  cases hit : value.bind matching with
  | some status =>
    obtain ⟨entry, rfl, hit⟩ := Option.bind_eq_some_iff.mp hit
    rintro ⟨s, log⟩ ⟨-, found⟩
    obtain ⟨stored, rfl, inside⟩ := found entry rfl
    exact .inr (inside.fromCache fun other told source same =>
      own _ other told status source hit same)
  | none =>
    refine .bind (outline_authenticate.weaken fun s holds => ⟨holds.1, trivial⟩) ?_
    rintro ⟨status, _ | ttl⟩
    · rintro ⟨s, log⟩ ⟨-, built⟩
      exact .inl ⟨none, built⟩
    · refine .bind (stores status ttl) ?_
      rintro - ⟨s, log⟩ ⟨-, built⟩
      exact .inl ⟨some ttl, built⟩

theorem outline_handleCredentials : ((machine bcrypt a).around (Vouched a) thread).Outline
    (fun status s => Answered a thread (.password username password) status s.2)
    (a.handleCredentials bcrypt username password) (Fact (Vouched a) fun _ => True) := by
  refine outline_handleWith (fun _ _ _ _ source matching same => source.ofCredentials matching same)
    fun status ttl => ?_
  refine outline_quiet (fun hashed log =>
    Built a thread (.password username password) log status (some ttl) ∧
    ∃ salt, hashed = bcrypt.generate password a.bcryptCost salt) ?_ ?_ ?_ ?_
  · rintro hashed log more ⟨built, generated⟩
    exact ⟨lasting_built log more built, generated⟩
  · rintro reply s hashed t ⟨⟩
    exact ⟨rfl, fun _ _ => id⟩
  · rintro s log reply hashed t - built ⟨⟩
    exact ⟨lasting_built log _ built, reply.salt, rfl⟩
  · rintro (error | hashed)
    · exact fun s holds => ⟨holds.1, holds.2.1⟩
    · refine .assuming (fun s holds => holds.2.2) fun ⟨salt, generated⟩ => ?_
      exact (outline_add (.credentials generated.symm)).weaken fun s holds => ⟨holds.1, holds.2.1⟩

theorem outline_handleTokenID {tokenID : String} :
    ((machine bcrypt a).around (Vouched a) thread).Outline
    (fun status s => Answered a thread (.tokenID tokenID) status s.2)
    (a.handleTokenID bcrypt tokenID) (Fact (Vouched a) fun _ => True) :=
  outline_handleWith (fun _ _ _ _ source matching same => source.ofToken matching same)
    fun _ _ => outline_add .token

theorem outlined (bcrypt : Bcrypt) [Store (Entry bcrypt.Hash)] (a : Authenticator) :
    Machine.Outlined (machine bcrypt a) (Vouched a)
    fun thread credential status s => Answered a thread credential status s.2 where
  moves _ _ _ _ vouched moves := vouched.moved moves
  programs thread credential := by
    cases credential with
    | password username password => exact outline_handleCredentials
    | tokenID id => exact outline_handleTokenID

end Handlers

section Answers
variable
  {pool : Pool (Cache.State (Entry bcrypt.Hash)) Credential (Request.Answer (H := bcrypt.Hash))
    TokenReviewStatus}

/-- In every interleaving a review gets the status of its own credential: the one that its thread
has built from the answers of Keystone, or one that a thread with the same credential has built and
cached not too long ago. -/
theorem answers_own_credential {size : Nat} {positive : 0 < size}
    (reached : Transition.Reaches (machine bcrypt a).step (fun _ _ =>
      True) { shared := .new size positive } pool)
    (finished : pool.threads[thread]? = some ⟨credential, .done status⟩) :
    (∃ limit, Built a thread credential pool.log status limit) ∨
      FromCache a thread credential status pool.log := by
  have initial : Vouched a (.new size positive : Cache.State (Entry bcrypt.Hash)) [] :=
    ⟨nofun, by simp [Cache.State.new]⟩
  have safe := (outlined bcrypt a).reached initial reached
  exact (safe.held thread _ finished).returned

/-- A hash from which the password can be read. -/
def plain : Bcrypt where
  Hash := String
  Salt := Unit
  salted := ⟨()⟩
  generate password _ _ := .ok password
  compare hashed password := hashed == password
  compare_iff := by
    rintro password cost salt hashed ⟨⟩ other
    exact beq_iff_eq.trans eq_comm

/-- To evaluate runs with. -/
instance : Lru String (Stored (Entry plain.Hash)) := .recent

def ada : Credential := .password "ada" "secret"

def adaToken : KeystoneTokenWrapper :=
    { token := { user := { id := "1", name := "ada" } }, tokenID := "t" }

/-- Keystone accepts a user, and later would not. -/
def acceptedOnce : List (Choice Credential (Reply plain) Cache.Move) :=
  let accepts := .run 0 { token := .ok adaToken, groups := .ok ["admins"], salt := () }
  let denies := .run 1 { token := .error (.response ⟨"denied", 401⟩), groups := .ok [], salt := () }
  [.spawn ada] ++ List.replicate 7 accepts ++ [.move (.tick 5), .spawn ada, denies, denies]

theorem answers_own_credential_ada : ∃ pool,
    Transition.Reaches (machine plain ⟨"p", 10, 2, 4, ⟨∅⟩⟩).step (fun _ _ =>
      True) { shared := .new 3 (by decide) } pool ∧
    pool.threads[1]? =
      some ⟨ada, .done { authenticated := true, user := some ⟨"ada", "1", ["admins"]⟩ }⟩ ∧
    ((∃ limit, Built ⟨"p", 10, 2, 4, ⟨∅⟩⟩ 1 ada pool.log
      { authenticated := true, user := some ⟨"ada", "1", ["admins"]⟩ } limit) ∨
      FromCache ⟨"p", 10, 2, 4, ⟨∅⟩⟩ 1 ada
      { authenticated := true, user := some ⟨"ada", "1", ["admins"]⟩ } pool.log) := by
  have followed :
    (Transition.follow (machine plain ⟨"p", 10, 2, 4, ⟨∅⟩⟩).step (fun _ _ => True) acceptedOnce
      { shared := .new 3 (by decide) }).map (·.result 1) =
      some (some (ada, { authenticated := true, user := some ⟨"ada", "1", ["admins"]⟩ })) := by decide +kernel
  obtain ⟨pool, followed, returned⟩ := Option.map_eq_some_iff.mp followed
  have reached := Transition.follow_reaches followed
  have finished := Pool.result_eq_some returned
  exact ⟨pool, reached, finished, answers_own_credential reached finished⟩

end Answers
end Bouncer.Authn
