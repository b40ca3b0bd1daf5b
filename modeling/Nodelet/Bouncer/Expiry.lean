import Nodelet.Bouncer.Cache

/-! Which entries of the cache can be relied on. A timer and the second half of a lookup remove what
is stored under a key, whoever has stored it. -/
namespace Bouncer.Cache
open Go (Lru Machine Resumption)
open Go.Threads (Thread Occurrence Log Pool Choice)
open Go.Resumption (Traces)
variable {V : Type}

inductive Job (V : Type) where
  | add (key : String) (value : V) (ttl : Int)
  | get (key : String)
  deriving DecidableEq, Repr

def Job.key : Job V → String
  | .add key _ _ => key
  | .get key => key

def Job.program : Job V → Call V (Option V)
  | .add key value ttl => do
    Cache.add key value ttl
    return none
  | .get key => Cache.get key

abbrev Threads (V : Type) [Store V] := Pool (State V) (Job V) (Request.Answer (V := V)) (Option V)

abbrev History (V : Type) [Store V] := Log (State V) (Request.Answer (V := V))

section Log
variable [Store V]

def machine (V : Type) [Store V] :
    Machine (State V) (Job V) Unit Move (Request.Answer (V := V)) (Option V) where
  program := Job.program
  serve _ request s := some (serve request s)
  move := move

/-- What an operation does to the entries that should be there: the last one of each key, unless it
has been dropped since to make room. -/
def enter (entries : String → Option (Stored V))
    (occurrence : Occurrence (State V) (Request.Answer (V := V))) : String → Option (Stored V) :=
  match occurrence.event with
  | ⟨.add key entry, _⟩ => fun k =>
    if k = key then some entry else if Lru.evicts occurrence.before.lru key = some k then none
      else entries k
  | _ => entries

def live (log : History V) : String → Option (Stored V) := log.foldl enter fun _ => none

/-- The thread is between two operations on this key, the later of which may remove it. -/
def midway (key : String) : Thread (Job V) (Request.Answer (V := V)) (Option V) → Bool
  | ⟨.get k, .call .now _⟩ | ⟨.get k, .call (.remove _) _⟩ => k = key
  | ⟨.add k _ _, .call (.afterFunc _ _) _⟩ => k = key
  | _ => false

/-- A key is added only while no timer of it is pending, and no other operation on it is under
way. -/
def calm (choice : Choice (Job V) Unit Move) (pool : Threads V) : Bool :=
  match choice with
  | .run i _ =>
    match pool.threads[i]? with
    | some ⟨_, .call (.add key _) _⟩ =>
      pool.shared.timers.all (·.key ≠ key) && pool.threads.all fun thread => !midway key thread
    | _ => true
  | _ => true

end Log

section Live
variable [Store V] {log : History V} {thread : Nat} {before : State V} {key k : String}
  {entry : Stored V}

theorem live_add : live (log ++ [⟨thread, before, ⟨.add key entry, ()⟩⟩]) k =
    if k = key then some entry else if Lru.evicts before.lru key = some k then none
      else live log k := by
  rw [live, List.foldl_append]
  rfl

variable {request : Request V}

theorem live_other (other : ∀ key entry, request ≠ .add key entry) :
    live (log ++ [⟨thread, before, ⟨request, answer⟩⟩]) = live log := by
  rw [live, List.foldl_append]
  cases request with
  | add key entry => exact absurd rfl (other key entry)
  | _ => rfl

end Live

/-- Where a thread is, and what it relies on. -/
inductive Stage (clock : Int) (entries : String → Option (Stored V)) : Job V → Call V (Option V) →
    Prop where
  | done : Stage clock entries job (.done value)
  | looking : Stage clock entries (.get key) (.call (.get key) fun
      | none => .done none
      | some entry => .call .now fun now =>
        if entry.expireTime < now then .call (.remove key) fun _ => .done none else .done (some entry.value))
  /-- What should be there is what has been found. -/
  | found (same : ∀ e, entries key = some e → e = entry) :
    Stage clock entries (.get key) (.call .now fun now =>
      if entry.expireTime < now then .call (.remove key) fun _ => .done none else .done (some entry.value))
  | removing (expired : ∀ e, entries key = some e → e.expireTime ≤ clock) :
    Stage clock entries (.get key) (.call (.remove key) fun _ => .done none)
  | adding : Stage clock entries (.add key value ttl) (.call .now fun now =>
      .call (.add key ⟨value, now + ttl⟩) fun _ => .call (.afterFunc ttl key) fun _ => .done none)
  | putting (past : now ≤ clock) :
    Stage clock entries (.add key value ttl) (.call (.add key ⟨value, now + ttl⟩) fun _ =>
      .call (.afterFunc ttl key) fun _ => .done none)
  | timing (enough : ∀ e, entries key = some e → e.expireTime ≤ clock + ttl) :
    Stage clock entries (.add key value ttl) (.call (.afterFunc ttl key) fun _ => .done none)

section Stage
variable {clock later : Int} {entries : String → Option (Stored V)} {job : Job V}
  {rest : Call V (Option V)}

theorem Stage.start (job : Job V) : Stage clock entries job job.program := by
  cases job with
  | add key value ttl => exact .adding
  | get key => exact .looking

theorem Stage.tick (stage : Stage clock entries job rest) (passed : clock ≤ later) :
    Stage later entries job rest := by
  cases stage with
  | done => exact .done
  | looking => exact .looking
  | found same => exact .found same
  | removing expired => exact .removing fun e here => Int.le_trans (expired e here) passed
  | adding => exact .adding
  | putting past => exact .putting (Int.le_trans past passed)
  | timing enough => exact .timing fun e here => Int.le_trans (enough e here) (by omega)

theorem Stage.enter {after : String → Option (Stored V)} (stage : Stage clock entries job rest)
    (same : midway job.key ⟨job, rest⟩ = true → ∀ e, after job.key = some e →
      entries job.key = some e) : Stage clock after job rest := by
  cases stage with
  | done => exact .done
  | looking => exact .looking
  | found agrees => exact .found fun e here => agrees e (same (by simp [midway, Job.key]) e here)
  | removing expired => exact .removing fun e here => expired e (same (by simp [midway, Job.key]) e here)
  | adding => exact .adding
  | putting past => exact .putting past
  | timing enough => exact .timing fun e here => enough e (same (by simp [midway, Job.key]) e here)

end Stage

/-- No timer and no thread will remove an entry before it expires, and those are there that should
be. -/
structure Kept [Store V] (pool : Threads V) : Prop where
  timers : ∀ timer ∈ pool.shared.timers, ∀ e, live pool.log timer.key = some e →
    e.expireTime ≤ timer.deadline
  threads : ∀ thread ∈ pool.threads, Stage pool.shared.clock (live pool.log) thread.job thread.rest
  stored : ∀ key e, Lru.lookup pool.shared.lru key = some e → live pool.log key = some e
  fresh : ∀ key e, live pool.log key = some e → pool.shared.clock < e.expireTime →
    Lru.lookup pool.shared.lru key = some e

namespace Kept
variable [Store V] {pool next : Threads V} {choice : Choice (Job V) Unit Move}
  {i : Nat} {job : Job V} {key : String}

theorem forall_mem_set {P : α → Prop} {items : List α} {item : α} (all : ∀ x ∈ items, P x)
    (new : P item) : ∀ x ∈ items.set i item, P x := by
  intro x member
  obtain before | rfl := List.mem_or_eq_of_mem_set member
  · exact all x before
  · exact new

/-- A key that is removed has no entry that is still fresh. -/
theorem remove (kept : Kept pool)
    (expired : ∀ e, live pool.log key = some e → e.expireTime ≤ pool.shared.clock) :
    (∀ k e, Lru.lookup (Lru.remove pool.shared.lru key) k = some e → live pool.log k = some e) ∧
    ∀ k e, live pool.log k = some e → pool.shared.clock < e.expireTime →
      Lru.lookup (Lru.remove pool.shared.lru key) k = some e := by
  simp only [Lru.lookup_remove]
  constructor
  · intro k e found
    split at found
    · contradiction
    · exact kept.stored k e found
  · intro k e here fresh
    split
    · rename_i same
      subst same
      have past := expired e here
      omega
    · exact kept.fresh k e here fresh

theorem moved {choice : Move} {shared : State V} (kept : Kept pool)
    (moves : move choice pool.shared = some shared) : Kept { pool with shared } := by
  obtain ⟨elapsed, rfl⟩ | ⟨i, timer, here, due, rfl⟩ := move_cases moves
  · have passed : pool.shared.clock ≤ pool.shared.clock + elapsed := by omega
    exact ⟨kept.timers, fun thread member => (kept.threads thread member).tick passed, kept.stored,
      fun key e here fresh => kept.fresh key e here (Int.lt_of_le_of_lt passed fresh)⟩
  · have pending := List.mem_of_getElem? here
    obtain ⟨stored, fresh⟩ := kept.remove fun e live =>
      Int.le_trans (kept.timers timer pending e live) due
    exact ⟨fun other member =>
      kept.timers other (List.mem_of_mem_eraseIdx member), kept.threads, stored, fresh⟩

theorem goesOn {rest : Call V (Option V)}
    {lru : Lru.Cache String (Stored V)} {timers : List Timer} (kept : Kept pool)
    (other : ∀ key entry, request ≠ .add key entry)
    (pending : ∀ timer ∈ timers, ∀ e, live pool.log timer.key = some e → e.expireTime ≤ timer.deadline)
    (stage : Stage pool.shared.clock (live pool.log) job rest)
    (stored : ∀ k e, Lru.lookup lru k = some e → live pool.log k = some e)
    (fresh : ∀ k e, live pool.log k = some e → pool.shared.clock < e.expireTime → Lru.lookup lru k = some e) :
    Kept { shared := { pool.shared with lru, timers }
           threads := pool.threads.set i ⟨job, rest⟩
           log := pool.log ++ [⟨i, pool.shared, ⟨request, answer⟩⟩] } := by
  have same : live (pool.log ++ [⟨i, pool.shared, ⟨request, answer⟩⟩]) = live pool.log :=
    live_other other
  exact ⟨same ▸ pending, same ▸ forall_mem_set kept.threads stage, same ▸ stored, same ▸ fresh⟩

/-- An entry is put in place, and nobody is about to remove its key. -/
theorem put {ttl now : Int} (kept : Kept pool) (past : now ≤ pool.shared.clock)
    (untimed : ∀ timer ∈ pool.shared.timers, timer.key ≠ key)
    (alone : ∀ thread ∈ pool.threads, midway key thread = false) :
    Kept { shared := { pool.shared with lru := Lru.add pool.shared.lru key ⟨value, now + ttl⟩ }
           threads := pool.threads.set i ⟨.add key value ttl, .call (.afterFunc ttl key) fun _ => .done none⟩
           log := pool.log ++ [⟨i, pool.shared, ⟨.add key ⟨value, now + ttl⟩, ()⟩⟩] } := by
  have others {k : String} {e : Stored V} (apart : k ≠ key)
      (here : live (pool.log ++ [⟨i, pool.shared, ⟨.add key ⟨value, now + ttl⟩, ()⟩⟩]) k = some e) :
      live pool.log k = some e := by
    rw [live_add, if_neg apart] at here
    split at here
    · contradiction
    · exact here
  refine ⟨fun timer member e here =>
    ?_, forall_mem_set (fun thread member => ?_) (.timing fun e here => ?_), ?_, ?_⟩
  · exact kept.timers timer member e (others (untimed timer member) here)
  · refine (kept.threads thread member).enter fun busy e here => others ?_ here
    rintro same
    rw [same] at busy
    exact absurd (busy.symm.trans (alone thread member)) Bool.noConfusion
  · rw [live_add, if_pos rfl] at here
    cases here
    exact Int.add_le_add_right past ttl
  · intro k e found
    rw [live_add]
    rw [Lru.lookup_add] at found
    split at found
    · rename_i same
      rw [if_pos same, found]
    · rename_i apart
      rw [if_neg apart]
      split at found
      · contradiction
      · rename_i room
        rw [if_neg room, kept.stored k e found]
  · intro k e here fresh
    rw [live_add] at here
    rw [Lru.lookup_add]
    split at here
    · rename_i same
      rw [if_pos same, here]
    · rename_i apart
      rw [if_neg apart]
      split at here
      · contradiction
      · rename_i room
        rw [if_neg room]
        exact kept.fresh k e here fresh

theorem step (kept : Kept pool) (allowed : calm choice pool = true)
    (stepped : (machine V).Stepped choice pool next) : Kept next := by
  cases stepped with
  | spawned =>
    rename_i job
    refine ⟨kept.timers, List.forall_mem_append.mpr ⟨kept.threads, ?_⟩, kept.stored, kept.fresh⟩
    exact List.forall_mem_singleton.mpr (.start job)
  | moved moves => exact kept.moved moves
  | served here answered =>
    cases kept.threads _ (List.mem_of_getElem? here) with
    | looking =>
      cases answered
      refine kept.goesOn (by simp) kept.timers ?_ (by simpa using kept.stored) (by simpa using kept.fresh)
      rename_i key
      cases found : Lru.lookup pool.shared.lru key with
      | none =>
        exact .done
      | some entry =>
        exact .found fun e here => Option.some.inj (here.symm.trans (kept.stored key entry found))
    | found same =>
      cases answered
      refine kept.goesOn (by simp) kept.timers ?_ kept.stored kept.fresh
      dsimp only
      split
      · rename_i late
        refine .removing fun e here => ?_
        rw [same e here]
        exact Int.le_of_lt late
      · exact .done
    | removing expired =>
      cases answered
      obtain ⟨stored, fresh⟩ := kept.remove expired
      exact kept.goesOn (by simp) kept.timers .done stored fresh
    | adding =>
      cases answered
      exact kept.goesOn (by simp) kept.timers (.putting (Int.le_refl _)) kept.stored kept.fresh
    | putting past =>
      cases answered
      simp only [calm, here, Bool.and_eq_true, List.all_eq_true, decide_eq_true_eq, Bool.not_eq_true'] at allowed
      exact kept.put past allowed.1 allowed.2
    | timing enough =>
      cases answered
      refine kept.goesOn (by simp) (List.forall_mem_append.mpr ⟨kept.timers, ?_⟩) .done kept.stored kept.fresh
      exact List.forall_mem_singleton.mpr enough

end Kept

section Found
variable [Store V] {pool : Threads V} {key : String} {e : Stored V} {size : Nat}
  {positive : 0 < size}

omit [Store V] in
/-- A lookup that finds an entry, and looks at the clock before it expires, returns its value. -/
theorem get_returns {now : Int} (intime : now ≤ e.expireTime) :
    Traces (fun _ => True) (get key : Call V (Option V)) [⟨.get key, some e⟩, ⟨.now, now⟩]
      (.done (some e.value)) := by
  have returned : (if e.expireTime < now then .call (.remove key) fun _ => .done none
    else .done (some e.value)) =
      (.done (some e.value) : Call V (Option V)) := if_neg (Int.not_lt.mpr intime)
  refine .call (t := ()) trivial (.call (t := ()) trivial ?_)
  exact returned ▸ .refl

/-- As long as keys are added only in calm, every lookup finds the last entry of its key until it
expires, unless it has been dropped to make room. -/
theorem live_entry_found
    (reached : Transition.Reaches (machine V).step (fun choice pool =>
      calm choice pool = true) { shared := .new size positive } pool)
    (added : live pool.log key = some e) (fresh : pool.shared.clock < e.expireTime) :
    (serve (.get key) pool.shared).1 = some e ∧ ∀ now ≤ e.expireTime,
      Traces (fun _ => True) (get key : Call V (Option V)) [⟨.get key, some e⟩, ⟨.now, now⟩]
      (.done (some e.value)) := by
  have initial : Kept { shared := (.new size positive : State V) } :=
    ⟨nofun, nofun, by simp [State.new], nofun⟩
  have kept : Kept pool := reached.invariant initial fun _ _ _ kept allowed taken =>
    kept.step allowed (Machine.step_stepped taken)
  refine ⟨?_, fun now intime => get_returns intime⟩
  exact kept.fresh key e added fresh

/-- To evaluate runs with. -/
instance : Lru String (Stored Nat) := .recent

/-- One key is added, and another after it. -/
def twoKeys : List (Choice (Job Nat) Unit Move) :=
  [.spawn (.add "k" 1 10), .run 0 (), .run 0 (), .run 0 (), .move (.tick 5),
    .spawn (.add "l" 2 10), .run 1 (), .run 1 ()]

theorem live_entry_found_twoKeys : ∃ pool : Pool (State Nat) (Job Nat) Request.Answer (Option Nat),
    Transition.Reaches (machine Nat).step (fun choice pool => calm choice pool = true)
      { shared := .new 2 (by decide) } pool ∧
    live pool.log "k" = some ⟨1, 10⟩ ∧ pool.shared.clock = 5 ∧
      (serve (.get "k") pool.shared).1 = some ⟨1, 10⟩ := by
  have followed :
    (Transition.follow (machine Nat).step (fun choice pool => calm choice pool = true) twoKeys
      { shared := .new 2 (by decide) }).map (fun pool => (live pool.log "k", pool.shared.clock)) =
      some (some ⟨1, 10⟩, 5) := by decide +kernel
  obtain ⟨pool, followed, seen⟩ := Option.map_eq_some_iff.mp followed
  obtain ⟨added, clock⟩ := Prod.mk.inj seen
  have reached := Transition.follow_reaches followed
  exact ⟨pool, reached, added, clock, (live_entry_found reached added (by rw [clock]; decide)).1⟩

/-- A key is added again before the first timer fires. -/
def addedAgain : List (Choice (Job Nat) Unit Move) :=
  [.spawn (.add "k" 1 10), .run 0 (), .run 0 (), .run 0 (), .move (.tick 5),
   .spawn (.add "k" 2 10), .run 1 (), .run 1 (), .run 1 (), .move (.tick 5), .move (.fire 0)]

/-- A key is added again while a lookup is about to remove the entry that has expired. -/
def addedMeanwhile : List (Choice (Job Nat) Unit Move) :=
  [.spawn (.add "k" 1 10), .run 0 (), .run 0 (), .run 0 (), .move (.tick 11), .spawn (.get "k"),
   .run 1 (), .run 1 (), .spawn (.add "k" 2 10), .run 2 (), .run 2 (), .run 1 ()]

theorem live_entry_removed :
    (∃ pool, Transition.Reaches (machine Nat).step (fun _ _ => True) { shared := .new 2 (by decide) } pool ∧
      live pool.log "k" = some ⟨2, 15⟩ ∧ pool.shared.clock = 10 ∧ (serve (.get "k") pool.shared).1 = none) ∧
    ∃ pool, Transition.Reaches (machine Nat).step (fun _ _ => True) { shared := .new 2 (by decide) } pool ∧
      live pool.log "k" = some ⟨2, 21⟩ ∧ pool.shared.clock = 11 ∧ (serve (.get "k") pool.shared).1 = none := by
  constructor
  · have followed : (Transition.follow (machine Nat).step (fun _ _ => True) addedAgain
        { shared := .new 2 (by decide) }).map (fun pool => (live pool.log "k", pool.shared.clock,
          (serve (.get "k") pool.shared).1)) = some (some ⟨2, 15⟩, 10, none) := by decide +kernel
    obtain ⟨pool, followed, seen⟩ := Option.map_eq_some_iff.mp followed
    exact ⟨pool, Transition.follow_reaches followed, by simpa using seen⟩
  · have followed : (Transition.follow (machine Nat).step (fun _ _ => True) addedMeanwhile
        { shared := .new 2 (by decide) }).map (fun pool => (live pool.log "k", pool.shared.clock,
          (serve (.get "k") pool.shared).1)) = some (some ⟨2, 21⟩, 11, none) := by decide +kernel
    obtain ⟨pool, followed, seen⟩ := Option.map_eq_some_iff.mp followed
    exact ⟨pool, Transition.follow_reaches followed, by simpa using seen⟩

end Found
end Bouncer.Cache
