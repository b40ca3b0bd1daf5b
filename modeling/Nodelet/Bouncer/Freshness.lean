import Nodelet.Bouncer.Expiry
import Mathlib.Data.Finset.Card

/-! What the cache returns. Keys are overwritten, evicted and removed by timers that come late; a
value that is returned is the last one of its key, and has not expired. -/
namespace Bouncer.Cache
open Go (Lru Machine)
open Go.Machine (After)
open Go.Threads (Thread Occurrence Log Pool Choice)
variable {V : Type} [Store V]

/-- The job of each thread. -/
abbrev Jobs (V : Type) := Nat → Option (Job V)

def jobs (pool : Threads V) : Jobs V := fun i => pool.threads[i]?.map (·.job)

def Adds (key : String) (occurrence : Occurrence (State V) (Request.Answer (V := V))) : Prop :=
  match occurrence.event with
  | ⟨.add k _, _⟩ => k = key
  | _ => False

/-- The entry is the last one that was added for its key. Its value is the one to be added, and it
expires when the time to live is over that the clock showed to the one who added it. -/
def Latest (jobs : Jobs V) (key : String) (entry : Stored V) (log : History V) : Prop :=
  ∃ thread ttl read added earlier since, jobs thread = some (.add key entry.value ttl) ∧
    entry.expireTime = read.clock + ttl ∧ ⟨thread, read, ⟨.now, read.clock⟩⟩ ∈ earlier ∧
    log = earlier ++ ⟨thread, added, ⟨.add key entry, ()⟩⟩ :: since ∧
      ∀ occurrence ∈ since, ¬ Adds key occurrence

/-- A thread has looked, and found the last entry. -/
def Looked (jobs : Jobs V) (thread : Nat) (key : String) (entry : Stored V)
    (log : History V) : Prop :=
  ∃ looked, After (Latest jobs key entry) ⟨thread, looked, ⟨.get key, some entry⟩⟩ log

/-- After that, the clock has shown that it has not expired. -/
def Answered (jobs : Jobs V) (thread : Nat) (key : String) (entry : Stored V)
    (log : History V) : Prop :=
  ∃ checked, checked.clock ≤ entry.expireTime ∧
    After (Looked jobs thread key entry) ⟨thread, checked, ⟨.now, checked.clock⟩⟩ log

/-- Where a thread is, and what it has learned. -/
inductive Learned (jobs : Jobs V) (thread : Nat) (log : History V) :
    Job V → Call V (Option V) → Prop where
  | nothing : Learned jobs thread log job (.done none)
  | answered (answered : Answered jobs thread key entry log) :
    Learned jobs thread log (.get key) (.done (some entry.value))
  | looking : Learned jobs thread log (.get key) (.call (.get key) fun
      | none => .done none
      | some entry => .call .now fun now =>
        if entry.expireTime < now then .call (.remove key) fun _ => .done none else .done (some entry.value))
  | found (looked : Looked jobs thread key entry log) :
    Learned jobs thread log (.get key) (.call .now fun now =>
      if entry.expireTime < now then .call (.remove key) fun _ => .done none else .done (some entry.value))
  | removing : Learned jobs thread log (.get key) (.call (.remove key) fun _ => .done none)
  | adding : Learned jobs thread log (.add key value ttl) (.call .now fun now =>
      .call (.add key ⟨value, now + ttl⟩) fun _ => .call (.afterFunc ttl key) fun _ => .done none)
  | putting {read : State V} (before : ⟨thread, read, ⟨.now, read.clock⟩⟩ ∈ log) :
    Learned jobs thread log (.add key value ttl)
      (.call (.add key ⟨value, read.clock + ttl⟩) fun _ =>
      .call (.afterFunc ttl key) fun _ => .done none)
  | timing :
    Learned jobs thread log (.add key value ttl) (.call (.afterFunc ttl key) fun _ => .done none)

section Facts
variable {jobs more : Jobs V} {thread : Nat} {key : String} {entry : Stored V} {job : Job V}
  {rest : Call V (Option V)}
  {log extra : History V}

theorem Latest.mono (latest : Latest jobs key entry log)
    (known : ∀ i job, jobs i = some job → more i = some job) : Latest more key entry log := by
  obtain ⟨thread, ttl, read, added, earlier, since, job, rest⟩ := latest
  exact ⟨thread, ttl, read, added, earlier, since, known _ _ job, rest⟩

/-- The last entry of a key stays so until the key is added again. -/
theorem Latest.append (latest : Latest jobs key entry log)
    (other : ∀ occurrence ∈ extra, ¬ Adds key occurrence) :
    Latest jobs key entry (log ++ extra) := by
  obtain ⟨thread, ttl, read, added, earlier, since, job, expires, member, rfl, last⟩ := latest
  exact ⟨thread, ttl, read, added, earlier, since ++ extra, job, expires, member, by simp,
    List.forall_mem_append.mpr ⟨last, other⟩⟩

theorem Looked.mono (looked : Looked jobs thread key entry log)
    (known : ∀ i job, jobs i = some job → more i = some job) :
    Looked more thread key entry log := by
  obtain ⟨state, after⟩ := looked
  exact ⟨state, after.mono fun _ latest => latest.mono known⟩

theorem Learned.mono (learned : Learned jobs thread log job rest)
    (known : ∀ i job, jobs i = some job → more i = some job) :
    Learned more thread log job rest := by
  cases learned with
  | nothing => exact .nothing
  | answered answered =>
    obtain ⟨checked, fresh, after⟩ := answered
    exact .answered ⟨checked, fresh, after.mono fun _ looked => looked.mono known⟩
  | looking => exact .looking
  | found looked => exact .found (looked.mono known)
  | removing => exact .removing
  | adding => exact .adding
  | putting before => exact .putting before
  | timing => exact .timing

theorem Learned.append (learned : Learned jobs thread log job rest) (extra : History V) :
    Learned jobs thread (log ++ extra) job rest := by
  cases learned with
  | nothing => exact .nothing
  | answered answered =>
    obtain ⟨checked, fresh, after⟩ := answered
    exact .answered ⟨checked, fresh, Machine.lasting_after _ _ after⟩
  | looking => exact .looking
  | found looked =>
    obtain ⟨state, after⟩ := looked
    exact .found ⟨state, Machine.lasting_after _ _ after⟩
  | removing => exact .removing
  | adding => exact .adding
  | putting before => exact .putting (List.mem_append_left _ before)
  | timing => exact .timing

theorem Learned.start (job : Job V) : Learned jobs thread log job job.program := by
  cases job with
  | add key value ttl => exact .adding
  | get key => exact .looking

end Facts

/-- What the cache holds is the last entry of its key, and threads know no more than they have
learned. -/
structure Current (size : Nat) (pool : Threads V) : Prop where
  size : Lru.size pool.shared.lru = size
  stored : ∀ key entry, Lru.lookup pool.shared.lru key = some entry →
    Latest (jobs pool) key entry pool.log
  threads : ∀ i thread, pool.threads[i]? = some thread →
    Learned (jobs pool) i pool.log thread.job thread.rest

namespace Current
variable {size i : Nat} {pool next : Threads V} {choice : Choice (Job V) Unit Move} {job : Job V}
  {key : String} {shared : State V} {request : Request V}

theorem jobs_set {rest rest' : Call V (Option V)} {log : History V}
    (here : pool.threads[i]? = some ⟨job, rest⟩) :
    jobs { shared, threads := pool.threads.set i ⟨job, rest'⟩, log } = jobs pool := by
  funext j
  simp only [jobs, List.getElem?_set]
  grind

theorem moved {choice : Move} (current : Current size pool)
    (moves : move choice pool.shared = some shared) : Current size { pool with shared } := by
  obtain ⟨elapsed, rfl⟩ | ⟨i, timer, -, -, rfl⟩ := move_cases moves
  · exact ⟨current.size, current.stored, current.threads⟩
  · exact ⟨Lru.size_remove.trans current.size, fun key entry found =>
      current.stored key entry (Lru.lookup_of_lookup_remove found), current.threads⟩

theorem goesOn {continuation : request.Answer → Call V (Option V)}
    (current : Current size pool) (here : pool.threads[i]? = some ⟨job, .call request continuation⟩)
    (sized : Lru.size shared.lru = Lru.size pool.shared.lru)
    (stored : ∀ key entry, Lru.lookup shared.lru key = some entry →
      Latest (jobs pool) key entry (pool.log ++ [⟨i, pool.shared, ⟨request, answer⟩⟩]))
    (learned : Learned (jobs pool) i (pool.log ++ [⟨i, pool.shared, ⟨request, answer⟩⟩]) job (continuation answer)) :
    Current size { shared
                   threads := pool.threads.set i ⟨job, continuation answer⟩
                   log := pool.log ++ [⟨i, pool.shared, ⟨request, answer⟩⟩] } := by
  have same : jobs { shared
                     threads := pool.threads.set i ⟨job, continuation answer⟩
                     log := pool.log ++ [⟨i, pool.shared, ⟨request, answer⟩⟩] } = jobs pool := jobs_set here
  refine ⟨sized.trans current.size, by rwa [same], fun j thread there => ?_⟩
  rw [same]
  obtain ⟨rfl, rfl⟩ | ⟨-, there⟩ := Machine.getElem?_set_cases there
  · exact learned
  · exact (current.threads j thread there).append _

theorem quiet (current : Current size pool) (other : ∀ key entry, request ≠ .add key entry)
    {entry : Stored V} (found : Lru.lookup pool.shared.lru key = some entry) :
    Latest (jobs pool) key entry (pool.log ++ [⟨i, pool.shared, ⟨request, answer⟩⟩]) := by
  refine (current.stored key entry found).append (List.forall_mem_singleton.mpr ?_)
  cases request with
  | add key entry => exact absurd rfl (other key entry)
  | now | get _ | remove _ | afterFunc _ _ => exact id

/-- The entry that is put in place is the last one of its key, and the others stay so. -/
theorem put {ttl : Int} {read : State V} {rest : Call V (Option V)} {k : String} {entry : Stored V}
    (current : Current size pool) (here : pool.threads[i]? = some ⟨.add key value ttl, rest⟩)
    (before : ⟨i, read, ⟨.now, read.clock⟩⟩ ∈ pool.log)
    (found : Lru.lookup (Lru.add pool.shared.lru key ⟨value, read.clock + ttl⟩) k = some entry) :
    Latest (jobs pool) k entry
      (pool.log ++ [⟨i, pool.shared, ⟨.add key ⟨value, read.clock + ttl⟩, ()⟩⟩]) := by
  rw [Lru.lookup_add] at found
  split at found
  · rename_i same
    subst same
    cases found
    exact ⟨i, ttl, read, pool.shared, pool.log, [], by simp [jobs, here], rfl, before, rfl, by simp⟩
  · rename_i apart
    split at found
    · contradiction
    · exact (current.stored k entry found).append (List.forall_mem_singleton.mpr fun same => apart same.symm)

theorem step (current : Current size pool) (stepped : (machine V).Stepped choice pool next) :
    Current size next := by
  cases stepped with
  | spawned =>
    rename_i job
    have known : ∀ i job', jobs pool i = some job' →
        jobs { pool with threads := pool.threads ++ [⟨job, (machine V).program job⟩] } i = some job' := by
      intro i job' here
      obtain ⟨thread, there, rfl⟩ := Option.map_eq_some_iff.mp here
      have inside := (List.getElem?_eq_some_iff.mp there).1
      simp [jobs, List.getElem?_append_left inside, there]
    refine ⟨current.size, fun key entry found =>
      (current.stored key entry found).mono known, fun i thread here => ?_⟩
    obtain inside | ⟨rfl, rfl⟩ : pool.threads[i]? = some thread ∨
        i = pool.threads.length ∧ thread = ⟨job, (machine V).program job⟩ := by
      grind
    · exact (current.threads i thread inside).mono known
    · exact .start job
  | moved moves => exact current.moved moves
  | served here answered =>
    cases current.threads _ _ here with
    | looking =>
      cases answered
      refine current.goesOn here Lru.size_get (fun k e found => current.quiet (by simp) (by simpa using found)) ?_
      rename_i key
      cases found : Lru.lookup pool.shared.lru key with
      | none => exact .nothing
      | some entry => exact .found ⟨pool.shared, Machine.after_last (current.stored key entry found)⟩
    | found looked =>
      cases answered
      refine current.goesOn here rfl (fun k e found => current.quiet (by simp) found) ?_
      split
      · exact .removing
      · rename_i fresh
        exact .answered ⟨pool.shared, Int.not_lt.mp fresh, Machine.after_last looked⟩
    | removing =>
      cases answered
      exact current.goesOn here Lru.size_remove (fun k e found =>
        current.quiet (by simp) (Lru.lookup_of_lookup_remove found)) .nothing
    | adding =>
      cases answered
      exact current.goesOn here rfl (fun k e found => current.quiet (by simp) found) (.putting (by simp))
    | putting before =>
      cases answered
      refine current.goesOn here Lru.size_add (fun k e found => ?_) .timing
      exact current.put here before found
    | timing =>
      cases answered
      exact current.goesOn here rfl (fun k e found => current.quiet (by simp) found) .nothing

end Current

section Returned
variable {pool : Threads V} {initial : State V} {size : Int}

/-- In every interleaving, a lookup that returns a value returns the one that was added last, and in
time; and no more keys can be found than the cache was made for. -/
theorem get_returns_latest (created : newLRUExpireCache size = .ok initial)
    (reached : Transition.Reaches (machine V).step (fun _ _ => True) { shared := initial } pool) :
    (∀ i key value, pool.threads[i]? = some ⟨.get key, .done (some value)⟩ →
      ∃ entry, entry.value = value ∧ Answered (jobs pool) i key entry pool.log) ∧
    ∀ keys : Finset String, (∀ key ∈ keys, (serve (.get key) pool.shared).1 ≠ none) →
      (keys.card : Int) ≤ size := by
  unfold newLRUExpireCache at created
  split at created
  · rename_i positive
    cases created
    have current : Current size.toNat pool :=
      reached.invariant ⟨Lru.size_new, by simp [State.new], nofun⟩ fun _ _ _ current _ taken =>
      current.step (Machine.step_stepped taken)
    constructor
    · intro i key value here
      generalize same : (Go.Resumption.done (some value) : Call V (Option V)) = rest at here
      cases current.threads i _ here with
      | answered answered =>
        cases same
        exact ⟨_, rfl, answered⟩
      | _ => cases same
    · intro keys found
      have present : ∀ key ∈ keys, Lru.lookup pool.shared.lru key ≠ none := by simpa [serve] using found
      have bounded := Lru.card_le_size present
      rw [current.size] at bounded
      omega
  · contradiction

/-- A key is added, and looked up after a while. -/
def addedThenFound : List (Choice (Job Nat) Unit Move) :=
  [.spawn (.add "k" 1 10), .run 0 (), .run 0 (), .run 0 (), .move (.tick 5), .spawn (.get "k"),
    .run 1 (), .run 1 ()]

theorem get_returns_latest_added : ∃ pool : Threads Nat,
    Transition.Reaches (machine Nat).step (fun _ _ => True) { shared := .new 2 (by decide) } pool ∧
    pool.threads[1]? = some ⟨.get "k", .done (some 1)⟩ ∧
      (∃ entry, entry.value = 1 ∧ Answered (jobs pool) 1 "k" entry pool.log) ∧
    ∀ keys : Finset String, (∀ key ∈ keys, (serve (.get key) pool.shared).1 ≠ none) →
      (keys.card : Int) ≤ 2 := by
  have followed : (Transition.follow (machine Nat).step (fun _ _ => True) addedThenFound
      { shared := .new 2 (by decide) }).map (·.result 1) = some (some (.get "k", some 1)) := by decide +kernel
  obtain ⟨pool, followed, returned⟩ := Option.map_eq_some_iff.mp followed
  have reached := Transition.follow_reaches followed
  have finished := Pool.result_eq_some returned
  have created : newLRUExpireCache 2 = .ok (.new 2 (by decide) : State Nat) := rfl
  obtain ⟨latest, bounded⟩ := get_returns_latest created reached
  exact ⟨pool, reached, finished, latest 1 "k" 1 finished, bounded⟩

end Returned
end Bouncer.Cache
