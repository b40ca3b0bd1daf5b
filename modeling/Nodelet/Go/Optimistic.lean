import Nodelet.Go.Remote
import Nodelet.Go.Threads

/-! Updates of a value with a version. Each reads the value, computes from it what is to be written,
and writes it one after the other; a write that is not based on the latest version is rejected. In
every interleaving the value is what it would be if each update happened at once, in some order. -/
namespace Go.Optimistic
open Threads (Choice Pool Thread)
open Transition (Reaches)

structure Versioned (V : Type) where
  version : Nat
  value : V
  deriving DecidableEq, Repr

inductive Request (V : Type) where
  | read
  | write (base : Nat) (value : V)

def Request.Answer {V : Type} : Request V → Type
  | .read => Except Error (Versioned V)
  | .write _ _ => Except Error Unit

/-- How the store answers; what it has written may also get lost on the way. -/
inductive Reply where
  | answers
  | refuses (err : Error)
  | loses (err : Error)
  deriving DecidableEq, Repr

/-- What each job writes, from what it has read, and how it returns errors. -/
structure Jobs (V ι : Type) where
  writes : ι → V → List V
  readError : ι → Error → Error
  writeError : ι → Error → Error

variable {V ι : Type}

abbrev Program (V : Type) := Resumption (Request V) Request.Answer (Except Error Unit)

/-- One write after the other, until one fails. -/
def attempt (wrap : Error → Error) (base : Nat) : List V → Program V
  | [] => .done (.ok ())
  | value :: rest => .call (.write base value) fun (answer : Except Error Unit) =>
    match answer with
    | .ok () => attempt wrap base rest
    | .error err => .done (.error (wrap err))

def Jobs.program (jobs : Jobs V ι) (job : ι) : Program V :=
  .call .read fun (answer : Except Error (Versioned V)) =>
    match answer with
    | .ok s => attempt (jobs.writeError job) s.version (jobs.writes job s.value)
    | .error err => .done (.error (jobs.readError job err))

def conflict : Error :=
    "the object has been modified; please apply your changes to the latest version and try again"

def write (s : Versioned V) (base : Nat) (value : V) : Versioned V :=
  if base = s.version then ⟨s.version + 1, value⟩ else s

def accept (s : Versioned V) (base : Nat) : Except Error Unit := if base = s.version then .ok ()
    else .error conflict

def serve : Reply → (request : Request V) → Versioned V → Option (request.Answer × Versioned V)
  | .answers, .read, s => some (.ok s, s)
  | .refuses err, .read, s | .loses err, .read, s => some (.error err, s)
  | .answers, .write base value, s => some (accept s base, write s base value)
  | .refuses err, .write _ _, s => some (.error err, s)
  | .loses err, .write base value, s => some (.error err, write s base value)

/-- The jobs, among others that change the value as they like. -/
def Jobs.machine (jobs : Jobs V ι) :
    Machine (Versioned V) ι Reply (V → V) (Request.Answer (V := V)) (Except Error Unit) where
  program := jobs.program
  serve := serve
  move change s := some ⟨s.version + 1, change s.value⟩

/-- What happens at once: the first write of a job, if there is any, or a change by others. -/
inductive Effect (V ι : Type) where
  | update (thread : Nat) (job : ι)
  | move (change : V → V)

def Effect.thread : Effect V ι → Option Nat
  | .update thread _ => some thread
  | .move _ => none

def Jobs.apply (jobs : Jobs V ι) (value : V) : Effect V ι → V
  | .update _ job => (jobs.writes job value).head?.getD value
  | .move change => change value

/-- How far a job is, whose update has happened or has not. -/
inductive Stage (jobs : Jobs V ι) (job : ι) (shared : Versioned V) : Bool → Program V → Prop where
  | unread : Stage jobs job shared false (jobs.program job)
  | fresh {read : Versioned V} (writes : jobs.writes job read.value = first :: rest)
    (old : read.version ≤ shared.version)
      (same : read.version = shared.version → read.value = shared.value) :
      Stage jobs job shared false (attempt (jobs.writeError job) read.version (first :: rest))
  | stale (old : base < shared.version) :
    Stage jobs job shared true (attempt (jobs.writeError job) base rest)
  | ended : Stage jobs job shared true (.done (.ok ()))
  | failed : Stage jobs job shared happened (.done (.error err))

theorem Stage.later {job : ι} {shared after : Versioned V} {happened : Bool}
    (stage : Stage jobs job shared happened program) (moved : after = shared ∨
      shared.version < after.version) : Stage jobs job after happened program := by
  rcases moved with rfl | moved
  · exact stage
  · cases stage with
    | unread => exact .unread
    | fresh writes old same => exact .fresh writes (by omega) fun same => absurd same (by omega)
    | stale old => exact .stale (by omega)
    | ended => exact .ended
    | failed => exact .failed

variable {shared : Versioned V}

theorem Stage.happened_of_ok {job : ι} {happened : Bool}
    (stage : Stage jobs job shared happened (.done (.ok ()))) : happened = true := by
  generalize program : Resumption.done (Except.ok ()) = current at stage
  cases stage with
  | stale => rfl
  | ended => rfl
  | unread => contradiction
  | fresh => contradiction
  | failed => simp at program

/-- A write is an error and leaves the value, or it was based on the latest version. -/
theorem serve_write {base : Nat} {s t : Versioned V} {answer : Except Error Unit}
    (answered : serve reply (.write base value) s = some (answer, t)) :
    (∃ err, answer = .error err) ∧ t = s ∨ base = s.version ∧ t = ⟨s.version + 1, value⟩ := by
  by_cases latest : base = s.version
  · have written : write s base value = ⟨s.version + 1, value⟩ := if_pos latest
    cases reply with
    | refuses err =>
      cases answered
      exact .inl ⟨⟨err, rfl⟩, rfl⟩
    | answers | loses =>
      cases answered
      exact .inr ⟨latest, written⟩
  · have kept : write s base value = s := if_neg latest
    cases reply with
    | refuses err =>
      cases answered
      exact .inl ⟨⟨err, rfl⟩, rfl⟩
    | loses err =>
      cases answered
      exact .inl ⟨⟨err, rfl⟩, kept⟩
    | answers =>
      cases answered
      exact .inl ⟨⟨conflict, if_neg latest⟩, kept⟩

/-- The threads whose updates have happened. -/
def happened (effects : List (Effect V ι)) : List Nat := effects.filterMap Effect.thread

theorem mem_happened {effects : List (Effect V ι)} {i : Nat} :
    i ∈ happened effects ↔ ∃ job, .update i job ∈ effects := by
  simp only [happened, List.mem_filterMap]
  constructor
  · rintro ⟨effect, member, same⟩
    cases effect with
    | update thread job => exact ⟨job, Option.some.inj same ▸ member⟩
    | move => contradiction
  · rintro ⟨job, member⟩
    exact ⟨_, member, rfl⟩

@[simp]
theorem happened_update (effects : List (Effect V ι)) (i : Nat) (job : ι) :
    happened (effects ++ [.update i job]) = happened effects ++ [i] := by
  rw [happened, List.filterMap_append]
  rfl

@[simp]
theorem happened_move (effects : List (Effect V ι)) (change : V → V) :
    happened (effects ++ [.move change]) = happened effects := by
  rw [happened, List.filterMap_append]
  exact List.append_nil _

abbrev Store (V ι : Type) := Pool (Versioned V) ι (Request.Answer (V := V)) (Except Error Unit)

/-- The value is that of these effects, of which each thread has at most one. Others change it as
they are allowed to. -/
structure Serial (jobs : Jobs V ι) (allowed : (V → V) → Prop) (initial : V) (pool : Store V ι)
    (effects : List (Effect V ι)) : Prop where
  value : pool.shared.value = effects.foldl jobs.apply initial
  once : (happened effects).Nodup
  known : ∀ i job, .update i job ∈ effects → (pool.threads[i]?).map Thread.job = some job
  moves : ∀ change, .move change ∈ effects → allowed change
  stages : ∀ i thread, pool.threads[i]? = some thread →
    Stage jobs thread.job pool.shared (i ∈ happened effects) thread.rest

section Step
variable {jobs : Jobs V ι} {allowed : (V → V) → Prop} {initial : V} {pool next : Store V ι}
  {effects : List (Effect V ι)} {i : Nat} {job : ι}
  {rest rest' : Program V}

theorem map_job_set (here : pool.threads[i]? = some ⟨job, rest⟩) (j : Nat) :
    ((pool.threads.set i ⟨job, rest'⟩)[j]?).map Thread.job = (pool.threads[j]?).map Thread.job := by
  by_cases same : j = i
  · subst same
    rw [List.getElem?_set_self (List.getElem?_eq_some_iff.mp here).1, here, Option.map_some,
      Option.map_some]
  · rw [List.getElem?_set_ne (Ne.symm same)]

theorem Serial.keep (serial : Serial jobs allowed initial pool effects)
    (here : pool.threads[i]? = some ⟨job, rest⟩)
    (stage : Stage jobs job pool.shared (i ∈ happened effects) rest') (log) :
    Serial jobs allowed initial ⟨pool.shared, pool.threads.set i ⟨job, rest'⟩, log⟩ effects where
  value := serial.value
  once := serial.once
  known j other member := (map_job_set here j).trans (serial.known j other member)
  moves := serial.moves
  stages := by
    intro j thread found
    obtain ⟨rfl, rfl⟩ | ⟨-, found⟩ := Machine.getElem?_set_cases found
    · exact stage
    · exact serial.stages j thread found

theorem Serial.happen (serial : Serial jobs allowed initial pool effects)
    (here : pool.threads[i]? = some ⟨job, rest⟩) (new : i ∉ happened effects)
    (moved : shared = pool.shared ∨ pool.shared.version < shared.version)
    (value : shared.value = jobs.apply pool.shared.value (.update i job))
    (stage : Stage jobs job shared true rest') (log) :
    Serial jobs allowed initial ⟨shared, pool.threads.set i ⟨job, rest'⟩, log⟩
      (effects ++ [.update i job]) where
  value := by rw [List.foldl_append, ← serial.value, value, List.foldl_cons, List.foldl_nil]
  once := by
    rw [happened_update]
    exact List.nodup_append.mpr ⟨serial.once, by simp, by simpa using fun j member => ne_of_mem_of_not_mem member new⟩
  known := by
    intro j other member
    rw [map_job_set here j]
    rcases List.mem_append.mp member with earlier | last
    · exact serial.known j other earlier
    · cases List.mem_singleton.mp last
      rw [here, Option.map_some]
  moves change member := serial.moves change (by simpa using member)
  stages := by
    intro j thread found
    rw [happened_update]
    obtain ⟨rfl, rfl⟩ | ⟨other, found⟩ := Machine.getElem?_set_cases found
    · simpa using stage
    · simpa [other] using (serial.stages j thread found).later moved

theorem Serial.moved (serial : Serial jobs allowed initial pool effects) {change : V → V}
    (may : allowed change) :
    Serial jobs allowed initial
      { pool with shared := ⟨pool.shared.version + 1, change pool.shared.value⟩ }
      (effects ++ [.move change]) where
  value := by rw [List.foldl_append, ← serial.value, List.foldl_cons, List.foldl_nil, Jobs.apply]
  once := by rw [happened_move]; exact serial.once
  known j other member := serial.known j other (by simpa using member)
  moves := by
    intro other member
    rcases List.mem_append.mp member with earlier | last
    · exact serial.moves other earlier
    · cases List.mem_singleton.mp last
      exact may
  stages := by
    intro j thread found
    rw [happened_move]
    exact (serial.stages j thread found).later (.inr (Nat.lt_succ_self _))

theorem Serial.spawned (serial : Serial jobs allowed initial pool effects) (job : ι) :
    Serial jobs allowed initial { pool with threads := pool.threads ++ [⟨job, jobs.program job⟩] }
      effects where
  value := serial.value
  once := serial.once
  known := by
    intro j other member
    have found := serial.known j other member
    obtain ⟨thread, there, same⟩ := Option.map_eq_some_iff.mp found
    rw [List.getElem?_append_left (List.getElem?_eq_some_iff.mp there).1, found]
  moves := serial.moves
  stages := by
    intro j thread found
    rcases Nat.lt_trichotomy j pool.threads.length with inside | rfl | outside
    · rw [List.getElem?_append_left inside] at found
      exact serial.stages j thread found
    · obtain rfl : thread = ⟨job, jobs.program job⟩ := by simpa using found.symm
      have new : pool.threads.length ∉ happened effects := by
        intro member
        obtain ⟨other, member⟩ := mem_happened.mp member
        simpa using serial.known _ other member
      simpa [new] using Stage.unread
    · rw [List.getElem?_eq_none (by simp; omega)] at found
      contradiction

/-- What serving a thread does to its stage. -/
theorem Serial.served {continuation : request.Answer → Program V}
    (serial : Serial jobs allowed initial pool effects)
    (here : pool.threads[i]? = some ⟨job, .call request continuation⟩)
    (answered : serve reply request pool.shared = some (answer, shared)) (log) :
    ∃ more, Serial jobs allowed initial ⟨shared, pool.threads.set i ⟨job, continuation answer⟩,
      log⟩ (effects ++ more) := by
  have stage := serial.stages i _ here
  dsimp only at stage
  generalize before : decide (i ∈ happened effects) = already at stage
  generalize program : Resumption.call request continuation = current at stage
  have kept {rest' : Program V} (stage : Stage jobs job pool.shared (i ∈ happened effects) rest') :
    ∃ more,
      Serial jobs allowed initial ⟨pool.shared, pool.threads.set i ⟨job, rest'⟩, log⟩ (effects ++ more) :=
    ⟨[], (List.append_nil effects).symm ▸ serial.keep here stage log⟩
  cases stage with
  | ended => contradiction
  | failed => contradiction
  | unread =>
    unfold Jobs.program at program
    cases program
    cases reply with
    | refuses | loses =>
      cases answered
      exact kept .failed
    | answers =>
      cases answered
      dsimp only
      cases writes : jobs.writes job pool.shared.value with
      | nil =>
        refine ⟨[.update i job], serial.happen here (of_decide_eq_false before) (.inl rfl) ?_ .ended log⟩
        rw [Jobs.apply, writes]
        rfl
      | cons first rest =>
        refine kept ?_
        rw [before]
        exact .fresh writes (Nat.le_refl _) fun _ => rfl
  | @fresh first rest read writes old same =>
    unfold attempt at program
    cases program
    rcases serve_write answered with ⟨⟨err, rfl⟩, rfl⟩ | ⟨latest, rfl⟩
    · exact kept .failed
    · refine ⟨[.update i job], serial.happen here (of_decide_eq_false before) (.inr (Nat.lt_succ_self _)) ?_ ?_ log⟩
      · rw [Jobs.apply, ← same latest, writes]
        rfl
      · dsimp only
        split
        · exact .stale (latest ▸ Nat.lt_succ_self _)
        · exact .failed
  | @stale base rest old =>
    cases rest with
    | nil => contradiction
    | cons value rest =>
      unfold attempt at program
      cases program
      rcases serve_write answered with ⟨⟨err, rfl⟩, rfl⟩ | ⟨latest, -⟩
      · exact kept .failed
      · exact absurd latest (Nat.ne_of_lt old)

theorem Serial.step {choice : Choice ι Reply (V → V)}
    (serial : Serial jobs allowed initial pool effects)
    (may : ∀ change, choice = .move change → allowed change)
    (stepped : jobs.machine.Stepped choice pool next) :
    ∃ effects, Serial jobs allowed initial next effects := by
  cases stepped with
  | spawned => exact ⟨_, serial.spawned _⟩
  | moved moves =>
    cases moves
    exact ⟨_, serial.moved (may _ rfl)⟩
  | served here answered =>
    obtain ⟨more, serial⟩ := serial.served here answered _
    exact ⟨_, serial⟩

/-- Whatever the interleaving, the value is that of one update after the other: those of the threads
that have returned without an error, and some of those that have not. -/
theorem serializes (allowed : (V → V) → Prop) {s : Versioned V}
    {permitted : Choice ι Reply (V → V) → Store V ι → Prop}
    (may : ∀ change pool, permitted (.move change) pool → allowed change)
    (reached : Reaches jobs.machine.step permitted { shared := s } pool) : ∃ effects,
    Serial jobs allowed s.value pool effects ∧ ∀ i job, pool.result i = some (job, .ok ()) →
      .update i job ∈ effects := by
  have initially : Serial jobs allowed s.value { shared := s } [] :=
    ⟨rfl, .nil, by simp, by simp, by simp⟩
  have serial : ∃ effects, Serial jobs allowed s.value pool effects := by
    refine reached.invariant (P := fun pool => ∃ effects, Serial jobs allowed s.value pool effects)
      ⟨[], initially⟩ ?_
    rintro choice before _ ⟨_, serial⟩ permits taken
    refine serial.step ?_ (Machine.step_stepped taken)
    rintro change rfl
    exact may change before permits
  obtain ⟨effects, serial⟩ := serial
  refine ⟨effects, serial, fun i job returned => ?_⟩
  have found := Threads.Pool.result_eq_some returned
  obtain ⟨other, member⟩ :=
    mem_happened.mp (of_decide_eq_true (serial.stages i _ found).happened_of_ok)
  have same := serial.known i other member
  rw [found, Option.map_some] at same
  obtain rfl : job = other := Option.some.inj same
  exact member

end Step
end Go.Optimistic
