import Nodelet.Go.Lru
import Nodelet.Go.Threads

/-! The cache of the authenticator, in which each entry has a time to expire. Only the operations on
the cache below are atomic; a timer removes what is stored under its key when it fires. -/
namespace Bouncer
open Go (Lru)

structure Stored (V : Type) where
  value : V
  expireTime : Int
  deriving DecidableEq, Repr

/-- A cache of such entries. -/
abbrev Store (V : Type) := Lru String (Stored V)

namespace Cache

/-- The operations on the cache below, and on the clock. -/
inductive Request (V : Type) where
  | now
  | get (key : String)
  | add (key : String) (entry : Stored V)
  | remove (key : String)
  /-- Remove the key after some time. -/
  | afterFunc (ttl : Int) (key : String)

@[reducible] def Request.Answer {V : Type} : Request V → Type
  | .now => Int
  | .get _ => Option (Stored V)
  | _ => Unit

variable {V : Type}

abbrev Call (V : Type) := Go.Resumption (Request V) Request.Answer

def ask (request : Request V) : Call V request.Answer := Go.Resumption.perform request

def add (key : String) (value : V) (ttl : Int) : Call V Unit := do
  let now ← ask .now
  ask (.add key ⟨value, now + ttl⟩)
  ask (.afterFunc ttl key)

/-- An entry that has expired is removed by its key. -/
def get (key : String) : Call V (Option V) := do
  match ← ask (.get key) with
  | none => return none
  | some entry =>
    let now ← ask .now
    if entry.expireTime < now then
      ask (.remove key)
      return none
    else return some entry.value

structure Timer where
  deadline : Int
  key : String
  deriving DecidableEq, Repr

section State
variable [Store V]

structure State (V : Type) [Store V] where
  clock : Int := 0
  lru : Lru.Cache String (Stored V)
  timers : List Timer := []

def State.new (size : Nat) (positive : 0 < size) : State V := { lru := Lru.new size positive }

def newLRUExpireCache (size : Int) : Except Go.Error (State V) :=
  if positive : 0 < size then .ok (.new size.toNat (by omega))
    else .error (Lru.refusal String (Stored V))

def serve : (request : Request V) → State V → request.Answer × State V
  | .now, s => (s.clock, s)
  | .get key, s => (Lru.lookup s.lru key, { s with lru := Lru.get s.lru key })
  | .add key entry, s => ((), { s with lru := Lru.add s.lru key entry })
  | .remove key, s => ((), { s with lru := Lru.remove s.lru key })
  | .afterFunc ttl key, s => ((), { s with timers := s.timers ++ [⟨s.clock + ttl, key⟩] })

inductive Move where
  | tick (elapsed : Nat)
  | fire (timer : Nat)
  deriving DecidableEq, Repr

/-- Time passes, and a timer fires some time after its deadline. -/
def move : Move → State V → Option (State V)
  | .tick elapsed, s => some { s with clock := s.clock + elapsed }
  | .fire i, s => do
    let timer ← s.timers[i]?
    if timer.deadline ≤ s.clock then
      return { s with lru := Lru.remove s.lru timer.key, timers := s.timers.eraseIdx i }
    else none

theorem move_cases {choice : Move} {s t : State V} (moved : move choice s = some t) :
    (∃ elapsed : Nat, t = { s with clock := s.clock + elapsed }) ∨
    ∃ i timer, s.timers[i]? = some timer ∧ timer.deadline ≤ s.clock ∧
      t = { s with lru := Lru.remove s.lru timer.key, timers := s.timers.eraseIdx i } := by
  cases choice with
  | tick elapsed =>
    cases moved
    exact .inl ⟨elapsed, rfl⟩
  | fire i =>
    obtain ⟨timer, here, moved⟩ := Option.bind_eq_some_iff.mp moved
    split at moved
    · rename_i due
      cases moved
      exact .inr ⟨i, timer, here, due, rfl⟩
    · contradiction

end State

end Cache
end Bouncer
