import AsmDiagnostics.Agenda
import AsmDiagnostics.Keyed

/-!
# Debouncing

An event for a key is held back for a window of time and delivered only if no newer event for that
key has come meanwhile. Each event starts a timer with a generation of its own; a timer that wakes
up delivers its event only if its generation is still the one pending for the key, so timers that
were replaced or cancelled may wake up at any time without effect.

`Debouncer` is that bookkeeping alone. `DebounceClock` adds a clock that moves in steps and the
timers that sleep on it.
-/

namespace AsmDiagnostics

structure PendingEvent (κ π : Type) where
  key : κ
  generation : Nat
  payload : π
  deriving DecidableEq, Repr

/-- The events that are held back, at most one for each key. -/
structure Debouncer (κ π : Type) where
  lastGeneration : Nat
  pending : List (PendingEvent κ π)
  deriving DecidableEq, Repr

namespace Debouncer

variable {κ π : Type} [DecidableEq κ]

def empty : Debouncer κ π := ⟨0, []⟩

def find? (d : Debouncer κ π) (key : κ) : Option (PendingEvent κ π) :=
  Keyed.find? PendingEvent.key key d.pending

def nextGeneration (d : Debouncer κ π) : Nat := d.lastGeneration + 1

/-- Holds an event back, in the place of one with the same key. -/
def schedule (d : Debouncer κ π) (key : κ) (payload : π) : Debouncer κ π :=
  ⟨d.nextGeneration, Keyed.put PendingEvent.key ⟨key, d.nextGeneration, payload⟩ d.pending⟩

def isPending (d : Debouncer κ π) (key : κ) : Bool := (d.find? key).isSome

def cancel (d : Debouncer κ π) (key : κ) : Debouncer κ π :=
  { d with pending := Keyed.without PendingEvent.key key d.pending }

def cancelAll (d : Debouncer κ π) : Debouncer κ π := { d with pending := [] }

/-- The payload that a timer delivers when it wakes up. -/
def due? (d : Debouncer κ π) (key : κ) (generation : Nat) : Option π :=
  match d.find? key with
  | some event => if event.generation = generation then some event.payload else none
  | none => none

/-- A timer wakes up: an event that it delivers is no longer pending. -/
def wake (d : Debouncer κ π) (key : κ) (generation : Nat) : Debouncer κ π :=
  if (d.due? key generation).isSome then d.cancel key else d

def pendingCount (d : Debouncer κ π) : Nat := d.pending.length

omit [DecidableEq κ] in
theorem cancelAll_pending (d : Debouncer κ π) : d.cancelAll.pending = [] := rfl

theorem wake_of_stale {d : Debouncer κ π} {key : κ} {generation : Nat}
    (h : d.due? key generation = none) : d.wake key generation = d := by
  simp [wake, h]

end Debouncer

structure Sleeper (κ : Type) where
  key : κ
  generation : Nat
  deriving DecidableEq, Repr

structure Delivery (κ π : Type) where
  key : κ
  payload : π
  time : Nat
  deriving DecidableEq, Repr

/-- What is done with a debouncer, and time that passes. -/
inductive DebounceStep (κ π : Type) where
  | schedule (key : κ) (payload : π)
  | cancel (key : κ)
  | cancelAll
  /-- The debouncer is given up. -/
  | drop
  | advance (millis : Nat)
  deriving DecidableEq, Repr

structure DebounceClock (κ π : Type) where
  window : Nat
  now : Nat
  debouncer : Debouncer κ π
  sleepers : Agenda (Sleeper κ)

/-- What comes of a step: whether there was something to cancel, what was delivered, and the clock
after it. -/
structure DebounceTurn (κ π : Type) where
  cancelled? : Option Bool
  deliveries : List (Delivery κ π)
  clock : DebounceClock κ π

namespace DebounceClock

variable {κ π : Type} [DecidableEq κ]

def start (window : Nat) : DebounceClock κ π := ⟨window, 0, Debouncer.empty, []⟩

/-- Holds an event back for the window. -/
def schedule (c : DebounceClock κ π) (key : κ) (payload : π) : DebounceClock κ π :=
  { c with
    debouncer := c.debouncer.schedule key payload
    sleepers := c.sleepers.add (Agenda.after c.now c.window) ⟨key, c.debouncer.nextGeneration⟩ }

def cancel (c : DebounceClock κ π) (key : κ) : DebounceClock κ π :=
  { c with debouncer := c.debouncer.cancel key }

def cancelAll (c : DebounceClock κ π) : DebounceClock κ π :=
  { c with debouncer := c.debouncer.cancelAll }

/-- The debouncer is given up, and all its events are dropped. Only time passes after that. -/
def drop (c : DebounceClock κ π) : DebounceClock κ π :=
  { c with debouncer := c.debouncer.cancelAll }

def wakeAll (time : Nat) :
    Debouncer κ π → Agenda (Sleeper κ) → List (Delivery κ π) × Debouncer κ π × Agenda (Sleeper κ)
  | d, [] => ([], d, [])
  | d, first :: rest =>
      if first.due ≤ time then
        let woken := d.wake first.action.key first.action.generation
        let others := wakeAll time woken rest
        match d.due? first.action.key first.action.generation with
        | some payload => (⟨first.action.key, payload, first.due⟩ :: others.1, others.2)
        | none => others
      else ([], d, first :: rest)

def advance (c : DebounceClock κ π) (millis : Nat) : List (Delivery κ π) × DebounceClock κ π :=
  let time := Agenda.after c.now millis
  let result := wakeAll time c.debouncer c.sleepers
  (result.1, { c with now := time, debouncer := result.2.1, sleepers := result.2.2 })

/-- Takes a step. A timer that is due at once wakes up before the next one. -/
def take (c : DebounceClock κ π) : DebounceStep κ π → DebounceTurn κ π
  | .schedule key payload =>
      let (deliveries, next) := (c.schedule key payload).advance 0
      ⟨none, deliveries, next⟩
  | .cancel key => ⟨some (c.debouncer.isPending key), [], c.cancel key⟩
  | .cancelAll => ⟨none, [], c.cancelAll⟩
  | .drop => ⟨none, [], c.drop⟩
  | .advance millis =>
      let (deliveries, next) := c.advance millis
      ⟨none, deliveries, next⟩

def play (c : DebounceClock κ π) :
    List (DebounceStep κ π) → List (Delivery κ π) × DebounceClock κ π
  | [] => ([], c)
  | step :: later =>
      let turn := c.take step
      let (deliveries, last) := turn.clock.play later
      (turn.deliveries ++ deliveries, last)

end DebounceClock

end AsmDiagnostics
