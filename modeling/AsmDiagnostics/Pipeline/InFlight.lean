import AsmDiagnostics.Keyed
import AsmDiagnostics.Uri.Basic

/-!
# Runs in flight

Every run for a document begins with a generation of its own, greater than those of all runs before.
The generation that began last for a document is current until its run finishes or the document is
dropped; a run that is no longer current has been superseded.
-/

namespace AsmDiagnostics

/-- A document with a run in flight, and the generation that is current for it. -/
structure Flight where
  uri : Uri
  generation : Nat
  deriving DecidableEq, Repr

structure InFlight where
  lastGeneration : Nat
  flights : List Flight
  deriving DecidableEq, Repr

namespace InFlight

def empty : InFlight := ⟨0, []⟩

def current? (f : InFlight) (uri : Uri) : Option Nat :=
  (Keyed.find? Flight.uri uri f.flights).map Flight.generation

def isCurrent (f : InFlight) (uri : Uri) (generation : Nat) : Bool :=
  decide (f.current? uri = some generation)

def nextGeneration (f : InFlight) : Nat := f.lastGeneration + 1

/-- A run begins: its generation becomes the current one of the document. -/
def begin (f : InFlight) (uri : Uri) : InFlight :=
  ⟨f.nextGeneration, Keyed.put Flight.uri ⟨uri, f.nextGeneration⟩ f.flights⟩

def drop (f : InFlight) (uri : Uri) : InFlight :=
  { f with flights := Keyed.without Flight.uri uri f.flights }

def dropAll (f : InFlight) : InFlight := { f with flights := [] }

def finish (f : InFlight) (uri : Uri) (generation : Nat) : InFlight :=
  if f.isCurrent uri generation then f.drop uri else f

def count (f : InFlight) : Nat := f.flights.length

theorem current?_begin (f : InFlight) (uri other : Uri) :
    (f.begin uri).current? other =
      if other = uri then some f.nextGeneration else f.current? other := by
  unfold current? begin
  rw [Keyed.find?_put]
  split <;> rfl

theorem current?_drop (f : InFlight) (uri other : Uri) :
    (f.drop uri).current? other = if other = uri then none else f.current? other := by
  unfold current? drop
  rw [Keyed.find?_without]
  split <;> rfl

theorem current?_begin_self (f : InFlight) (uri : Uri) :
    (f.begin uri).current? uri = some f.nextGeneration := by
  rw [current?_begin, if_pos rfl]

theorem finish_of_superseded {f : InFlight} {uri : Uri} {generation : Nat}
    (h : f.isCurrent uri generation = false) : f.finish uri generation = f := by
  simp [finish, h]

end InFlight

end AsmDiagnostics
