import Gatehouse.Fault

/-! # Scripted collaborators

A collaborator that behaves by a list: each call takes the next behaviour, the
last one repeats, and a collaborator without any gives back what it was handed.
A behaviour may begin with a wait.
-/

namespace Gatehouse.Simulation

/-- What a collaborator does in the end. -/
inductive Action where
  | breaksDown
  | fails (fault : Fault)
  | answers (value : Json)
  | echoes
  deriving DecidableEq

/-- What a collaborator does when called, after so many milliseconds. -/
structure Behaviour where
  delayMillis : Nat
  action : Action
  deriving DecidableEq

/-- A list of behaviours and the number of calls so far. -/
structure Script where
  behaviours : List Behaviour
  calls : Nat
  deriving DecidableEq

namespace Script

/-- A script that nobody has called yet. -/
def new (behaviours : List Behaviour) : Script := ⟨behaviours, 0⟩

/-- What the next call does. -/
def behaviour (s : Script) : Behaviour :=
  match s.behaviours[s.calls]? with
  | some b => b
  | none => s.behaviours.getLast?.getD ⟨0, .echoes⟩

/-- Calls the collaborator. -/
def call (s : Script) : Behaviour × Script :=
  (s.behaviour, { s with calls := s.calls + 1 })

end Script

namespace Action

/-- The answer of a collaborator that was handed a value; none if it breaks down. -/
def answer (a : Action) (handed : Json) : Option (Except Fault Json) :=
  match a with
  | .breaksDown => none
  | .fails fault => some (.error fault)
  | .answers value => some (.ok value)
  | .echoes => some (.ok handed)

end Action

end Gatehouse.Simulation
