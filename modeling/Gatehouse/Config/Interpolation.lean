import Gatehouse.Config.Error
import Gatehouse.Environment

/-! # Interpolation

References to environment variables in a text, written with a dollar sign and
the name in braces. A text is a row of parts: characters that stand for
themselves and references. A name runs to the first closing brace; the value of
the variable takes the place of the reference and is not looked at again. The
first part from the left that cannot be filled in decides the error.
-/

namespace Gatehouse.Interpolation

/-- A part of a text. -/
inductive Part where
  /-- A character that stands for itself. -/
  | plain (char : Char)
  /-- A reference to a variable. -/
  | reference (name : String)
  /-- The beginning of a reference that is never closed; no part follows it. -/
  | unclosed
  deriving DecidableEq

/-- The name at the front, up to the first closing brace, and what follows that brace. -/
def splitName (cs : List Char) : Option (List Char × List Char) :=
  match cs.dropWhile (· ≠ '\x7d') with
  | [] => none
  | _ :: rest => some (cs.takeWhile (· ≠ '\x7d'), rest)

theorem length_of_splitName {cs name rest : List Char} (h : splitName cs = some (name, rest)) :
    rest.length < cs.length := by
  unfold splitName at h
  split at h
  · cases h
  · rename_i c tail hd
    simp only [Option.some.injEq, Prod.mk.injEq] at h
    have := (List.dropWhile_sublist (l := cs) (decide <| · ≠ '\x7d')).length_le
    rw [← h.2]
    simp only [hd, List.length_cons] at this
    omega

/-- Cuts a text into its parts. -/
def parts (cs : List Char) : List Part :=
  match cs with
  | [] => []
  | '$' :: '\x7b' :: rest =>
    match _found : splitName rest with
    | none => [.unclosed]
    | some (name, after) => .reference (String.ofList name) :: parts after
  | c :: rest => .plain c :: parts rest
termination_by cs.length
decreasing_by
  · have := length_of_splitName ‹_›
    simp only [List.length_cons]
    omega
  · simp

/-- What a part stands for. -/
def Part.value (env : Environment) : Part → Except InterpolationError (List Char)
  | .plain c => .ok [c]
  | .reference name =>
    match env.get? name with
    | some value => .ok value.toList
    | none => .error (.missing name)
  | .unclosed => .error .unterminated

/-- Fills in the references of a text. -/
def interpolate (env : Environment) (s : String) : Except InterpolationError String :=
  ((parts s.toList).mapM (Part.value env)).map fun values => String.ofList values.flatten

/-- The variables that a text refers to. -/
def references (s : String) : List String :=
  (parts s.toList).filterMap fun
    | .reference name => some name
    | .plain _ | .unclosed => none

end Gatehouse.Interpolation
