import Gatehouse.Json.Basic
import Gatehouse.Time.Timestamp

/-! # Generated names in answers

Answers of two runs differ in the identifiers, tokens and clock readings that
the runs generated. Relabelling replaces them by what they have in common:
identifiers and tokens by their number in the order of first appearance, times
near the clock by their distance from it. The fields of an object are walked in
their order, so equal answers get equal labels.
-/

namespace Gatehouse.Simulation

/-- The generated names met so far, each once, in the order of first appearance. -/
structure Labels where
  ids : List String
  tokens : List String
  deriving DecidableEq

namespace Labels

/-- The labels before anything was met. -/
def none : Labels := ⟨[], []⟩

/-- The place of a name among those met, and the names met with it. -/
def placeIn (met : List String) (name : String) : Nat × List String :=
  match met.findIdx? (· = name) with
  | some i => (i, met)
  | .none => (met.length, met ++ [name])

/-- The number of an identifier, counted from one. -/
def numberOfId (labels : Labels) (id : String) : Nat × Labels :=
  let (i, ids) := placeIn labels.ids id
  (i + 1, { labels with ids := ids })

/-- The number of a token, counted from zero. -/
def numberOfToken (labels : Labels) (token : String) : Nat × Labels :=
  let (i, tokens) := placeIn labels.tokens token
  (i, { labels with tokens := tokens })

end Labels

/-- How far a moment is from the clock, in whole seconds, when it is within a hundred days. -/
def nearby? (clock t : Moment) : Option String :=
  let distance := (t.since clock).nanos
  let seconds := (distance.natAbs + 500000000) / 1000000000
  if 100 * 86400 * 1000000000 < distance.natAbs then none
  else if seconds = 0 then some "now"
  else some ("now" ++ (if distance < 0 then "-" else "+") ++ toString seconds ++ "s")

/-- The keys under which times stand. -/
def timeKeys : List String := [
  "created_at", "updated_at", "occurred_at", "first_seen_at", "last_heartbeat", "cooldown_until",
  "isolated_at", "expires_at"]

/-- A digit of a generated name. -/
def isNameDigit (c : Char) : Bool :=
  c.isDigit || ('a' ≤ c && c ≤ 'f')

/-- The number of characters of an identifier. -/
def idLength : Nat := 36

/-- Characters that make up an identifier of version 4. -/
def isIdentifier (cs : List Char) : Bool :=
  cs.length == idLength && cs.zipIdx.all fun (c, i) =>
    if i ∈ [8, 13, 18, 23] then c = '-'
    else if i = 14 then c = '4'
    else if i = 19 then "89ab".toList.contains c
    else isNameDigit c

/-- A token as the gateway issues it. -/
def isToken (s : String) : Bool :=
  s.length == 64 && s.toList.all isNameDigit

namespace Relabel

/-- Replaces the identifiers in a text. -/
def chars (labels : Labels) : List Char → List Char × Labels
  | [] => ([], labels)
  | c :: rest =>
    let found := (c :: rest).take idLength
    if isIdentifier found then
      let (n, labels) := labels.numberOfId (String.ofList found)
      let (after, labels) := chars labels ((c :: rest).drop idLength)
      ('#' :: (toString n).toList ++ after, labels)
    else
      let (after, labels) := chars labels rest
      (c :: after, labels)
termination_by cs => cs.length
decreasing_by all_goals simp [idLength]; try omega

/-- Replaces what is generated in the text under a key. -/
def text (clock : Moment) (labels : Labels) (key s : String) : String × Labels :=
  if timeKeys.contains key then
    match Timestamp.parse s with
    | .ok t => ((nearby? clock t).getD s, labels)
    | .error _ => (s, labels)
  else if key = "commit_token" ∧ isToken s then
    let (n, labels) := labels.numberOfToken s
    ("token:" ++ toString n, labels)
  else
    let (cs, labels) := chars labels s.toList
    (String.ofList cs, labels)

mutual

/-- Replaces what is generated in the value under a key. -/
def value (clock : Moment) (labels : Labels) (key : String) : Json → Json × Labels
  | .str s =>
    let (s, labels) := text clock labels key s
    (.str s, labels)
  | .arr xs =>
    let (xs, labels) := items clock labels xs
    (.arr xs, labels)
  | .obj fs =>
    let (fs, labels) := fields clock labels fs
    (.obj fs, labels)
  | .null => (.null, labels)
  | .bool b => (.bool b, labels)
  | .int n => (.int n, labels)
  | .double x => (.double x, labels)

/-- Replaces what is generated in the items of an array. -/
def items (clock : Moment) (labels : Labels) : List Json → List Json × Labels
  | [] => ([], labels)
  | x :: rest =>
    let (x, labels) := value clock labels "" x
    let (rest, labels) := items clock labels rest
    (x :: rest, labels)

/-- Replaces what is generated in the fields of an object. -/
def fields (clock : Moment) (labels : Labels) :
    List (String × Json) → List (String × Json) × Labels
  | [] => ([], labels)
  | (key, x) :: rest =>
    let (x, labels) := value clock labels key x
    let (rest, labels) := fields clock labels rest
    ((key, x) :: rest, labels)

end

end Relabel

/-- Replaces what is generated in an answer; the clock shows the end of the run. -/
def relabelled (clock : Moment) (answer : Json) : Json :=
  (Relabel.value clock .none "" answer).1

end Gatehouse.Simulation
