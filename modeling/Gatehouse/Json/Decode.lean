import Gatehouse.Json.Basic
import Gatehouse.Text.Quoted
import Gatehouse.Time.Timestamp

/-! # Decoding JSON values

Decoders take a JSON value to a value of a domain type or say which rule the
JSON value breaks. The heart is `Record`, the description of a structure by its
fields: one description reads a structure both from an object, where fields
come by name, and from an array, where they come by position. From an object,
the fields that are there are judged in key order before any field is missed.
-/

namespace Gatehouse

/-- Why a JSON value does not decode. -/
inductive DecodeError where
  | missingField (name : String)
  | wrongType (found : Json) (expected : String)
  | wrongValue (found : Json) (expected : String)
  | wrongLength (length : Nat) (expected : String)
  | unknownVariant (name : String) (known : List String)
  | badTimestamp (cause : TimestampError)
  deriving DecidableEq

namespace Json

/-- How a message refers to a value. -/
def describe : Json → String
  | .null => "null"
  | .bool b => "boolean `" ++ (if b then "true" else "false") ++ "`"
  | .int n => "integer `" ++ toString n ++ "`"
  | .double x => "floating point `" ++ x.text ++ "`"
  | .str s => "string " ++ Text.quoted s
  | .arr _ => "sequence"
  | .obj _ => "map"

end Json

namespace DecodeError

/-- Names between backticks, as alternatives. -/
def oneOf : List String → String
  | [] => "there are no variants"
  | [a] => "expected `" ++ a ++ "`"
  | [a, b] => "expected `" ++ a ++ "` or `" ++ b ++ "`"
  | names => "expected one of " ++ String.intercalate ", " (names.map fun n => "`" ++ n ++ "`")

/-- The wording of a decoding error. -/
def message : DecodeError → String
  | .missingField name => "missing field `" ++ name ++ "`"
  | .wrongType found expected => "invalid type: " ++ found.describe ++ ", expected " ++ expected
  | .wrongValue found expected => "invalid value: " ++ found.describe ++ ", expected " ++ expected
  | .wrongLength length expected =>
    "invalid length " ++ toString length ++ ", expected " ++ expected
  | .unknownVariant name known => "unknown variant `" ++ name ++ "`, " ++ oneOf known
  | .badTimestamp cause => cause.message

end DecodeError

/-- A decoder: the value that a JSON value stands for, or what is wrong with it. -/
abbrev Decoder (α : Type) := Json → Except DecodeError α

/-- Whether a structure is decoded from the value as it came, or from a part that was set aside
while a choice among structures was still open. The two differ in how they treat surplus. -/
inductive Reading where
  | direct
  | setAside
  deriving DecidableEq

namespace Decoder

/-- A text. -/
def text : Decoder String
  | .str s => .ok s
  | j => .error (.wrongType j "a string")

/-- A truth value. -/
def boolean : Decoder Bool
  | .bool b => .ok b
  | j => .error (.wrongType j "a boolean")

/-- A natural number below a limit, under the name of its type. -/
def natural (limit : Nat) (name : String) : Decoder Nat
  | .int n => if 0 ≤ n ∧ n < limit then .ok n.toNat else .error (.wrongValue (.int n) name)
  | j => .error (.wrongType j name)

/-- A number of thirty-two bits. -/
def word32 : Decoder Nat :=
  natural (pow2 32) "u32"

/-- A count. -/
def count : Decoder Nat :=
  natural (pow2 64) "usize"

/-- Any value as it is. -/
def value : Decoder Json :=
  .ok

/-- The fields of an object as they are. -/
def fields : Decoder (List (String × Json))
  | .obj fields => .ok fields
  | j => .error (.wrongType j "a map")

/-- A list of texts. -/
def texts : Decoder (List String)
  | .arr items => items.mapM text
  | j => .error (.wrongType j "a sequence")

/-- A timestamp. -/
def moment : Decoder Moment
  | .str s => (Timestamp.parse s).mapError .badTimestamp
  | j => .error (.wrongType j "an RFC 3339 formatted date and time string")

/-- A value or null. -/
def nullable {α : Type} (decode : Decoder α) : Decoder (Option α)
  | .null => .ok none
  | j => (decode j).map some

/-- One of a list of named values, written as its name, or as an object whose only key is the name
and whose value is empty. -/
def variant {α : Type} (known : List (String × α)) (reading : Reading) : Decoder α
  | .str s => find s
  | .obj [(name, content)] => do
    let x ← find name
    match content, reading with
    | .null, _ => .ok x
    | .obj [], .setAside => .ok x
    | _, _ => .error (.wrongType content "unit")
  | .obj fields => .error (.wrongValue (.obj fields) "map with a single key")
  | j => .error (.wrongType j "string or map")
where
  find (name : String) : Except DecodeError α :=
    match known.lookup name with
    | some x => .ok x
    | none => .error (.unknownVariant name (known.map Prod.fst))

end Decoder

/-- The description of a structure by its fields in order. -/
structure Record (α : Type) where
  /-- The number of fields. -/
  count : Nat
  /-- Judges the value of a key; keys of no field are let through. -/
  check : String → Json → Except DecodeError Unit
  /-- Builds the structure from the fields of an object. -/
  ofFields : List (String × Json) → Except DecodeError α
  /-- Builds the structure from the items of an array, from a position on; the text says what the
  whole array should have been. -/
  ofItems : String → Nat → List Json → Except DecodeError (α × List Json)

namespace Record

/-- A structure without fields. -/
def pure {α : Type} (x : α) : Record α where
  count := 0
  check _ _ := .ok ()
  ofFields _ := .ok x
  ofItems _ _ items := .ok (x, items)

/-- The fields of one structure and then those of another, put together. -/
def seq {α β : Type} (r : Record (α → β)) (s : Record α) : Record β where
  count := r.count + s.count
  check key value := do
    r.check key value
    s.check key value
  ofFields fields := do
    let f ← r.ofFields fields
    let x ← s.ofFields fields
    .ok (f x)
  ofItems whole position items := do
    let (f, items) ← r.ofItems whole position items
    let (x, items) ← s.ofItems whole (position + r.count) items
    .ok (f x, items)

instance : Pure Record := ⟨pure⟩
instance : Seq Record := ⟨fun r s => seq r (s ())⟩
instance : Functor Record where
  map f r := seq (pure f) r

/-- A single field, with what it means when an object lacks it and when an array ends before it. -/
def single {α : Type} (name : String) (decode : Decoder α) (absent short : Option α) :
    Record α where
  count := 1
  check key value := if key = name then (decode value).map fun _ => () else .ok ()
  ofFields fields :=
    match fields.lookup name, absent with
    | some value, _ => decode value
    | none, some x => .ok x
    | none, none => .error (.missingField name)
  ofItems whole position items :=
    match items, short with
    | value :: rest, _ => do .ok (← decode value, rest)
    | [], some x => .ok (x, [])
    | [], none => .error (.wrongLength position whole)

/-- A field that has to be there. -/
def field {α : Type} (name : String) (decode : Decoder α) : Record α :=
  single name decode none none

/-- A field that may be null, and that an object may lack. -/
def optional {α : Type} (name : String) (decode : Decoder α) : Record (Option α) :=
  single name (.nullable decode) (some none) none

/-- A field with a value of its own for when it is not given. -/
def defaulted {α : Type} (name : String) (decode : Decoder α) (default : α) : Record α :=
  single name decode (some default) (some default)

/-- A number of things. -/
def counted (n : Nat) : String :=
  if n = 1 then "1 element" else toString n ++ " elements"

/-- Decodes a structure that messages call `name`. -/
def decode {α : Type} (r : Record α) (name : String) (reading : Reading) : Decoder α
  | .obj fields => do
    fields.forM fun (key, value) => r.check key value
    r.ofFields fields
  | .arr items => do
    let (x, rest) ← r.ofItems (name ++ " with " ++ counted r.count) 0 items
    if rest.isEmpty then .ok x
    else
      match reading with
      | .direct => .error (.wrongLength items.length "fewer elements in array")
      | .setAside => .error (.wrongLength items.length (counted r.count ++ " in sequence"))
  | j => .error (.wrongType j name)

end Record

end Gatehouse
