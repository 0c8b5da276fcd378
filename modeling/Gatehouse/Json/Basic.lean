import Gatehouse.Double

/-! # JSON values

The values of JSON, with numbers kept apart as integers of sixty-four bits and
doubles. An object is a list of fields in rising order of their keys, each key
once; `Json.ofFields` builds one from fields in any order, the last of equal
keys winning.
-/

namespace Gatehouse

/-- A JSON value. -/
inductive Json where
  | null
  | bool (value : Bool)
  | int (value : Int)
  | double (value : Double)
  | str (value : String)
  | arr (items : List Json)
  | obj (fields : List (String × Json))
  deriving Inhabited

namespace Json

mutual

/-- Equality of JSON values is decided by structure. -/
def decEq : (a b : Json) → Decidable (a = b)
  | .null, b => by cases b <;> first | exact isTrue rfl | exact isFalse nofun
  | .bool x, b => by
    cases b with
    | bool y =>
      exact if h : x = y then isTrue (h ▸ rfl) else isFalse fun e => h (Json.bool.inj e)
    | _ => exact isFalse nofun
  | .int x, b => by
    cases b with
    | int y => exact if h : x = y then isTrue (h ▸ rfl) else isFalse fun e => h (Json.int.inj e)
    | _ => exact isFalse nofun
  | .double x, b => by
    cases b with
    | double y =>
      exact if h : x = y then isTrue (h ▸ rfl) else isFalse fun e => h (Json.double.inj e)
    | _ => exact isFalse nofun
  | .str x, b => by
    cases b with
    | str y => exact if h : x = y then isTrue (h ▸ rfl) else isFalse fun e => h (Json.str.inj e)
    | _ => exact isFalse nofun
  | .arr x, b => by
    cases b with
    | arr y =>
      exact match decEqItems x y with
        | isTrue h => isTrue (h ▸ rfl)
        | isFalse h => isFalse fun e => h (Json.arr.inj e)
    | _ => exact isFalse nofun
  | .obj x, b => by
    cases b with
    | obj y =>
      exact match decEqFields x y with
        | isTrue h => isTrue (h ▸ rfl)
        | isFalse h => isFalse fun e => h (Json.obj.inj e)
    | _ => exact isFalse nofun

/-- Equality of arrays is decided item by item. -/
def decEqItems : (a b : List Json) → Decidable (a = b)
  | [], [] => isTrue rfl
  | [], _ :: _ => isFalse nofun
  | _ :: _, [] => isFalse nofun
  | x :: xs, y :: ys =>
    match decEq x y, decEqItems xs ys with
    | isTrue h, isTrue t => isTrue (h ▸ t ▸ rfl)
    | isFalse h, _ => isFalse fun e => h (List.cons.inj e).1
    | _, isFalse t => isFalse fun e => t (List.cons.inj e).2

/-- Equality of objects is decided field by field. -/
def decEqFields : (a b : List (String × Json)) → Decidable (a = b)
  | [], [] => isTrue rfl
  | [], _ :: _ => isFalse nofun
  | _ :: _, [] => isFalse nofun
  | (k, x) :: xs, (l, y) :: ys =>
    if hk : k = l then
      match decEq x y, decEqFields xs ys with
      | isTrue h, isTrue t => isTrue (hk ▸ h ▸ t ▸ rfl)
      | isFalse h, _ => isFalse fun e => h (Prod.mk.inj (List.cons.inj e).1).2
      | _, isFalse t => isFalse fun e => t (List.cons.inj e).2
    else isFalse fun e => hk (Prod.mk.inj (List.cons.inj e).1).1

end

instance : DecidableEq Json := decEq

/-- Puts a field into fields sorted by key, replacing the one with the same key. -/
def insertField (key : String) (value : Json) : List (String × Json) → List (String × Json)
  | [] => [(key, value)]
  | (k, v) :: rest =>
    if key = k then (key, value) :: rest
    else if key < k then (key, value) :: (k, v) :: rest
    else (k, v) :: insertField key value rest

/-- Sorts fields by key; of equal keys the last one stays. -/
def sortFields (fields : List (String × Json)) : List (String × Json) :=
  fields.foldl (fun sorted (k, v) => insertField k v sorted) []

/-- The object with the given fields. -/
def ofFields (fields : List (String × Json)) : Json :=
  .obj (sortFields fields)

/-- The text, or null when there is none. -/
def ofText? : Option String → Json
  | some s => .str s
  | none => .null

/-- A natural number. -/
def ofNat (n : Nat) : Json :=
  .int n

/-- An optional value, null when there is none. -/
def ofOption {α : Type} (encode : α → Json) : Option α → Json
  | some x => encode x
  | none => .null

/-- A field that is written only when there is a value for it. -/
def optionalField {α : Type} (key : String) (encode : α → Json) :
    Option α → List (String × Json)
  | some x => [(key, encode x)]
  | none => []

/-- The value under a key, when this is an object that has it. -/
def get? (j : Json) (key : String) : Option Json :=
  match j with
  | .obj fields => fields.lookup key
  | _ => none

/-- The text, when this is one. -/
def text? : Json → Option String
  | .str s => some s
  | _ => none

/-- The keys of an object in order; none for any other value. -/
def keys : Json → List String
  | .obj fields => fields.map Prod.fst
  | _ => []

end Json

end Gatehouse
