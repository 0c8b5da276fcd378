import Gatehouse.Toml.Value

/-! # The outline of a document

A document is put together line by line: headers open tables, keys fill the
table that is open. The outline knows of every table how it came to be, because
that decides what may still be said about it: a table that a longer header or a
dotted key merely passed through is implicit, one made by a dotted key is
dotted, and everything written as a value is closed.
-/

namespace Gatehouse.Toml

mutual

/-- What stands under a key. -/
inductive Node where
  | value (v : Toml)
  | branch (b : Branch)
  | branches (bs : List Branch)

/-- A table that may still grow. -/
inductive Branch where
  | mk (implicit dotted : Bool) (entries : List (String × Node))

end

namespace Branch

/-- The table was only passed through. -/
def implicit : Branch → Bool
  | .mk implicit _ _ => implicit

/-- The table was made by a dotted key. -/
def dotted : Branch → Bool
  | .mk _ dotted _ => dotted

/-- What the table holds. -/
def entries : Branch → List (String × Node)
  | .mk _ _ entries => entries

/-- A table that a header opened. -/
def opened : Branch := .mk false false []

/-- Puts something under a key: in its place if the key is there, otherwise at the end. -/
def put (b : Branch) (key : String) (node : Node) : Branch :=
  let entries :=
    if (b.entries.lookup key).isSome then
      b.entries.map fun e => if e.1 = key then (key, node) else e
    else b.entries ++ [(key, node)]
  .mk b.implicit b.dotted entries

/-- Drops what stands under a key. -/
def drop (b : Branch) (key : String) : Branch :=
  .mk b.implicit b.dotted (b.entries.filter fun e => e.1 ≠ key)

/-- Changes the table at the end of a path, making the tables on the way that are not there yet. A
dotted key must not enter a table that a header opened; an array of tables is entered at its last
table; a value cannot be entered. -/
def alter {α : Type} (dotted : Bool) :
    List String → (Branch → Option (Branch × α)) → Branch → Option (Branch × α)
  | [], change, b => change b
  | key :: path, change, b =>
    match b.entries.lookup key with
    | none => do
      let (inner, x) ← alter dotted path change (.mk true dotted [])
      some (b.put key (.branch inner), x)
    | some (.value _) => none
    | some (.branch inner) =>
      if dotted && !inner.implicit then none
      else do
        let (inner, x) ← alter dotted path change inner
        some (b.put key (.branch inner), x)
    | some (.branches all) => do
      let last ← all.getLast?
      let (last, x) ← alter dotted path change last
      some (b.put key (.branches (all.dropLast ++ [last])), x)

/-- Sets a key to a value; the path in front of the key is that of a dotted key. -/
def assign (b : Branch) (path : List String) (key : String) (v : Toml) : Option Branch :=
  (alter true path (fun inner =>
    if inner.dotted = path.isEmpty ∨ (inner.entries.lookup key).isSome then none
    else some (inner.put key (.value v), ())) b).map Prod.fst

end Branch

mutual

/-- The value that an entry has become. -/
def Node.close : Node → Toml
  | .value v => v
  | .branch b => b.close
  | .branches bs => .array (closeBranches bs)

/-- The table that a branch has become. -/
def Branch.close : Branch → Toml
  | .mk _ _ entries => .table (closeEntries entries)

/-- The values that entries have become. -/
def closeEntries : List (String × Node) → List (String × Toml)
  | [] => []
  | (key, node) :: rest => (key, node.close) :: closeEntries rest

/-- The tables that branches have become. -/
def closeBranches : List Branch → List Toml
  | [] => []
  | b :: rest => b.close :: closeBranches rest

end

/-- A document in the making: what is finished, and the table that is open with the path of its
header. -/
structure Outline where
  root : Branch
  current : Branch
  path : List String
  inArray : Bool

namespace Outline

/-- The outline before the first line: the table at the top is open. -/
def start : Outline := ⟨.opened, .opened, [], false⟩

/-- Files the open table where its header says. -/
def finish (o : Outline) : Option Branch :=
  match o.path.getLast? with
  | none => some o.current
  | some key =>
    (Branch.alter false o.path.dropLast (fun parent =>
      match parent.entries.lookup key, o.inArray with
      | none, true => some (parent.put key (.branches [o.current]), ())
      | some (.branches bs), true => some (parent.put key (.branches (bs ++ [o.current])), ())
      | none, false => some (parent.put key (.branch o.current), ())
      | some (.branch b), false =>
        if b.implicit then some (parent.put key (.branch o.current), ()) else none
      | _, _ => none) o.root).map Prod.fst

/-- Opens the table of a header. One that was only passed through so far is taken up again. -/
def openTable (o : Outline) (path : List String) (key : String) : Option Outline := do
  let root ← o.finish
  let (root, entries) ← Branch.alter false path (fun parent =>
    match parent.entries.lookup key with
    | none => some (parent, [])
    | some (.branch b) =>
      if b.implicit && !b.dotted then some (parent.drop key, b.entries) else none
    | some _ => none) root
  some ⟨root, .mk false false entries, path ++ [key], false⟩

/-- Opens one more table of an array of tables. -/
def openArrayTable (o : Outline) (path : List String) (key : String) : Option Outline := do
  let root ← o.finish
  let (root, ()) ← Branch.alter false path (fun parent =>
    match parent.entries.lookup key with
    | none => some (parent.put key (.branches []), ())
    | some (.branches _) => some (parent, ())
    | some _ => none) root
  some ⟨root, .opened, path ++ [key], true⟩

/-- Sets a key of the open table. -/
def assign (o : Outline) (path : List String) (key : String) (v : Toml) : Option Outline := do
  some { o with current := ← o.current.assign path key v }

/-- The finished document. -/
def close (o : Outline) : Option Toml :=
  o.finish.map Branch.close

end Outline

end Gatehouse.Toml
