import Gatehouse.Config.Load

/-! # A tree of files

A working directory with files in it, for runs without a file system. Paths are
walked part by part: a part has to be a directory for the walk to go on, `.`
stays, and `..` goes back up. Above the working directory there are the
directories that lead to it and nothing else. A path from the root is walked in
a tree that holds what every system has there.
-/

namespace Gatehouse.Simulation

/-- What stands at a path of the tree. -/
inductive FileEntry where
  | directory
  | file (bytes : List UInt8)
  deriving DecidableEq

/-- Files and directories under their paths, the parts of which are listed. The directories on the
way to an entry need not be listed. -/
structure FileTree where
  entries : List (List String × FileEntry)
  deriving DecidableEq

namespace FileTree

/-- The tree with nothing in it. -/
def empty : FileTree := ⟨[]⟩

/-- The parts of a path, without empty ones. -/
def parts (path : String) : List String :=
  ((path.splitOn "/").filter fun p => p ≠ "" ∧ p ≠ ".")

/-- Adds an entry. -/
def add (t : FileTree) (path : String) (entry : FileEntry) : FileTree :=
  ⟨t.entries ++ [(parts path, entry)]⟩

/-- What stands at a place; a place above some entry is a directory. -/
def at? (t : FileTree) (place : List String) : Option FileEntry :=
  if place.isEmpty then some .directory
  else
    match t.entries.reverse.lookup place with
    | some entry => some entry
    | none =>
      if t.entries.any fun e => place.isPrefixOf e.1 then some .directory else none

/-- Walks on from somewhere above the working directory. -/
def walkAbove : List String → Option FileEntry
  | [] => some .directory
  | part :: rest =>
    if part = ".." ∨ part = "." ∨ part = "" then walkAbove rest else none

/-- Walks on from a place, given with its last part first. -/
def walk (t : FileTree) : List String → List String → Option FileEntry
  | place, [] => t.at? place.reverse
  | place, part :: rest =>
    match t.at? place.reverse with
    | some .directory =>
      if part = "." ∨ part = "" then walk t place rest
      else if part = ".." then
        match place with
        | [] => walkAbove rest
        | _ :: above => walk t above rest
      else walk t (part :: place) rest
    | some (.file _) | none => none

/-- What every system has below its root: a device that reads as nothing, and some directories. -/
def system : FileTree :=
  ["etc", "tmp", "usr"].foldl (fun t name => t.add name .directory)
    (empty.add "dev/null" (.file []))

/-- What stands at a path. The way up from the root leads back to the root. -/
def find? (t : FileTree) (path : String) : Option FileEntry :=
  let parts := path.splitOn "/"
  if path = "" then none
  else if parts.head? = some "" then
    system.walk [] (parts.dropWhile fun p => p = "" ∨ p = "." ∨ p = "..")
  else t.walk [] parts

/-- What is found at a path. -/
def content (t : FileTree) (path : String) : FileContent :=
  match t.find? path with
  | none => .missing
  | some .directory => .unreadable
  | some (.file bytes) =>
    match String.fromUTF8? ⟨bytes.toArray⟩ with
    | some text => .readable text
    | none => .unreadable

end FileTree

end Gatehouse.Simulation
