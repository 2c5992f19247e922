/-
NetWatch.Settings.Folder — files in folders, as far as `from_config` and `write_config`
need them.

A folder tree is a list of places, each a folder or a file. Paths are followed
from the root; a name leads into a folder, and two dots lead out of it, which
needs the folder to be there.
-/

namespace NetWatch

/-- What is at a place. -/
inductive Item where
  | folder
  /-- A file with text in it. -/
  | text (s : String)
  /-- A file whose bytes are no text. -/
  | bytes
  deriving DecidableEq, Repr

/-- A place in the tree: the names that lead to it from the root. -/
abbrev Place := List String

/-- All that is in a tree; the root is a folder without being listed. -/
structure FolderTree where
  items : List (Place × Item)
  deriving DecidableEq, Repr

/-! ## Paths -/

namespace Path

/-- The steps of a path: its names between slashes, without those that lead nowhere. -/
def steps (path : String) : List String :=
  (((path.toList.splitOn '/').map String.ofList).filter fun s => s ≠ "" ∧ s ≠ ".")

/-- The text before and behind the last dot. -/
def splitAtLastDot (cs : List Char) : Option (List Char × List Char) :=
  let after := (cs.reverse.takeWhile (· ≠ '.')).reverse
  if after.length < cs.length then some (cs.take (cs.length - after.length - 1), after) else none

/-- A file name with the ending `toml`, in place of the one that it has. A dot at
the very front begins no ending. -/
def withTomlEnding (name : String) : String :=
  match splitAtLastDot name.toList with
  | none => name ++ ".toml"
  | some ([], _) => name ++ ".toml"
  | some (stem, ending) => if ending = "toml".toList then name else String.ofList stem ++ ".toml"

/-- The steps of a path to a file that ends in `toml` (`normalize_toml_path`); a path that ends by
leading out of a folder names no file and stays as it is. -/
def toml (steps : List String) : List String :=
  match steps.getLast? with
  | none => steps
  | some name => if name = ".." then steps else steps.dropLast ++ [withTomlEnding name]

/-- The place that a step leads to from another. -/
def next (here : Place) (name : String) : Place :=
  if name = ".." then here.dropLast else here ++ [name]

/-- The places that steps lead through, one after the other. -/
def through (here : Place) : List String → List Place
  | [] => []
  | name :: rest => next here name :: through (next here name) rest

end Path

/-! ## Looking and changing -/

namespace FolderTree

def item? (t : FolderTree) (p : Place) : Option Item :=
  if p = [] then some .folder else (t.items.find? (·.1 == p)).map (·.2)

/-- The place that steps lead to from another, if every step on the way is there. -/
def follow (t : FolderTree) (here : Place) : List String → Option Place
  | [] => some here
  | name :: rest =>
    match t.item? here with
    | some .folder => t.follow (Path.next here name) rest
    | _ => none

/-- What steps from the root lead to. -/
def at? (t : FolderTree) (steps : List String) : Option (Place × Item) :=
  match t.follow [] steps with
  | none => none
  | some p => (t.item? p).map fun i => (p, i)

/-- Puts an item at a place, instead of what is there. -/
def put (t : FolderTree) (p : Place) (i : Item) : FolderTree :=
  if t.items.any (·.1 == p) then
    ⟨t.items.map fun x => if x.1 == p then (p, i) else x⟩
  else ⟨t.items ++ [(p, i)]⟩

/-- Makes the folders that steps lead through, as far as they are not there; fails
where something else is in the way. -/
def makeFolders (t : FolderTree) (here : Place) : List String → FolderTree × Bool
  | [] => (t, true)
  | name :: rest =>
    let next := Path.next here name
    match t.item? next with
    | some .folder => t.makeFolders next rest
    | some _ => (t, false)
    | none => (t.put next .folder).makeFolders next rest

/-- Writes a text into the file that steps lead to; fails if a folder is there or
the way to it is not. -/
def write (t : FolderTree) (steps : List String) (text : String) : Option FolderTree :=
  match t.follow [] steps with
  | none => none
  | some p => if t.item? p = some .folder then none else some (t.put p (.text text))

end FolderTree

end NetWatch
