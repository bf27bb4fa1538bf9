/-!
# File trees

A file tree is a file, something that is neither file nor directory, or a directory. The entries of a
directory are kept in the order of their names. A place in a tree is a list of names that leads there
from the root.
-/

namespace ClassAtlas

mutual

/-- What lies at a place. -/
inductive FileTree where
  | file (bytes : List UInt8)
  /-- Takes all that is written to it and holds nothing. -/
  | sink
  | directory (entries : Entries)

/-- The entries of a directory. -/
inductive Entries where
  | nil
  | cons (name : String) (tree : FileTree) (rest : Entries)

end

namespace Entries

/-- The entry of a name. -/
def find? (name : String) : Entries → Option FileTree
  | .nil => none
  | .cons other tree rest => if other = name then some tree else find? name rest

/-- Adds an entry, or replaces the one of its name. -/
def put (name : String) (tree : FileTree) : Entries → Entries
  | .nil => .cons name tree .nil
  | .cons other old rest =>
    if other = name then .cons name tree rest
    else if name < other then .cons name tree (.cons other old rest)
    else .cons other old (put name tree rest)

/-- The names of the entries that are no directories. -/
def fileNames : Entries → List String
  | .nil => []
  | .cons _ (.directory _) rest => fileNames rest
  | .cons name _ rest => name :: fileNames rest

theorem find?_put (name other : String) (tree : FileTree) (entries : Entries) :
    (entries.put name tree).find? other = if other = name then some tree else entries.find? other := by
  match entries with
  | .nil => simp only [put, find?, eq_comm (a := name)]
  | .cons key old rest =>
    have ih := find?_put name other tree rest
    rw [put]
    split
    · subst_vars
      simp only [find?, eq_comm (a := other)]
      split <;> rfl
    · split
      · simp only [find?, eq_comm (a := other)]
      · simp only [find?, ih]
        split <;> split <;> simp_all

end Entries

namespace FileTree

/-- A directory without entries. -/
def emptyDirectory : FileTree := .directory .nil

/-- Is it a directory? -/
def isDirectory : FileTree → Bool
  | .directory _ => true
  | _ => false

/-- Is it a file? -/
def isFile : FileTree → Bool
  | .file _ => true
  | _ => false

/-- What lies at a place. -/
def get? (t : FileTree) : List String → Option FileTree
  | [] => some t
  | name :: rest =>
    match t with
    | .directory entries =>
      match entries.find? name with
      | some inner => inner.get? rest
      | none => none
    | _ => none

/-- Is there a directory at the place? -/
def hasDirectory (t : FileTree) (place : List String) : Bool :=
  (t.get? place).any isDirectory

/-- Puts a tree at a place. The directories on the way have to be there; without them nothing
changes. -/
def put (new : FileTree) : List String → FileTree → FileTree
  | [], _ => new
  | [name], .directory entries => .directory (entries.put name new)
  | name :: rest, .directory entries =>
    match entries.find? name with
    | some inner => .directory (entries.put name (put new rest inner))
    | none => .directory entries
  | _, t => t

/-- Puts a tree at a place, and directories on the way where there is nothing. -/
def plant (new : FileTree) : List String → FileTree → FileTree
  | [], _ => new
  | name :: rest, .directory entries =>
    .directory (entries.put name (plant new rest ((entries.find? name).getD emptyDirectory)))
  | _, t => t

mutual

/-- The files of a tree below a place, with their places. -/
def files (place : List String) : FileTree → List (List String × List UInt8)
  | .file bytes => [(place, bytes)]
  | .sink => []
  | .directory entries => filesOf place entries

/-- The files of entries. -/
def filesOf (place : List String) : Entries → List (List String × List UInt8)
  | .nil => []
  | .cons name tree rest => files (place ++ [name]) tree ++ filesOf place rest

end

/-- The files of a tree that another tree does not have, or has with other bytes. -/
def changedFrom (old new : FileTree) : List (List String × List UInt8) :=
  let before := old.files []
  (new.files []).filter fun entry => !before.contains entry

end FileTree

end ClassAtlas
