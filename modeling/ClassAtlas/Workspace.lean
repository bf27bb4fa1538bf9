import ClassAtlas.FileTree
import ClassAtlas.Path
import ClassAtlas.Source.Lexer
import ClassAtlas.Text.Decode

/-!
# Workspaces

A workspace is a file tree with a working directory. Paths are followed name by name, so a `..` leads up
only from a directory that is there. Reading and writing fail with the path as it was given.
-/

namespace ClassAtlas

open ClassAtlas.Source ClassAtlas.Text

/-- A file tree and the absolute path of the working directory. -/
structure Workspace where
  tree : FileTree
  cwd : String

namespace Workspace

/-! ## Following paths -/

/-- Why a path leads nowhere. -/
inductive Obstacle where
  /-- A name is not there. -/
  | missing
  /-- A name leads on from something that is no directory. -/
  | blocked

/-- Follows the pieces of a path from a place. -/
def follow (t : FileTree) (place : List String) : List String → Except Obstacle (List String)
  | [] => .ok place
  | piece :: rest =>
    if !t.hasDirectory place then .error .blocked
    else if piece = "" || piece = "." then follow t place rest
    else if piece = ".." then follow t place.dropLast rest
    else if (t.get? (place ++ [piece])).isSome then follow t (place ++ [piece]) rest
    else .error .missing

/-- The pieces of a path from the root. -/
def piecesOf (w : Workspace) (path : String) : List String :=
  if Path.isAbsolute path then Path.pieces path else Path.pieces w.cwd ++ Path.pieces path

/-- The place that a path leads to. -/
def place (w : Workspace) (path : String) : Except Obstacle (List String) :=
  if path = "" then .error .missing else follow w.tree [] (w.piecesOf path)

/-- What a path leads to. -/
def find? (w : Workspace) (path : String) : Option FileTree :=
  match w.place path with
  | .ok place => w.tree.get? place
  | .error _ => none

/-- Does the path lead to something? -/
def «exists» (w : Workspace) (path : String) : Bool :=
  (w.find? path).isSome

/-- Does the path lead to a directory? -/
def isDirectory (w : Workspace) (path : String) : Bool :=
  (w.find? path).any FileTree.isDirectory

/-- Does the path lead to a file? -/
def isFile (w : Workspace) (path : String) : Bool :=
  (w.find? path).any FileTree.isFile

/-- The fault of a path that leads nowhere. -/
def Obstacle.fault (path : String) : Obstacle → Fault
  | .missing => .notFound path
  | .blocked => .notADirectory path

/-! ## Reading -/

/-- The bytes of a file. -/
def read (w : Workspace) (path : String) : Except Fault (List UInt8) :=
  match w.place path with
  | .error obstacle => .error (obstacle.fault path)
  | .ok place =>
    match w.tree.get? place with
    | some (.file bytes) => .ok bytes
    | some .sink => .ok []
    | some (.directory _) => .error (.isADirectory path)
    | none => .error (.notFound path)

/-- The text of a file, with every line end as a single line feed. -/
def readText (w : Workspace) (path : String) : Except Fault String := do
  return String.ofList (unifyLineEnds (← decode (← w.read path)))

/-! ## Writing -/

/-- The place where something new is to be made: that of the directory, and the name in it. -/
def newPlace (w : Workspace) (path : String) : Except Fault (List String) :=
  if path = "" then .error (.notFound path)
  else
    let pieces := ((w.piecesOf path).reverse.dropWhile (· = "")).reverse
    match follow w.tree [] pieces.dropLast with
    | .error obstacle => .error (obstacle.fault path)
    | .ok directory => .ok (directory ++ (pieces.getLast?).toList)

/-- Puts something at a place. -/
def put (w : Workspace) (place : List String) (t : FileTree) : Workspace :=
  { w with tree := FileTree.put t place w.tree }

/-- Writes a text to a file, new or not. -/
def write (w : Workspace) (path text : String) : Except Fault Workspace :=
  let file := FileTree.file text.toUTF8.data.toList
  match w.place path with
  | .error .blocked => .error (.notADirectory path)
  | .error .missing => do return w.put (← w.newPlace path) file
  | .ok place =>
    match w.tree.get? place with
    | some (.directory _) => .error (.isADirectory path)
    | some .sink => .ok w
    | _ => .ok (w.put place file)

/-- Makes a directory where there is nothing. -/
def makeDirectory (w : Workspace) (path : String) : Except Fault Workspace :=
  match w.place path with
  | .ok _ => .error (.alreadyExists path)
  | .error .blocked => .error (.notADirectory path)
  | .error .missing => do return w.put (← w.newPlace path) .emptyDirectory

/-! ## Making directories with those above them

What was made before a fault stays, so the workspace is given back with the fault. -/

/-- Makes a directory. -/
def tryDirectory (w : Workspace) (path : String) : Workspace × Option Fault :=
  match w.makeDirectory path with
  | .ok w => (w, none)
  | .error fault => (w, some fault)

/-- The path of pieces that are given in reverse. -/
def pathOf (reversed : List String) : String :=
  if reversed.all (· = "") then "/" else Path.joinNames reversed.reverse

/-- Makes the directory of a path, those above it first as far as they are missing; the path is given as
its pieces in reverse. -/
def makeDownTo (w : Workspace) : List String → Workspace × Option Fault
  | [] => (w, none)
  | "" :: above => makeDownTo w above
  | name :: above =>
    let here := pathOf (name :: above)
    if above.isEmpty || w.exists (pathOf (above.dropWhile (· = ""))) then w.tryDirectory here
    else
      match makeDownTo w above with
      | (w, none) => if name = "." then (w, none) else w.tryDirectory here
      | (w, some (.alreadyExists _)) => if name = "." then (w, none) else w.tryDirectory here
      | (w, some fault) => (w, some fault)

/-- Makes the directory of a path and those above it that are missing. The directory itself must not be
there. -/
def makeDirectories (w : Workspace) (path : String) : Workspace × Option Fault :=
  w.makeDownTo (Path.pieces path).reverse

/-- A directory that is there already will do. -/
def allowExisting (path : String) : Workspace × Option Fault → Workspace × Option Fault
  | (w, some fault) => if w.isDirectory path then (w, none) else (w, some fault)
  | done => done

/-- Makes the directory of a path, and those above it only if it cannot be made without them; the path is
given as its names in reverse, below `root`. -/
def makeUpFrom (w : Workspace) (root : String) : List String → Workspace × Option Fault
  | [] => allowExisting root (w.tryDirectory root)
  | name :: above =>
    let here := if root = "." then Path.joinNames (name :: above).reverse
      else root ++ Path.joinNames (name :: above).reverse
    match w.tryDirectory here with
    | (w, some (.notFound _)) =>
      match makeUpFrom w root above with
      | (w, none) => allowExisting here (w.tryDirectory here)
      | failed => failed
    | tried => allowExisting here tried

/-- Makes sure that there is a directory at a tidy path. -/
def ensureDirectory (w : Workspace) (path : String) : Workspace × Option Fault :=
  let slashes := Path.leadingSlashes path
  let root := if slashes = 0 then "." else String.ofList (List.replicate slashes '/')
  w.makeUpFrom root ((Path.pieces path).filter fun name => name != "" && name != ".").reverse

end Workspace

end ClassAtlas
