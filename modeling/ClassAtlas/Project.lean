import ClassAtlas.Config
import ClassAtlas.PackageTree
import ClassAtlas.Source.Parse
import ClassAtlas.Workspace

/-!
# Projects

A project is a directory with packages in it: directories that hold an `__init__.py`. All files of
packages are found, whatever their kind; they make up the tree of packages, and the modules of that tree
are read in its order. A module's path is put together again from the names in the tree.
-/

namespace ClassAtlas.Project

open ClassAtlas.Source

/-- The file that makes a directory a package. -/
def marker : String := "__init__.py"

mutual

/-- The paths of the files in packages at and below a path. A directory's own files come first, then
those of its directories. -/
def packageFiles (path : String) : FileTree → List String
  | .directory entries =>
    let own := entries.fileNames
    (if own.contains marker then own.map (Path.join path) else []) ++ filesBelow path entries
  | _ => []

/-- The files in packages in the directories among entries. -/
def filesBelow (path : String) : Entries → List String
  | .nil => []
  | .cons name tree rest => packageFiles (Path.join path name) tree ++ filesBelow path rest

end

/-- The absolute paths of the files in packages below a path. -/
def found (w : Workspace) (path : String) : List String :=
  match w.find? path with
  | some tree => (packageFiles path tree).map (Path.absolute w.cwd)
  | none => []

/-- The tree of packages at a path, which has to name something. -/
def tree (w : Workspace) (path : String) : Except Fault PackageTree :=
  match Path.lastName? path with
  | some name => .ok ((PackageTree.root name).build w.cwd path (found w path))
  | none => .error .namelessPath

/-- The paths of the modules of a tree at a base path. Packages whose names `excludes` holds are left
out; it has to be something that can hold names. -/
def modulePaths (base : String) (excludes : Document) (t : PackageTree) :
    Except Fault (List String) := do
  let _ ← Config.holds excludes t.name
  return (t.modules (fun name => (excludes.holds? name).getD false) []).map (Path.joinAll base)

/-- The statements of the module at a path. -/
def readModule (w : Workspace) (path : String) : Except Fault (List Stmt) := do
  match parseModule (← w.readText path) with
  | some statements => .ok statements
  | none => .error .invalidSource

/-- The modules at paths, up to the first that cannot be read. -/
def readModules (w : Workspace) : List String → List (String × List Stmt) × Option Fault
  | [] => ([], none)
  | path :: rest =>
    match readModule w path with
    | .error fault => ([], some fault)
    | .ok statements =>
      let (more, fault) := readModules w rest
      ((path, statements) :: more, fault)

end ClassAtlas.Project
