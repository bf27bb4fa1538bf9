import ClassAtlas.Fault
import ClassAtlas.Path

/-!
# Package trees

Packages and modules in a tree. The children of a package stand in the order in which they were first
added, and no two have the same name. A tree is built from paths: each name along a path is a package,
but for a last name with a dot in it, which is a module.
-/

namespace ClassAtlas

/-- A package or a module: a name, and the word for what it is, which may be unknown. -/
structure Package where
  name : String
  kind : Option String := some ""
deriving DecidableEq

/-- The word for a package. -/
def packageWord : String := "package"

/-- The word for a module. -/
def moduleWord : String := "module"

/-- A package with what lies in it. -/
inductive PackageTree where
  | node (value : Package) (children : List PackageTree)

namespace PackageTree

/-- The package itself. -/
def value : PackageTree → Package
  | .node value _ => value

/-- The name of the package. -/
def name (t : PackageTree) : String := t.value.name

/-- What lies in the package. -/
def children : PackageTree → List PackageTree
  | .node _ children => children

/-- A package without children. -/
def leaf (value : Package) : PackageTree := .node value []

/-- The child of this name. -/
def child? (t : PackageTree) (name : String) : Option PackageTree :=
  t.children.find? (·.name == name)

/-- Follows names from child to child. -/
def descend? (t : PackageTree) : List String → Option PackageTree
  | [] => some t
  | name :: rest =>
    match t.child? name with
    | some child => child.descend? rest
    | none => none

/-- Puts a child at the end. -/
def push (t : PackageTree) (child : Package) : PackageTree :=
  .node t.value (t.children ++ [leaf child])

/-- Adds a child unless there is one of its name. -/
def ensureChild (t : PackageTree) (child : Package) : PackageTree :=
  if (t.child? child.name).isSome then t else t.push child

/-- Changes the child of this name, the first if there should be more than one. -/
def replaceChild (name : String) (f : PackageTree → PackageTree) :
    List PackageTree → List PackageTree
  | [] => []
  | t :: rest => if t.name = name then f t :: rest else t :: replaceChild name f rest

/-- Changes the package at the end of names. -/
def modifyAt (t : PackageTree) (f : PackageTree → PackageTree) : List String → PackageTree
  | [] => f t
  | name :: rest => .node t.value (replaceChild name (fun child => child.modifyAt f rest) t.children)

/-! ## Steps from the root

An operation is asked of the package at the end of names. A name that is not there gives no package, and
then neither the next name nor the operation can be asked of it. -/

/-- The package at the end of names; `operation` is what will be asked of it. -/
def reach (t : PackageTree) (operation : String) : List String → Except Fault PackageTree
  | [] => .ok t
  | name :: rest =>
    match t.child? name with
    | some child => child.reach operation rest
    | none => .error (.noChild (if rest.isEmpty then operation else "get_child"))

/-- The child of a package. -/
def getAt (t : PackageTree) (place : List String) (name : String) :
    Except Fault (Option PackageTree) := do
  return (← t.reach "get_child" place).child? name

/-- Adds a child to a package; it is looked at only if its name is new. -/
def addAt (t : PackageTree) (place : List String) (name : String) (child : Except Fault Package) :
    Except Fault PackageTree := do
  let parent ← t.reach "_add_child" place
  if (parent.child? name).isSome then .error (.childExists name)
  else do
    let child ← child
    return t.modifyAt (·.push child) place

/-- The child of a package, which is added if it is not there. -/
def createAt (t : PackageTree) (place : List String) (name : String) (child : Except Fault Package) :
    Except Fault (PackageTree × Option PackageTree) := do
  let parent ← t.reach "create_child" place
  match parent.child? name with
  | some found => return (t, some found)
  | none => do
    let t ← t.addAt place name child
    return (t, some (leaf (← child)))

/-! ## Building from paths

A path is put into a tree at once (`insert`), or step by step from the root (`createAlong`), where a step can be
refused. -/

/-- What the name at a place of a path stands for: `isLast` tells whether it ends the path. -/
def kindAt (isLast : Bool) (name : String) : String :=
  if isLast && name.contains '.' then moduleWord else packageWord

/-- Adds the packages along the names of a path. -/
def insert : List String → PackageTree → PackageTree
  | [], t => t
  | name :: rest, t =>
    let t := t.ensureChild ⟨name, some (kindAt rest.isEmpty name)⟩
    .node t.value (replaceChild name (insert rest) t.children)

/-- The names of a path below a base path. -/
def partsBelow (cwd base path : String) : List String :=
  Path.names (Path.relative cwd (Path.absolute cwd path) base)

/-- Adds the packages along several paths below a base path. -/
def build (cwd base : String) (paths : List String) (t : PackageTree) : PackageTree :=
  paths.foldl (fun t path => t.insert (partsBelow cwd base path)) t

/-- Goes down from a place along the names of a path. Each package on the way is asked for the next one,
which is added if it is not there. -/
def createAlong (t : PackageTree) (place : List String) : List String → Except Fault PackageTree
  | [] => .ok t
  | name :: rest => do
    let (t, _) ← t.createAt place name (.ok ⟨name, some (kindAt rest.isEmpty name)⟩)
    t.createAlong (place ++ [name]) rest

/-- Goes down from the root along several paths below a base path. -/
def createAll (cwd base : String) (paths : List String) (t : PackageTree) : Except Fault PackageTree :=
  paths.foldlM (fun t path => t.createAlong [] (partsBelow cwd base path)) t

/-- The tree that has only its root. -/
def root (name : String) : PackageTree :=
  leaf ⟨name, some packageWord⟩

/-! ## Modules in order -/

mutual

/-- The modules of a tree as the names that lead to them from below the root, in order. `excluded`
tells which packages to leave out with all that lies in them. -/
def modules (excluded : String → Bool) (above : List String) : PackageTree → List (List String)
  | .node value children =>
    if value.kind = some packageWord && excluded value.name then []
    else
      let here := above ++ [value.name]
      let own := if value.kind = some moduleWord then [here.drop 1] else []
      own ++ modulesOfAll excluded here children

/-- The modules of several trees. -/
def modulesOfAll (excluded : String → Bool) (above : List String) :
    List PackageTree → List (List String)
  | [] => []
  | t :: rest => modules excluded above t ++ modulesOfAll excluded above rest

end

end PackageTree

end ClassAtlas
