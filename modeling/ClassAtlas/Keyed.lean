import ClassAtlas.ClassGraph.Edit
import ClassAtlas.PackageTree

/-!
# Classes and packages under keys

A class graph holds its classes in a dictionary, and a package holds what lies in it in another one. Here the
keys of both are kept apart from the names of what they lead to, and all is looked up and changed by key. The
keys turn out to be the names (`ClassAtlas.Proofs.Keys`), which is why `ClassGraph` and `PackageTree` do without
them.
-/

namespace ClassAtlas

/-! ## Dictionaries -/

/-- Values under keys, in the order in which the keys first arrived. -/
abbrev Dictionary (α : Type) := List (String × α)

namespace Dictionary

variable {α : Type}

/-- The value under a key. -/
def get? (d : Dictionary α) (key : String) : Option α :=
  d.lookup key

/-- Is the key there? -/
def has (d : Dictionary α) (key : String) : Bool :=
  (d.get? key).isSome

/-- Puts a value under a key: in the place of the one that is there, or at the end. -/
def put (key : String) (value : α) : Dictionary α → Dictionary α
  | [] => [(key, value)]
  | (k, old) :: rest => if k = key then (k, value) :: rest else (k, old) :: put key value rest

/-- Changes the value under a key. -/
def change (key : String) (f : α → α) : Dictionary α → Dictionary α
  | [] => []
  | (k, value) :: rest => if k = key then (k, f value) :: rest else (k, value) :: change key f rest

/-- Removes a key and its value. -/
def remove (d : Dictionary α) (key : String) : Dictionary α :=
  d.filter (·.1 ≠ key)

end Dictionary

/-! ## Class graphs -/

/-- Classes under keys, and the relations between them. -/
structure KeyedGraph where
  nodes : Dictionary ClassNode := []
  relations : List Relation := []

namespace KeyedGraph

/-- The graph without the keys. -/
def view (g : KeyedGraph) : ClassGraph :=
  { nodes := g.nodes.map (·.2), relations := g.relations }

/-- Adds a class under its name. -/
def addNode (g : KeyedGraph) (node : ClassNode) : KeyedGraph :=
  { g with nodes := g.nodes.put node.name node }

/-- Removes the class under a key with all relations from and to it, and tells whether there was one. -/
def removeNode (g : KeyedGraph) (key : String) : Bool × KeyedGraph :=
  if g.nodes.has key then
    (true, { nodes := g.nodes.remove key
             relations := g.relations.filter fun r => r.source ≠ key && r.target ≠ key })
  else (false, g)

/-- Adds a relation without asking for its classes. -/
def insertRelation (g : KeyedGraph) (r : Relation) : KeyedGraph :=
  { g with relations := Ordered.insert Relation.before r g.relations }

/-- Adds a relation if both its classes are there, and tells whether it is new. -/
def addRelation (g : KeyedGraph) (r : Relation) : Bool × KeyedGraph :=
  if g.nodes.has r.source && g.nodes.has r.target then
    if g.relations.contains r then (false, g) else (true, g.insertRelation r)
  else (false, g)

/-- Removes a relation, and tells whether it was there. -/
def removeRelation (g : KeyedGraph) (r : Relation) : Bool × KeyedGraph :=
  if g.relations.contains r then (true, { g with relations := g.relations.filter (· ≠ r) })
  else (false, g)

/-- Changes the class under a key. -/
def modifyNode (g : KeyedGraph) (key : String) (f : ClassNode → ClassNode) : KeyedGraph :=
  { g with nodes := g.nodes.change key f }

/-- Edits the class under a key, which has to be there. -/
def edit (g : KeyedGraph) (key : String) (f : ClassNode → Except Fault ClassNode) : Except Fault KeyedGraph :=
  match g.nodes.get? key with
  | none => .error (.missingKey key)
  | some node => do
    let node ← f node
    return g.modifyNode key fun _ => node

end KeyedGraph

/-! ## Package trees -/

/-- A package with what lies in it under keys. -/
inductive KeyedTree where
  | node (value : Package) (children : List (String × KeyedTree))

namespace KeyedTree

/-- The package itself. -/
def value : KeyedTree → Package
  | .node value _ => value

/-- What lies in the package. -/
def children : KeyedTree → Dictionary KeyedTree
  | .node _ children => children

/-- A package without children. -/
def leaf (value : Package) : KeyedTree := .node value []

/-- The child under a key. -/
def child? (t : KeyedTree) (key : String) : Option KeyedTree :=
  t.children.get? key

/-- Puts a child under a key. -/
def put (t : KeyedTree) (key : String) (child : Package) : KeyedTree :=
  .node t.value (t.children.put key (leaf child))

/-- Changes the package at the end of keys. -/
def modifyAt (t : KeyedTree) (f : KeyedTree → KeyedTree) : List String → KeyedTree
  | [] => f t
  | key :: rest => .node t.value (t.children.change key fun child => child.modifyAt f rest)

/-- The package at the end of keys; `operation` is what will be asked of it. -/
def reach (t : KeyedTree) (operation : String) : List String → Except Fault KeyedTree
  | [] => .ok t
  | key :: rest =>
    match t.child? key with
    | some child => child.reach operation rest
    | none => .error (.noChild (if rest.isEmpty then operation else "get_child"))

/-- The child of a package. -/
def getAt (t : KeyedTree) (place : List String) (key : String) : Except Fault (Option KeyedTree) := do
  return (← t.reach "get_child" place).child? key

/-- Adds a child to a package; it is looked at only if its key is new. -/
def addAt (t : KeyedTree) (place : List String) (key : String) (child : Except Fault Package) :
    Except Fault KeyedTree := do
  let parent ← t.reach "_add_child" place
  if parent.children.has key then .error (.childExists key)
  else do
    let child ← child
    return t.modifyAt (·.put key child) place

/-- The child of a package, which is added if it is not there, and then asked for again. -/
def createAt (t : KeyedTree) (place : List String) (key : String) (child : Except Fault Package) :
    Except Fault (KeyedTree × Option KeyedTree) := do
  let parent ← t.reach "create_child" place
  match parent.child? key with
  | some found => return (t, some found)
  | none => do
    let t ← t.addAt place key child
    return (t, ← t.getAt place key)

/-- Goes down from a place along the names of a path. -/
def createAlong (t : KeyedTree) (place : List String) : List String → Except Fault KeyedTree
  | [] => .ok t
  | name :: rest => do
    let (t, _) ← t.createAt place name (.ok ⟨name, some (PackageTree.kindAt rest.isEmpty name)⟩)
    t.createAlong (place ++ [name]) rest

/-- Goes down from the root along several paths below a base path. -/
def createAll (cwd base : String) (paths : List String) (t : KeyedTree) : Except Fault KeyedTree :=
  paths.foldlM (fun t path => t.createAlong [] (PackageTree.partsBelow cwd base path)) t

end KeyedTree

end ClassAtlas
