import ClassAtlas.ClassGraph.Node

/-!
# Class graphs

A class graph holds classes in the order in which their names first arrived, and a sorted set of
relations. A class that arrives under a known name takes the place of the old one.
-/

namespace ClassAtlas

/-- Classes and the relations between them. -/
structure ClassGraph where
  nodes : List ClassNode := []
  relations : List Relation := []

namespace ClassGraph

/-- The graph without classes. -/
def empty : ClassGraph := {}

/-! ## Classes -/

/-- The names of the classes, in order. -/
def names (g : ClassGraph) : List String :=
  g.nodes.map (·.name)

/-- The class of this name. -/
def node? (g : ClassGraph) (name : String) : Option ClassNode :=
  g.nodes.find? (·.name == name)

/-- Is there a class of this name? -/
def hasNode (g : ClassGraph) (name : String) : Bool :=
  g.names.contains name

/-- Puts a class into a list: in the place of the one of its name, or at the end. -/
def putNode (node : ClassNode) : List ClassNode → List ClassNode
  | [] => [node]
  | n :: rest => if n.name = node.name then node :: rest else n :: putNode node rest

/-- Adds a class, or replaces the one of its name. -/
def addNode (g : ClassGraph) (node : ClassNode) : ClassGraph :=
  { g with nodes := putNode node g.nodes }

/-- Removes a class and all relations from and to it; the same graph if there is no such class. -/
def removeNode (g : ClassGraph) (name : String) : ClassGraph :=
  if g.hasNode name then
    { nodes := g.nodes.filter (·.name ≠ name)
      relations := g.relations.filter fun r => r.source ≠ name && r.target ≠ name }
  else g

/-- Tells whether there is a class of this name, and removes it with all relations from and to it. -/
def hasNodeThenRemove (g : ClassGraph) (name : String) : Bool × ClassGraph :=
  (g.hasNode name, g.removeNode name)

/-- Changes the class of this name. -/
def modifyNode (g : ClassGraph) (name : String) (f : ClassNode → ClassNode) : ClassGraph :=
  { g with nodes := g.nodes.map fun n => if n.name = name then f n else n }

/-! ## Relations -/

/-- Adds a relation without asking for its classes. -/
def insertRelation (g : ClassGraph) (r : Relation) : ClassGraph :=
  { g with relations := Ordered.insert Relation.before r g.relations }

/-- May the relation be added? Both its classes are there, and it is not. -/
def accepts (g : ClassGraph) (r : Relation) : Bool :=
  g.hasNode r.source && g.hasNode r.target && !g.relations.contains r

/-- Adds a relation if both its classes are there. -/
def addRelation (g : ClassGraph) (r : Relation) : ClassGraph :=
  if g.hasNode r.source && g.hasNode r.target then g.insertRelation r else g

/-- Tells whether a relation may be added, and adds it if both its classes are there. -/
def acceptsThenAdd (g : ClassGraph) (r : Relation) : Bool × ClassGraph :=
  (g.accepts r, g.addRelation r)

/-- Is the relation there? -/
def hasRelation (g : ClassGraph) (r : Relation) : Bool :=
  g.relations.contains r

/-- Removes a relation. -/
def removeRelation (g : ClassGraph) (r : Relation) : ClassGraph :=
  { g with relations := g.relations.filter (· ≠ r) }

/-- Tells whether a relation is there, and removes it. -/
def hasRelationThenRemove (g : ClassGraph) (r : Relation) : Bool × ClassGraph :=
  (g.hasRelation r, g.removeRelation r)

/-- The relations of a kind. -/
def ofKind (g : ClassGraph) (kind : RelationKind) : List Relation :=
  g.relations.filter (·.kind = kind)

/-- The relations from a class. -/
def outgoing (g : ClassGraph) (name : String) : List Relation :=
  g.relations.filter (·.source = name)

/-- The relations to a class. -/
def incoming (g : ClassGraph) (name : String) : List Relation :=
  g.relations.filter (·.target = name)

/-- The classes that a relation in either direction connects with a class. -/
def neighbors (g : ClassGraph) (name : String) : List String :=
  Ordered.insertAll nameBefore (g.relations.filterMap fun r =>
    if r.source = name then some r.target
    else if r.target = name then some r.source
    else none) []

end ClassGraph

end ClassAtlas
