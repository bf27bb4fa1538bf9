import ClassAtlas.Ordered

/-!
# Classes and relations

The nodes of a class graph and the arrows between them. Two nodes are the same class if they have the
same name; two relations are the same if they agree in all parts.
-/

namespace ClassAtlas

/-- Where a module comes from. -/
inductive ModuleKind where
  | internal
  | external
deriving DecidableEq

/-- The word for a kind of module. -/
def ModuleKind.word : ModuleKind → String
  | .internal => "internal"
  | .external => "external"

/-- All kinds of modules. -/
def ModuleKind.all : List ModuleKind := [.internal, .external]

/-- A module that a class comes from or uses. -/
structure ModuleRef where
  name : String
  kind : Option ModuleKind := none
deriving DecidableEq

/-- A function of a class; its fields may be unknown. -/
structure Method where
  name : String
  fields : Option (List String) := some []
deriving DecidableEq

/-- How a class is shown. -/
inductive ClassKind where
  | plain
  | enumeration
  | abstract
  | dataclass
  | exception
deriving DecidableEq

/-- The word for a kind of class. -/
def ClassKind.word : ClassKind → String
  | .plain => "class"
  | .enumeration => "enum"
  | .abstract => "abstract"
  | .dataclass => "dataclass"
  | .exception => "exception"

/-- All kinds of classes. -/
def ClassKind.all : List ClassKind := [.plain, .enumeration, .abstract, .dataclass, .exception]

/-- A class. Its attributes are sorted, each once; attributes, functions and annotations may be
unknown. -/
structure ClassNode where
  name : String
  kind : ClassKind := .plain
  attributes : Option (List String) := some []
  functions : Option (List Method) := some []
  annotations : Option (List String) := some []
  home : Option ModuleRef := none
  externals : List ModuleRef := []
deriving DecidableEq

namespace ClassNode

/-- Adds an attribute to those that are known. -/
def addAttribute (node : ClassNode) (member : String) : ClassNode :=
  { node with attributes := node.attributes.map (insertName member) }

/-- Adds a function to those that are known. -/
def addFunction (node : ClassNode) (function : Method) : ClassNode :=
  { node with functions := node.functions.map (· ++ [function]) }

@[simp] theorem addAttribute_name (node : ClassNode) (a : String) :
    (node.addAttribute a).name = node.name := rfl

@[simp] theorem addFunction_name (node : ClassNode) (f : Method) :
    (node.addFunction f).name = node.name := rfl

end ClassNode

/-- What an arrow means. -/
inductive RelationKind where
  | inheritance
  | composition
  | aggregation
  | association
  | dependency
  | realization
deriving DecidableEq

/-- The word for a kind of relation. -/
def RelationKind.word : RelationKind → String
  | .inheritance => "inheritance"
  | .composition => "composition"
  | .aggregation => "aggregation"
  | .association => "association"
  | .dependency => "dependency"
  | .realization => "realization"

/-- All kinds of relations. -/
def RelationKind.all : List RelationKind :=
  [.inheritance, .composition, .aggregation, .association, .dependency, .realization]

/-- An arrow between two classes, given by name. -/
structure Relation where
  source : String
  target : String
  kind : RelationKind
deriving DecidableEq

/-- The order of relations: by source, then target, then the word for the kind. -/
def Relation.before (r s : Relation) : Bool :=
  if r.source = s.source then
    if r.target = s.target then nameBefore r.kind.word s.kind.word
    else nameBefore r.target s.target
  else nameBefore r.source s.source

end ClassAtlas
