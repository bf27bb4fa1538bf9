import ClassAtlas.ClassGraph.Reach
import ClassAtlas.Fault

/-!
# Editing known classes

Edits of a class by its name. The class has to be known, and what is added to has to be there.
-/

namespace ClassAtlas

/-- Adds an attribute to a class that knows its attributes. -/
def ClassNode.withAttribute (member : String) (node : ClassNode) : Except Fault ClassNode :=
  if node.attributes.isSome then .ok (node.addAttribute member) else .error .noAttributes

/-- Adds a function to a class that knows its functions. -/
def ClassNode.withFunction (function : Method) (node : ClassNode) : Except Fault ClassNode :=
  if node.functions.isSome then .ok (node.addFunction function) else .error .noFunctions

/-- Gives a class another kind. -/
def ClassNode.withKind (kind : ClassKind) (node : ClassNode) : Except Fault ClassNode :=
  .ok { node with kind := kind }

namespace ClassGraph

/-- The class of a name that has to be known. -/
def knownNode (g : ClassGraph) (name : String) : Except Fault ClassNode :=
  match g.node? name with
  | some node => .ok node
  | none => .error (.missingKey name)

/-- Edits the class of a name. -/
def edit (g : ClassGraph) (name : String) (f : ClassNode → Except Fault ClassNode) :
    Except Fault ClassGraph := do
  let node ← f (← g.knownNode name)
  return g.modifyNode name fun _ => node

/-- The topological order where nobody provides the arrows that leave a class: a graph with a cycle has
none, and one without classes needs no arrows. -/
def unsupportedOrder (g : ClassGraph) : Except Fault (Option (List String)) :=
  if g.hasCycle then .ok none
  else if g.nodes.isEmpty then .ok (some [])
  else .error .unsupportedOrder

end ClassGraph

end ClassAtlas
