import ClassAtlas.ClassGraph.Node
import ClassAtlas.PackageTree

/-!
# Comparisons

When two things count as equal. Classes are told apart by their names alone and relations by all their
parts; functions and modules are compared field by field, also with tables. A package reads the name of
whatever it is compared with, and then its kind.
-/

namespace ClassAtlas

/-- Something that is compared. -/
inductive Comparable where
  | node (node : ClassNode)
  | relation (relation : Relation)
  | package (package : Package)
  | function (function : Method)
  | module (module : ModuleRef)
  | value (document : Document)

namespace Comparable

/-- The label of what is compared. -/
def label : Comparable → String
  | .node _ => "ClassNode"
  | .relation _ => "Relation"
  | .package _ => "Package"
  | .function _ => "FunctionDef"
  | .module _ => "ModuleDef"
  | .value d => d.kind.label

/-- Is the value a list of just these texts? -/
def isTexts (texts : List String) : Document → Bool
  | .list items => items.length == texts.length && (items.zip texts).all fun (d, s) => d.isText s
  | _ => false

/-- Is the value nothing? -/
def isNull : Document → Bool
  | .null => true
  | _ => false

/-- Has the table just the name and one more entry, and does that fit? -/
def fits (name second : String) (test : Document → Bool) : Document → Bool
  | .table entries =>
    entries.length == 2 && (entries.lookup "name").any (·.isText name)
      && (entries.lookup second).any test
  | _ => false

/-- Does a package equal something? -/
def packageEquals (p : Package) : Comparable → Except Fault Bool
  | .node _ => .ok false
  | .package q => .ok (p == q)
  | .module m => .ok (p.name == m.name && p.kind.isNone && m.kind.isNone)
  | .function f => if p.name == f.name then .error (.noField "FunctionDef" "type_") else .ok false
  | other => .error (.noField other.label "name")

/-- Are two things equal? -/
def equals : Comparable → Comparable → Except Fault Bool
  | .node m, .node n => .ok (m.name == n.name)
  | .relation r, .relation s => .ok (r == s)
  | .package p, other => packageEquals p other
  | .function f, .function g => .ok (f == g)
  | .function f, .value d => .ok (fits f.name "fields" (fun v =>
      match f.fields with
      | some fields => isTexts fields v
      | none => isNull v) d)
  | .module m, .module n => .ok (m == n)
  | .module m, .package p => .ok (m.name == p.name && m.kind.isNone && p.kind.isNone)
  | .module m, .value d => .ok (fits m.name "type_" (fun v => m.kind.isNone && isNull v) d)
  | .value _, _ => .ok false
  | _, _ => .ok false

/-- Can the two stand in a set together, as only things of one sort can that are compared by name or
parts? -/
def inOneSet : Comparable → Comparable → Bool
  | .node _, .node _ => true
  | .relation _, .relation _ => true
  | _, _ => false

end Comparable

end ClassAtlas
