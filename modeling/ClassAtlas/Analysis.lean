import ClassAtlas.ClassGraph.Basic
import ClassAtlas.Config
import ClassAtlas.Outline

/-!
# From outlines to a class graph

An analysis visits outlines one after the other and grows a class graph. A class definition becomes a
class, unless the configuration leaves it out, and its body is visited with it as the current class;
afterwards there is no current class, also not the one around it. Functions and assignments add to the
current class; without one they add nothing.

A relation is added only if both its classes are known by then, so a list of outlines is visited twice.
A call whose value is assigned makes a composition the first time it is met, and is remembered by its
identity so that it makes nothing further.

A visit may end in a fault, because of the configuration; what was done until then stays done.
-/

namespace ClassAtlas

/-- The state of an analysis. -/
structure Analysis where
  graph : ClassGraph := {}
  /-- The name of the current class. -/
  current : Option String := none
  /-- The calls that were met as assigned values. -/
  composed : List Nat := []
  /-- What was printed. -/
  printed : String := ""

namespace Analysis

/-! ## Class definitions -/

/-- What the configuration says about class definitions. -/
structure ClassRules where
  /-- The pattern for names of exceptions. -/
  pattern : Document
  /-- Are exceptions left out? -/
  skipsExceptions : Bool

/-- Reads the rules for class definitions. -/
def classRules (config : Document) : Action ClassRules := do
  let pattern ← Action.ofExcept (Config.entry (← Config.get config "exception") "name")
  let types ← Action.ofExcept (Config.entry (← Config.get config "exclude") "types")
  let skips ← Action.ofExcept (Config.holds types "exception")
  return ⟨pattern, skips⟩

/-- Is the class of this name left out? -/
def ClassRules.skips (rules : ClassRules) (name : String) : Except Fault Bool :=
  if rules.skipsExceptions then Config.matchesName rules.pattern name else .ok false

/-- The texts of decorators; each has to have one. -/
def decoratorTexts (decorators : List (Option String)) : Except Fault (List String) :=
  decorators.mapM fun
    | some text => .ok text
    | none => .error .unprintable

/-- The kind that decorators and name give a class. -/
def kindOf (rules : ClassRules) (name : String) (annotations : List String) :
    Except Fault ClassKind :=
  if annotations.contains "dataclass" then .ok .dataclass
  else do
    return if ← Config.matchesName rules.pattern name then .exception else .plain

/-- The kind that a base gives a class: only a plain class changes. -/
def kindFromBase (kind : ClassKind) (base : String) : ClassKind :=
  if kind = .plain then
    if base = "Enum" then .enumeration else if base = "ABC" then .abstract else kind
  else kind

/-- The class that a definition makes. -/
def classNode (rules : ClassRules) (name : String) (decorators : List (Option String))
    (bases : List String) : Except Fault ClassNode := do
  let annotations ← decoratorTexts decorators
  let kind ← kindOf rules name annotations
  return { name := name, kind := bases.foldl kindFromBase kind, annotations := some annotations }

/-- Adds a relation from one class to another. -/
def relate (st : Analysis) (source target : String) (kind : RelationKind) : Analysis :=
  { st with graph := st.graph.addRelation ⟨source, target, kind⟩ }

/-- Enters a class: its relations to its bases, the class itself, and from now on it is the current
one. -/
def enterClass (st : Analysis) (node : ClassNode) (bases : List String) : Analysis :=
  let st := bases.foldl (fun st base => st.relate node.name base .inheritance) st
  { st with graph := st.graph.addNode node, current := some node.name }

/-- What becomes of a class definition: its class, or nothing if it is left out. -/
def openClass (config : Document) (name : String) (decorators : List (Option String))
    (bases : List String) : Action (Option ClassNode) := do
  let rules ← classRules config
  if ← Action.ofExcept (rules.skips name) then return none
  else return some (← Action.ofExcept (classNode rules name decorators bases))

/-! ## Assignments -/

/-- The class that a call makes an instance of, by its name. -/
def calledClass? : Callee → Option String
  | .name id => some id
  | .member name => some name
  | .other => none

/-- A call as the value of an assignment in a class: a composition, unless the call was met before. -/
def compose (st : Analysis) (source : String) (value : Option CallSite) : Analysis :=
  match value with
  | none => st
  | some call =>
    match calledClass? call.callee with
    | none => st
    | some target =>
      if st.composed.contains call.id then st
      else { st.relate source target .composition with composed := call.id :: st.composed }

/-- Adds an attribute to a class. -/
def addAttribute (st : Analysis) (name : String) (member : String) : Analysis :=
  { st with graph := st.graph.modifyNode name (·.addAttribute member) }

/-- A target `self.name` of an assignment. -/
def assignSelf (st : Analysis) (name : String) (value : Option CallSite) (target : Target) :
    Analysis :=
  match target with
  | .selfAttribute member => (st.addAttribute name member).compose name value
  | _ => st

/-- A target of an assignment in the body of a class. -/
def assignTarget (st : Analysis) (name : String) (value : Option CallSite) (target : Target) :
    Analysis :=
  match target with
  | .name id => st.addAttribute name id
  | target => st.assignSelf name value target

/-- Is the target of the form `self.name`? -/
def isSelf : Target → Bool
  | .selfAttribute _ => true
  | _ => false

/-- An assignment in the body of a class. -/
def assignInClass (st : Analysis) (targets : List Target) (value : Option CallSite) : Analysis :=
  match st.current with
  | none => st
  | some name =>
    let st := targets.foldl (fun st t => st.assignTarget name value t) st
    if targets.any isSelf then st else st.compose name value

/-- An assignment in a function of a class. -/
def assignInFunction (st : Analysis) (targets : List Target) (value : Option CallSite) : Analysis :=
  match st.current with
  | none => st
  | some name => targets.foldl (fun st t => st.assignSelf name value t) st

/-! ## Annotated assignments -/

/-- The types that are not worth an arrow. -/
def basicTypes : List String := ["str", "int", "float", "bool", "Any"]

/-- Compositions with the types of an annotation. -/
def composeTypes (st : Analysis) (name : String) (types : List String) : Analysis :=
  types.foldl (fun st t => if basicTypes.contains t then st else st.relate name t .composition) st

/-- An annotated assignment in a function of a class. -/
def annotateInFunction (st : Analysis) (target : Target) (types : List String) : Analysis :=
  match st.current, target with
  | some name, .selfAttribute member => (st.addAttribute name member).composeTypes name types
  | _, _ => st

/-- An annotated assignment in the body of a class. -/
def annotateInClass (st : Analysis) (target : Target) (types : List String) : Analysis :=
  match st.current, target with
  | some name, .name id => (st.addAttribute name id).composeTypes name types
  | some name, .selfAttribute member => (st.addAttribute name member).composeTypes name types
  | _, _ => st

/-! ## Functions -/

/-- A call in a function of a class: a dependency, if a plain name is called and the call was not met
as an assigned value. -/
def dependOnCall (name : String) (st : Analysis) (call : CallSite) : Analysis :=
  match call.callee with
  | .name target =>
    if st.composed.contains call.id then st else st.relate name target .dependency
  | _ => st

/-- Calls in a function of a class. -/
def dependOnCalls (st : Analysis) (name : String) (calls : List CallSite) : Analysis :=
  calls.foldl (dependOnCall name) st

mutual

/-- Everything inside of a function of a class, at any depth. -/
def walk (name : String) : Outline → Analysis → Analysis
  | .classDef _ _ _ calls body, st => walkAll name body (st.dependOnCalls name calls)
  | .function _ _ calls body, st => walkAll name body (st.dependOnCalls name calls)
  | .assign targets value calls, st => (st.assignInFunction targets value).dependOnCalls name calls
  | .annAssign target types calls, st =>
    (st.annotateInFunction target types).dependOnCalls name calls
  | .other calls body, st => walkAll name body (st.dependOnCalls name calls)

/-- Everything inside of several statements. -/
def walkAll (name : String) : List Outline → Analysis → Analysis
  | [], st => st
  | o :: rest, st => walkAll name rest (walk name o st)

end

/-- The types of the parameters of `__init__`. -/
def dependOnTypes (st : Analysis) (name : String) (types : List String) : Analysis :=
  types.foldl (fun st t => st.relate name t .dependency) st

/-- A function definition. -/
def visitFunction (st : Analysis) (function : String) (types : List String) (calls : List CallSite)
    (body : List Outline) : Analysis :=
  match st.current with
  | none => st
  | some name =>
    let st := { st with
      graph := st.graph.modifyNode name (·.addFunction { name := function }) }
    let st := if function = "__init__" then st.dependOnTypes name types else st
    walkAll name body (st.dependOnCalls name calls)

/-! ## Visits -/

mutual

/-- Visits a statement. -/
def visit (config : Document) : Outline → Analysis → Analysis × Option Fault
  | .classDef name decorators bases _ body, st =>
    match openClass config name decorators bases st.printed with
    | (.error fault, printed) => ({ st with printed := printed }, some fault)
    | (.ok none, printed) => ({ st with printed := printed }, none)
    | (.ok (some node), printed) =>
      match visitAll config body (enterClass { st with printed := printed } node bases) with
      | (st, some fault) => (st, some fault)
      | (st, none) => ({ st with current := none }, none)
  | .function name types calls body, st => (st.visitFunction name types calls body, none)
  | .assign targets value _, st => (st.assignInClass targets value, none)
  | .annAssign target types _, st => (st.annotateInClass target types, none)
  | .other _ body, st => visitAll config body st

/-- Visits statements in turn, up to the first fault. -/
def visitAll (config : Document) : List Outline → Analysis → Analysis × Option Fault
  | [], st => (st, none)
  | o :: rest, st =>
    match visit config o st with
    | (st, some fault) => (st, some fault)
    | (st, none) => visitAll config rest st

end

/-! ## Single rules -/

/-- A rule that can be applied on its own to a statement of its kind. -/
inductive Rule where
  | assignInClass
  | assignInFunction
  | annotateInClass
  | annotateInFunction
  | parameterTypes
  | function

/-- The types of the parameters of a function: without a current class there is nothing that could
depend on them. -/
def dependOnParameters (st : Analysis) (types : List String) : Analysis × Option Fault :=
  match st.current with
  | some name => (st.dependOnTypes name types, none)
  | none => (st, if types.isEmpty then none else some .noCurrentClass)

/-- Applies a rule; a statement of another kind changes nothing. -/
def apply (st : Analysis) : Rule → Outline → Analysis × Option Fault
  | .assignInClass, .assign targets value _ => (st.assignInClass targets value, none)
  | .assignInFunction, .assign targets value _ => (st.assignInFunction targets value, none)
  | .annotateInClass, .annAssign target types _ => (st.annotateInClass target types, none)
  | .annotateInFunction, .annAssign target types _ => (st.annotateInFunction target types, none)
  | .parameterTypes, .function _ types _ _ => st.dependOnParameters types
  | .function, .function name types calls body => (st.visitFunction name types calls body, none)
  | _, _ => (st, none)

/-- Makes a class the current one; one that is not known yet is added. -/
def setCurrent (st : Analysis) : Option String → Analysis
  | none => { st with current := none }
  | some name =>
    let graph := if st.graph.hasNode name then st.graph else st.graph.addNode { name := name }
    { st with graph := graph, current := some name }

/-! ## Two passes -/

/-- Visits statements twice: in the second pass all classes are known. -/
def visitTwice (config : Document) (outlines : List Outline) (st : Analysis) :
    Analysis × Option Fault :=
  match visitAll config outlines st with
  | (st, some fault) => (st, some fault)
  | (st, none) => visitAll config outlines st

end Analysis

end ClassAtlas
