import ClassAtlas.ClassGraph.Basic
import ClassAtlas.Config
import ClassAtlas.Visibility

/-!
# Diagrams

A class graph as PlantUML text: a block for every class and a line for every relation that the
configuration does not leave out. Three lists in the table `exclude` decide: `classes` holds kinds of
classes, `relationships` kinds of relations, and `methods` may hold the word `magic`.

What the configuration says about classes and methods has to be well-formed, or there is no diagram. A
relation of which it cannot be told whether it is left out is reported on the console and left out.
-/

namespace ClassAtlas.Diagram

open ClassAtlas.Text

/-! ## Classes -/

/-- The fields of a function in short: at most two, or the first and dots. -/
def fieldText (fields : List String) : String :=
  match fields with
  | [] => ""
  | [a] => a
  | [a, b] => a ++ ", " ++ b
  | a :: _ => a ++ ", ..."

/-- The line that opens the block of a class. -/
def headLine (node : ClassNode) : String :=
  match node.kind with
  | .enumeration => "enum " ++ node.name ++ " \x7b"
  | .abstract => "abstract class " ++ node.name ++ " \x7b"
  | .dataclass => "class " ++ node.name ++ " << (D,#FFDD55) >> \x7b"
  | .exception => "exception " ++ node.name ++ " \x7b"
  | .plain => "class " ++ node.name ++ " \x7b"

/-- The line of an attribute. -/
def attributeLine (name : String) : String :=
  "  " ++ Visibility.symbol name

/-- The line of a function. -/
def functionLine (f : Method) : String :=
  "  " ++ Visibility.symbol f.name ++ "(" ++ fieldText (f.fields.getD []) ++ ")"

/-- The line of a function, if it is shown. -/
def shownFunction (exclude : Document) (f : Method) : Except Fault (Option String) := do
  let methods ← Config.entry exclude "methods"
  let skipsMagic ← Config.holds methods "magic"
  return if skipsMagic && Visibility.isMagic f.name then none else some (functionLine f)

/-- The lines of the block of a class. -/
def classLines (exclude : Document) (node : ClassNode) : Except Fault (List String) := do
  let functions ← (node.functions.getD []).mapM (shownFunction exclude)
  return headLine node :: (node.attributes.getD []).map attributeLine
    ++ functions.filterMap id ++ ["\x7d"]

/-- Is the kind of a class left out? An empty value leaves out nothing. -/
def leavesOut (excluded : Document) (word : String) : Except Fault Bool :=
  if excluded.isYes then Config.holds excluded word else .ok false

/-- The lines of all blocks, each with an empty line behind it. -/
def allClassLines (exclude classes : Document) : List ClassNode → Except Fault (List String)
  | [] => .ok []
  | node :: rest => do
    if ← leavesOut classes node.kind.word then allClassLines exclude classes rest
    else
      let lines ← classLines exclude node
      return lines ++ "" :: (← allClassLines exclude classes rest)

/-! ## Relations -/

/-- The arrow of a kind of relation. -/
def arrow : RelationKind → String
  | .inheritance => "--|>"
  | .composition => "*--"
  | .dependency => "..>"
  | _ => "--"

/-- The line of a relation. -/
def relationLine (r : Relation) : String :=
  r.source ++ " " ++ arrow r.kind ++ " " ++ r.target

/-- The word for the kind of a class, by its name. -/
def kindWord (g : ClassGraph) (name : String) : Except Fault String :=
  match g.node? name with
  | some node => .ok node.kind.word
  | none => .error (.missingKey name)

/-- Is an end of the relation left out? The target is looked at only if the source is not. -/
def endLeftOut (g : ClassGraph) (classes : Document) (r : Relation) : Except Fault Bool := do
  if classes.isYes then
    if ← Config.holds classes (← kindWord g r.source) then return true
    else Config.holds classes (← kindWord g r.target)
  else return false

/-- Is the relation shown? -/
def showsRelation (g : ClassGraph) (exclude classes : Document) (r : Relation) :
    Except Fault Bool := do
  if ← endLeftOut g classes r then return false
  else
    let kinds ← Config.entry exclude "relationships"
    return !(← leavesOut kinds r.kind.word)

/-- The name of a kind of relation in reports. -/
def kindLabel : RelationKind → String
  | .inheritance => "INHERITANCE"
  | .composition => "COMPOSITION"
  | .aggregation => "AGGREGATION"
  | .association => "ASSOCIATION"
  | .dependency => "DEPENDENCY"
  | .realization => "REALIZATION"

/-- A relation in a report. -/
def reportText (r : Relation) : String :=
  "source=" ++ quoted r.source ++ " target=" ++ quoted r.target ++ " type_=<RelationType."
    ++ kindLabel r.kind ++ ": '" ++ r.kind.word ++ "'>"

/-- The report on a relation that is drawn. -/
def drawnReport (r : Relation) : String :=
  "관계 추가됨: " ++ relationLine r

/-- The report on a relation that something is wrong with. -/
def failureReport (r : Relation) (fault : Fault) : String :=
  "관계 생성 실패: " ++ fault.message ++ ", 관계: " ++ reportText r

/-- The lines of the relations that are shown, and what is printed about each. -/
def relationLines (g : ClassGraph) (exclude classes : Document) :
    List Relation → List String × String
  | [] => ([], "")
  | r :: rest =>
    let (lines, printed) := relationLines g exclude classes rest
    match showsRelation g exclude classes r with
    | .ok true => (relationLine r :: lines, drawnReport r ++ "\n" ++ printed)
    | .ok false => (lines, printed)
    | .error fault => (lines, failureReport r fault ++ "\n" ++ printed)

/-! ## The whole text -/

/-- The first lines of a diagram. -/
def openingLines (title : String) : List String :=
  ["@startuml", "title " ++ title, "", "skinparam classFontStyle bold", ""]

/-- The title of a diagram that has none. -/
def defaultTitle : String := "Class Diagram"

/-- What is printed if there are no classes. -/
def noClassesWarning : String := "경고: 클래스가 발견되지 않았습니다!"

/-- What is printed if there are no relations. -/
def noRelationsWarning : String := "경고: 관계가 발견되지 않았습니다!"

/-- The lines of a diagram. -/
def lines (config : Document) (g : ClassGraph) (title : String) : Action (List String) := do
  let exclude ← Config.get config "exclude"
  let classes ← Action.ofExcept (Config.entry exclude "classes")
  let blocks ← Action.ofExcept (allClassLines exclude classes g.nodes)
  let blocks ← if g.nodes.isEmpty then do
      Action.printLine noClassesWarning
      pure ["' No classes found"]
    else pure blocks
  let arrows ← if g.relations.isEmpty then do
      Action.printLine noRelationsWarning
      pure ["' No relationships found"]
    else do
      let (arrows, printed) := relationLines g exclude classes g.relations
      Action.print printed
      pure ("' Relationships" :: arrows)
  return openingLines title ++ blocks ++ arrows ++ ["", "@enduml"]

/-- The text of a diagram. -/
def text (config : Document) (g : ClassGraph) (title : String) : Action String := do
  return String.intercalate "\n" (← lines config g title)

/-! ## Notices

What drawing prints, line by line, for a console that may refuse a line. The report on a relation that is
drawn can be replaced by one that says that it failed; the relation is drawn all the same. -/

/-- A line that is printed while a diagram is drawn. -/
inductive Notice where
  | plain (line : String)
  /-- The report on a relation that is drawn. -/
  | drawn (r : Relation)

/-- The line of a notice. -/
def Notice.line : Notice → String
  | .plain line => line
  | .drawn r => drawnReport r

/-- The notice on a relation, if there is one. -/
def relationNotice (g : ClassGraph) (exclude classes : Document) (r : Relation) : Option Notice :=
  match showsRelation g exclude classes r with
  | .ok true => some (.drawn r)
  | .ok false => none
  | .error fault => some (.plain (failureReport r fault))

/-- The notices on what is drawn once the blocks of all classes are there. -/
def graphNotices (g : ClassGraph) (exclude classes : Document) : List Notice :=
  (if g.nodes.isEmpty then [.plain noClassesWarning] else [])
    ++ if g.relations.isEmpty then [.plain noRelationsWarning]
      else g.relations.filterMap (relationNotice g exclude classes)

/-- The notices on drawing a diagram. -/
def notices (config : Document) (g : ClassGraph) : List Notice :=
  match config.find? "exclude" with
  | none => [.plain missingKeyReport]
  | some exclude =>
    match Config.entry exclude "classes" with
    | .error _ => []
    | .ok classes =>
      match allClassLines exclude classes g.nodes with
      | .error _ => []
      | .ok _ => graphNotices g exclude classes

/-! ## Hints and reports -/

/-- One level for every class that others inherit from, and one for every class that inherits. -/
def levelHints (relations : List Relation) : List String :=
  let inheritance := relations.filter (·.kind = .inheritance)
  let parents := inheritance.map fun r => "!define " ++ r.target ++ "_LEVEL 1"
  let children := inheritance.map fun r => "!define " ++ r.source ++ "_LEVEL 2"
  Ordered.insertAll nameBefore (parents ++ children) []

/-- The names that a class node answers to, in reports. -/
def nodeMembers : List String :=
  ["Config", "add_attribute", "add_function", "annotations", "attributes", "construct", "copy",
   "dict", "external_module", "from_orm", "functions", "json", "module", "name", "parse_file",
   "parse_obj", "parse_raw", "schema", "schema_json", "set_abstract", "set_enum", "type_",
   "update_forward_refs", "validate"]

/-- A set of names in a report. -/
def setText : Option (List String) → String
  | none => "None"
  | some [] => "set()"
  | some names => quotedList "\x7b" "\x7d" names

/-- The report on one class. -/
def nodeReport (node : ClassNode) : List String :=
  ["노드: " ++ node.name,
   "  - 타입: <class 'pyclassanalyzer.network.classgraph.ClassNode'>",
   "  - 속성들: " ++ quotedList "[" "]" nodeMembers,
   "  - attributes: " ++ setText node.attributes,
   "  - functions: " ++ quotedList "[" "]" ((node.functions.getD []).map (·.name))]

/-- The report on the relation at a place, counted from one. -/
def relationReport (place : Nat) (r : Relation) : List String :=
  ["관계 " ++ toString place ++ ":", "  - 소스: " ++ r.source, "  - 타겟: " ++ r.target,
   "  - 타입: " ++ r.kind.word]

/-- Numbered reports on relations. -/
def relationReports (place : Nat) : List Relation → List String
  | [] => []
  | r :: rest => relationReport place r ++ relationReports (place + 1) rest

/-- A report on classes and relations, either of which may be unknown. -/
def report (nodes : Option (List ClassNode)) (relations : Option (List Relation)) : String :=
  let classPart := match nodes with
    | none => ["총 노드 수: nodes 속성 없음"]
    | some ns => ("총 노드 수: " ++ toString ns.length) :: ns.flatMap nodeReport
  let relationPart := match relations with
    | none => ["총 관계 수: relations 속성 없음"]
    | some rs =>
      let inheritance := rs.filter (·.kind = .inheritance)
      ("총 관계 수: " ++ toString rs.length) :: relationReports 1 rs
        ++ ["", "상속 관계 수: " ++ toString inheritance.length]
        ++ inheritance.map fun r => "  " ++ r.source ++ " --|> " ++ r.target
  String.join ((["=== ClassGraph 디버깅 정보 ==="] ++ classPart ++ [""] ++ relationPart).map
    (· ++ "\n"))

end ClassAtlas.Diagram
