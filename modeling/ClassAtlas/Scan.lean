import ClassAtlas.Analysis
import ClassAtlas.Diagram
import ClassAtlas.Project

/-!
# Scans

A scan analyses the project at a path and draws its class graph. The modules are visited one after the
other as they are read, and then all of them again. Drawing prints and saves the diagram; without a title
it is named after the project. All printing goes to a console, which may refuse a line.
-/

namespace ClassAtlas

/-! ## Jobs -/

/-- Where lines are printed. A line may be refused, by what was printed before it and by the line
itself. -/
structure Console where
  refusal : (printed line : String) → Option Fault

/-- A console that takes every line. -/
def Console.patient : Console :=
  ⟨fun _ _ => none⟩

/-- What a job works on. -/
structure Session where
  workspace : Workspace
  printed : String := ""

/-- Changes a workspace and prints on a console, and gives a result or ends in a fault. What was done
until then stays done. -/
abbrev Job := ReaderT Console (ExceptT Fault (StateM Session))

namespace Job

/-- Prints a line, if the console takes it. -/
def printLine (line : String) : Job Unit := fun console session =>
  match console.refusal session.printed line with
  | none => (.ok (), { session with printed := session.printed ++ line ++ "\n" })
  | some fault => (.error fault, session)

/-- Prints lines one after the other. -/
def printLines : List String → Job Unit
  | [] => pure ()
  | line :: rest => do
    printLine line
    printLines rest

/-- The workspace. -/
def workspace : Job Workspace :=
  return (← get).workspace

/-- Ends in a fault if there is one. -/
def ofExcept {α : Type} (r : Except Fault α) : Job α :=
  fun _ session => (r, session)

/-- Changes the workspace, also if that ends in a fault. -/
def change (f : Workspace → Workspace × Option Fault) : Job Unit := fun _ session =>
  match f session.workspace with
  | (w, none) => (.ok (), { session with workspace := w })
  | (w, some fault) => (.error fault, { session with workspace := w })

/-- Writes a text to a file. -/
def write (file text : String) : Job Unit := fun _ session =>
  match session.workspace.write file text with
  | .ok w => (.ok (), { session with workspace := w })
  | .error fault => (.error fault, session)

/-- Does a job, and if that ends in an error, goes on with another one from there. -/
def recover {α : Type} (body : Job α) (handler : Fault → Job α) : Job α := fun console session =>
  match body console session with
  | (.ok v, session) => (.ok v, session)
  | (.error fault, session) =>
    if fault.isError then handler fault console session else (.error fault, session)

/-- Prints a notice on drawing. -/
def tell : Diagram.Notice → Job Unit
  | .plain line => printLine line
  | .drawn r => recover (printLine (Diagram.drawnReport r)) fun fault =>
    printLine (Diagram.failureReport r fault)

/-- Prints notices one after the other. -/
def tellAll : List Diagram.Notice → Job Unit
  | [] => pure ()
  | notice :: rest => do
    tell notice
    tellAll rest

end Job

/-- A point in time. -/
structure Moment where
  year : Nat
  month : Nat
  day : Nat
  hour : Nat
  minute : Nat
  second : Nat

/-- A number in two digits. -/
def twoDigits (n : Nat) : String :=
  if n < 10 then "0" ++ toString n else toString n

/-- A moment as digits: the day, an underscore, the time. -/
def Moment.stamp (m : Moment) : String :=
  toString m.year ++ twoDigits m.month ++ twoDigits m.day ++ "_"
    ++ twoDigits m.hour ++ twoDigits m.minute ++ twoDigits m.second

/-- The analysis of the project at a path. -/
structure Scan where
  path : String
  config : Document
  analysis : Analysis := {}
  /-- How many calls have got an identity so far. -/
  calls : Nat := 0

namespace Scan

/-! ## Analysis -/

/-- The lines that an analysis printed. -/
def printedLines (s : Scan) : List String :=
  ((s.analysis.printed.toList.splitOn '\n').dropLast).map String.ofList

/-- The names of the packages to leave out. -/
def excludes (config : Document) : Action Document := do
  Action.ofExcept (Config.entry (← Config.get config "exclude") "directories")

/-- Reads modules one after the other and visits each; gives all that was visited. -/
def visitModules (w : Workspace) : List String → Scan → List Outline →
    Scan × List Outline × Option Fault
  | [], s, visited => (s, visited, none)
  | path :: rest, s, visited =>
    match Project.readModule w path with
    | .error fault => (s, visited, some fault)
    | .ok statements =>
      let (outlines, calls) := Outline.ofStmts s.calls statements
      match s.analysis.visitAll s.config outlines with
      | (analysis, fault) =>
        let s := { s with analysis := analysis, calls := calls }
        match fault with
        | some fault => (s, visited, some fault)
        | none => visitModules w rest s (visited ++ outlines)

/-- The paths of the modules to visit. -/
def modulePaths (w : Workspace) (path : String) (excludes : Document) : Except Fault (List String) := do
  Project.modulePaths path excludes (← Project.tree w path)

/-- Analyses the project. What was done before a fault stays done. -/
def analyze (w : Workspace) (s : Scan) : Scan × Option Fault :=
  let (excludes, printed) := excludes s.config s.analysis.printed
  let s := { s with analysis := { s.analysis with printed := printed } }
  match excludes.bind (modulePaths w s.path) with
  | .error fault => (s, some fault)
  | .ok paths =>
    match visitModules w paths s [] with
    | (s, _, some fault) => (s, some fault)
    | (s, outlines, none) =>
      let (analysis, fault) := s.analysis.visitAll s.config outlines
      ({ s with analysis := analysis }, fault)

/-- The class graph. -/
def graph (s : Scan) : ClassGraph := s.analysis.graph

/-! ## Drawing -/

/-- The name of the project: the last name of its absolute path. -/
def projectName (w : Workspace) (s : Scan) : String :=
  Path.baseName (Path.absolute w.cwd s.path)

/-- The title of the diagram. -/
def titleOr (w : Workspace) (s : Scan) (title : Option String) : String :=
  title.getD (s.projectName w ++ " Class Diagram")

/-- The text of the diagram. -/
def diagram (s : Scan) (title : Option String) : Job String := do
  let w ← Job.workspace
  Job.tellAll (Diagram.notices s.config s.graph)
  Job.ofExcept (Diagram.text s.config s.graph (s.titleOr w title)).outcome.1

/-- The file that a diagram is saved to: the path with an ending, unless it has one. -/
def diagramFile (path : String) : String :=
  if path.endsWith ".puml" || path.endsWith ".plantuml" then path else path ++ ".puml"

/-- Makes the directory that a path lies in, unless it is there. -/
def prepareDirectory (path : String) : Job Unit := do
  let directory := Path.dirName path
  if directory != "" && !(← Job.workspace).exists directory then
    Job.change (·.makeDirectories directory)

/-- The report on a file that is saved. -/
def savedReport (file : String) : String :=
  "PlantUML 다이어그램이 성공적으로 저장되었습니다: " ++ file

/-- The report on a file that could not be saved. -/
def unsavedReport (fault : Fault) : String :=
  "파일 저장 중 오류 발생: " ++ fault.message

/-- Writes a text to a file and reports that, and tells whether both went well. -/
def writeFile (file text : String) : Job Bool :=
  Job.recover (do
      Job.write file text
      Job.printLine (savedReport file)
      return true)
    fun fault => do
      Job.printLine (unsavedReport fault)
      return false

/-- Saves the diagram, and tells whether that went well. -/
def save (s : Scan) (output : String) (title : Option String) : Job Bool := do
  let text ← s.diagram title
  prepareDirectory output
  writeFile (diagramFile output) text

/-- A line of equals signs. -/
def rule : String := String.ofList (List.replicate 60 '=')

/-- Prints the diagram, saves it if there is an output path, and gives its text. -/
def print (s : Scan) (output title : Option String) : Job String := do
  let text ← s.diagram title
  Job.printLine rule
  Job.printLine ("PlantUML Class Diagram for: " ++ s.path)
  Job.printLine rule
  Job.printLine text
  Job.printLine rule
  match output with
  | none | some "" => return text
  | some output =>
    if ← s.save output title then Job.printLine ("PlantUML file saved: " ++ output)
    else Job.printLine "Failed to save file."
    return text

/-- The name of the file for a diagram drawn at a moment. -/
def fileName (w : Workspace) (s : Scan) (now : Moment) : String :=
  s.projectName w ++ "_" ++ now.stamp ++ ".puml"

/-! ## Reports -/

/-- How many classes and relations there are. -/
def countLine (s : Scan) : String :=
  if s.graph.nodes.isEmpty then "Warning: No classes found. Please check the path."
  else "Total " ++ toString s.graph.nodes.length ++ " classes and "
    ++ toString s.graph.relations.length ++ " relations found."

/-- Counts one more of a kind; kinds stand in the order in which they were first counted. -/
def tally (kind : RelationKind) : List (RelationKind × Nat) → List (RelationKind × Nat)
  | [] => [(kind, 1)]
  | (other, n) :: rest =>
    if other = kind then (other, n + 1) :: rest else (other, n) :: tally kind rest

/-- The summary of the analysis. -/
def summaryLines (s : Scan) : List String :=
  let nodes := s.graph.nodes
  let relations := s.graph.relations
  ["Analysis completed!", "- Found " ++ toString nodes.length ++ " classes",
    "- Found " ++ toString relations.length ++ " relations"]
  ++ (if nodes.isEmpty then [] else
    "- Class list:" :: (Ordered.insertAll nameBefore s.graph.names []).map ("  * " ++ ·))
  ++ (if relations.isEmpty then [] else
    "- Relation list:" :: (relations.foldl (fun counts r => tally r.kind counts) []).map
      fun (kind, n) => "  * " ++ kind.word ++ ": " ++ toString n ++ "개")
  ++ [String.ofList (List.replicate 40 '-')]

/-- Prints the summary of the analysis. -/
def printSummary (s : Scan) : Job Unit :=
  Job.printLines s.summaryLines

/-- Prints how many classes and relations there are. -/
def printCount (s : Scan) : Job Unit :=
  Job.printLine s.countLine

end Scan

end ClassAtlas
