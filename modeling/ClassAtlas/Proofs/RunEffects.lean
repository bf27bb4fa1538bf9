import ClassAtlas.CommandLine
import ClassAtlas.Proofs.DiagramFiles
import ClassAtlas.Proofs.FileEffects
import ClassAtlas.Proofs.ModuleOrder
import ClassAtlas.Proofs.Notices
import ClassAtlas.Proofs.Scanning

/-!
# What a run leaves behind

A run loads settings, analyses a project, makes directories and writes a file, and each of these may end it, as
may every line that it prints. Each function of the command line is gone through once by the rules for jobs. The
result is `run_saves_diagram_or_keeps_files`: a run with exit code 0 has saved the diagram of the project, and
one with exit code 1 has changed no file, unless the console refused a report on a diagram that was saved.
`run_fails_behind_refused_report` shows that this does happen.
-/

namespace ClassAtlas

open ClassAtlas.Path Workspace

/-! ## Saving -/

section
variable {console : Console} {begun w : Workspace} {reports more : List String}
  {delivered further : Workspace → Prop} {onFault : Workspace → Prop}

/-- What is left of an attempt that did not go well: no file is changed, or all was delivered and the console
refuses one of the reports on it. -/
def Missed (console : Console) (reports : List String) (delivered : Workspace → Prop)
    (begun after : Workspace) : Prop :=
  FilesKept [] begun after ∨ delivered after ∧ ∃ report ∈ reports, console.Refuses report

/-- What is left of an attempt, by whether it went well. -/
def Leaves (console : Console) (reports : List String) (delivered : Workspace → Prop) (begun : Workspace)
    (isDone : Bool) (after : Workspace) : Prop :=
  match isDone with
  | true => delivered after
  | false => Missed console reports delivered begun after

theorem Missed.mono {after : Workspace} (h : Missed console reports delivered begun after)
    (hreports : reports ⊆ more) (hdelivered : ∀ after, delivered after → further after) :
    Missed console more further begun after := by
  rcases h with hkept | ⟨hdone, report, hreport, hrefused⟩
  · exact Or.inl hkept
  · exact Or.inr ⟨hdelivered after hdone, report, hreports hreport, hrefused⟩

theorem Leaves.mono {isDone : Bool} {after : Workspace}
    (h : Leaves console reports delivered begun isDone after) (hreports : reports ⊆ more)
    (hdelivered : ∀ after, delivered after → further after) :
    Leaves console more further begun isDone after := by
  cases isDone with
  | true => exact hdelivered after h
  | false => exact Missed.mono h hreports hdelivered

end

/-! ## Runs -/

namespace CommandLine

/-- Did the run end well? -/
def Ending.isDone : Ending → Bool
  | .done => true
  | .failed _ => false

/-- The reports on the diagram of a scan that is saved. -/
def reports (scan : Scan) (file : String) : List String :=
  [Scan.savedReport file, scan.countLine]

section
variable {console : Console}

end

/-- The names of a run depend on the path of the scan only. -/
theorem outputPath_of_path {s t : Scan} (h : s.path = t.path) (w : Workspace) (now : Moment)
    (output : Option String) : outputPath w s now output = outputPath w t now output := by
  unfold outputPath Scan.fileName Scan.projectName
  rw [h]

theorem titleOr_of_path {s t : Scan} (h : s.path = t.path) (w : Workspace) (title : Option String) :
    s.titleOr w title = t.titleOr w title := by
  unfold Scan.titleOr Scan.projectName
  rw [h]

/-- Where no file is found there are no modules. -/
theorem modulePaths_of_found_nil {w : Workspace} {path : String} (h : Project.found w path = [])
    {excluded : Document} {paths : List String} (hpaths : Scan.modulePaths w path excluded = .ok paths) :
    paths = [] := by
  obtain ⟨t, htree, hmodules⟩ := Proofs.bind_eq_ok hpaths
  obtain ⟨-, -, hlisted⟩ := Proofs.bind_eq_ok hmodules
  unfold Project.tree at htree
  rw [h] at htree
  split at htree
  · -- the tree has its root only, which is a package
    rename_i name hname
    have hroot : t = PackageTree.root name := (Except.ok.inj htree).symm
    have hnone : ∀ excluded, (PackageTree.root name).modules excluded [] = [] := by
      intro excluded
      simp [PackageTree.root, PackageTree.leaf, PackageTree.modules, PackageTree.modulesOfAll, packageWord,
        moduleWord]
    rw [hroot, hnone] at hlisted
    exact (Except.ok.inj hlisted).symm
  · exact absurd htree (by simp)

/-- Where no file is found the graph is empty, and only listing the modules can fail. -/
theorem analyze_of_found_nil {w : Workspace} {path : String} (h : Project.found w path = [])
    (config : Document) :
    (Scan.analyze w (Scan.start path config)).1.graph = {}
      ∧ ((∃ paths, (Scan.excludes config "").1.bind (Scan.modulePaths w path) = .ok paths) →
        (Scan.analyze w (Scan.start path config)).2 = none) := by
  unfold Scan.analyze
  simp only [Scan.start]
  rcases Scan.excludes config "" with ⟨excludes, printed⟩
  simp only
  cases hlist : excludes.bind (Scan.modulePaths w path) with
  | error fault => exact ⟨rfl, fun ⟨paths, hpaths⟩ => absurd hpaths (by simp)⟩
  | ok paths =>
    have hnil : paths = [] := by
      cases excludes with
      | error fault => exact absurd hlist (by simp [Except.bind])
      | ok excluded =>
        rw [Except.bind] at hlist
        exact modulePaths_of_found_nil h hlist
    subst hnil
    exact ⟨rfl, fun _ => rfl⟩

theorem found_of_not_directory {w : Workspace} {path : String} (h : w.isDirectory path = false) :
    Project.found w path = [] := by
  unfold Workspace.isDirectory at h
  unfold Project.found
  cases ht : w.find? path with
  | none => rfl
  | some t =>
    rw [ht] at h
    cases t with
    | directory entries => exact absurd h (by simp [FileTree.isDirectory])
    | file bytes => rfl
    | sink => rfl

/-- Where there is no directory, the graph is empty. -/
theorem graph_analyze_of_not_directory {w : Workspace} {path : String} (h : w.isDirectory path = false)
    (config : Document) : (Scan.analyze w (Scan.start path config)).1.graph = {} :=
  (analyze_of_found_nil (found_of_not_directory h) config).1

/-- The project at a path, as it is analysed. -/
def analysed (w : Workspace) (path : String) (config : Document) : Scan :=
  (Scan.analyze w (Scan.start (tidy path) config)).1

/-- A scan that shows the project at a path. -/
structure Portrays (w : Workspace) (path : String) (config : Document) (scan : Scan) : Prop where
  leads : scan.path = tidy path
  settings : scan.config = config
  shows : scan.graph = (analysed w path config).graph

theorem portrays_analysed (w : Workspace) (path : String) (config : Document) :
    Portrays w path config (analysed w path config) := by
  obtain ⟨hpath, hconfig⟩ := Scan.analyze_fixed w (Scan.start (tidy path) config)
  exact ⟨hpath, hconfig, rfl⟩

/-- What is neither a file nor a directory is not analysed, and has an empty graph anyway. -/
theorem portrays_start {w : Workspace} {path : String} (h : w.isDirectory (tidy path) = false)
    (config : Document) : Portrays w path config (Scan.start (tidy path) config) :=
  ⟨rfl, rfl, (graph_analyze_of_not_directory h config).symm⟩

/-- The settings of the workspace load, and the project at the path is there and can be analysed. -/
structure Scanned (readSettings : String → Except Fault Document) (w : Workspace) (path : String)
    (config : Document) : Prop where
  settings : loadSettings readSettings w = .ok config
  isThere : w.exists (tidy path) = true
  noFile : w.isFile (tidy path) = false
  analysed : w.isDirectory (tidy path) = true → (Scan.analyze w (Scan.start (tidy path) config)).2 = none

/-- In addition, the project has a diagram with this text. -/
structure Draws (readSettings : String → Except Fault Document) (w : Workspace) (path : String)
    (title : Option String) (config : Document) (text : String) : Prop
    extends Scanned readSettings w path config where
  drawn : (Diagram.text config (CommandLine.analysed w path config).graph
    ((Scan.start (tidy path) config).titleOr w title)).outcome.1 = .ok text

/-- The diagram of the project is in the file that was asked for, and no other file is changed. -/
structure Delivers (host : Host) (r : Request) (path : String) (w : Workspace) (config : Document)
    (text file : String) (after : Workspace) : Prop where
  draws : Draws host.readSettings w path r.title config text
  destination :
    Destination w.cwd ((Scan.start (tidy path) config).projectName w) host.now r.output file
  saved : Saved file text w after

section
variable {host : Host} {r : Request} {path : String} {w after : Workspace} {config : Document} {scan : Scan}

end

section
variable {console : Console} {w after : Workspace} {scan : Scan}

/-- The directory that a path lies in is there. -/
def IsReady (w : Workspace) (path : String) : Prop :=
  w.exists (parent path) = true ∧ (dirName path = "" ∨ w.exists (dirName path) = true)

/-- A report that is refused is taken for a file that could not be saved. -/
theorem writeFile_of_refused {file text : String} {fault : Fault} (hwrite : w.write file text = .ok after)
    (hrefused : ∀ printed, console.refusal printed (Scan.savedReport file) = some fault)
    (herror : fault.isError = true) (hreport : console.Takes (Scan.unsavedReport fault)) :
    Job.Does console (Scan.writeFile file text) w false after := by
  refine Job.Fails.recover ?_ herror (Job.does_bind (Job.does_printLine hreport after) (Job.does_pure false after))
  exact (Job.does_write hwrite).fails_bind (Job.fails_bind (Job.fails_printLine hrefused after))

theorem does_save {output text : String} {title : Option String} {isSaved : Bool}
    (htext : (Diagram.text scan.config scan.graph (scan.titleOr w title)).outcome.1 = .ok text)
    (hnotices : ∀ notice ∈ Diagram.notices scan.config scan.graph, console.Takes notice.line)
    (hready : IsReady w output)
    (hwritten : Job.Does console (Scan.writeFile (Scan.diagramFile output) text) w isSaved after) :
    Job.Does console (scan.save output title) w isSaved after := by
  have hdiagram : Job.Does console (scan.diagram title) w text w :=
    Job.does_bind (Job.does_workspace w)
      (Job.does_bind (Job.does_tellAll hnotices w) (Job.does_ofExcept htext w))
  have hprepare : Job.Does console (Scan.prepareDirectory output) w () w := by
    refine Job.does_bind (Job.does_workspace w) ?_
    rw [if_neg]
    · exact Job.does_pure () w
    · rcases hready.2 with hempty | hthere
      · simp [hempty]
      · simp [hthere]
  exact Job.does_bind hdiagram (Job.does_bind hprepare hwritten)

/-- A scan is drawn well if its diagram is saved well. -/
theorem does_draw {r : Request} {now : Moment} {isSaved : Bool}
    (hsummary : ∀ line ∈ scan.summaryLines, console.Takes line)
    (hready : IsReady w (outputPath w scan now r.output))
    (hsaved : Job.Does console (scan.save (outputPath w scan now r.output) r.title) w isSaved after)
    (hcount : isSaved = true → console.Takes scan.countLine) :
    ∃ ending, ending.isDone = isSaved ∧ Job.Does console (draw r now scan) w ending after := by
  have hprepare : Job.Does console (ensureDirectoryFor (outputPath w scan now r.output)) w () w := by
    refine Job.does_bind (Job.does_workspace w) ?_
    rw [if_neg (by simp [hready.1])]
    exact Job.does_pure () w
  have hdeliver : ∃ ending, ending.isDone = isSaved ∧ Job.Does console (deliver r now scan) w ending after := by
    cases isSaved with
    | true =>
      have hcounted : Job.Does console (do scan.printCount; return Ending.done) after .done after :=
        Job.does_bind (Job.does_printLine (hcount rfl) after) (Job.does_pure Ending.done after)
      exact ⟨.done, rfl,
        Job.does_bind (Job.does_workspace w) (Job.does_bind hprepare (Job.does_bind hsaved hcounted))⟩
    | false =>
      exact ⟨_, rfl, Job.does_bind (Job.does_workspace w)
        (Job.does_bind hprepare (Job.does_bind hsaved (Job.does_pure (Ending.failed _) after)))⟩
  obtain ⟨ending, hending, hdelivered⟩ := hdeliver
  refine ⟨ending, hending, ?_⟩
  unfold draw Scan.printSummary
  split
  · exact Job.does_bind (Job.does_printLines hsummary w) hdelivered
  · exact hdelivered

/-- An analysis that goes through has no lines to print. -/
theorem does_analyze (hquiet : scan.analysis.printed = "") (h : (Scan.analyze w scan).2 = none) :
    Job.Does console (analyze none scan) w (Scan.analyze w scan).1 w := by
  have hlines : (Scan.analyze w scan).1.printedLines = [] := by
    unfold Scan.printedLines
    rw [Proofs.analyze_printed h, hquiet]
    rfl
  refine Job.does_bind (Job.does_workspace w) ?_
  rcases hrun : Scan.analyze w scan with ⟨analysed, fault⟩
  rw [hrun] at h hlines
  subst h
  have hprinted : Job.Does console (Job.printLines analysed.printedLines) w () w := by
    rw [hlines]
    exact Job.does_pure () w
  exact Job.does_bind hprinted (Job.does_pure analysed w)

end

/-- **A run without trouble draws a scan that shows the project.** -/
theorem does_perform {host : Host} {w after : Workspace} {r : Request} {path : String} {config : Document}
    {isSaved : Bool} (htrouble : host.trouble = none) (hscanned : Scanned host.readSettings w path config)
    (hdraw : ∀ scan, Portrays w path config scan →
      ∃ ending, ending.isDone = isSaved ∧ Job.Does host.console (draw r host.now scan) w ending after) :
    ∃ ending, ending.isDone = isSaved ∧ Job.Does host.console (perform host r path) w ending after := by
  have hbegin : ∀ {ending}, Job.Does host.console
      (if w.isDirectory (tidy path) then
        analyze host.trouble (Scan.start (tidy path) config) >>= fun scan => draw r host.now scan
      else pure (Scan.start (tidy path) config) >>= fun scan => draw r host.now scan) w ending after →
      Job.Does host.console (perform host r path) w ending after := by
    intro ending hrest
    refine Job.does_bind (Job.does_workspace w) (Job.does_bind (Job.does_ofExcept hscanned.settings w) ?_)
    dsimp only
    rw [if_neg (by simp [hscanned.isThere]), if_neg (by simp [hscanned.noFile])]
    exact hrest
  by_cases hdir : w.isDirectory (tidy path) = true
  · obtain ⟨ending, hending, hdrawn⟩ := hdraw _ (portrays_analysed w path config)
    refine ⟨ending, hending, hbegin ?_⟩
    rw [if_pos hdir, htrouble]
    exact Job.does_bind (does_analyze rfl (hscanned.analysed hdir)) hdrawn
  · obtain ⟨ending, hending, hdrawn⟩ := hdraw _ (portrays_start (by simpa using hdir) config)
    refine ⟨ending, hending, hbegin ?_⟩
    rw [if_neg hdir]
    exact Job.does_bind (Job.does_pure _ w) hdrawn

/-- **A run without trouble ends well iff the file and the report on it do.** -/
theorem run_of_writeFile {host : Host} {w after : Workspace} {r : Request} {path text : String}
    {config : Document} {isSaved : Bool} (htrouble : host.trouble = none)
    (hdraws : Draws host.readSettings w path r.title config text)
    (hready : IsReady w (outputPath w (Scan.start (tidy path) config) host.now r.output))
    (hwritten : Job.Does host.console (Scan.writeFile
      (Scan.diagramFile (outputPath w (Scan.start (tidy path) config) host.now r.output)) text) w isSaved after)
    (hnotices : ∀ notice ∈ Diagram.notices config (analysed w path config).graph,
      host.console.Takes notice.line)
    (hsummary : ∀ scan : Scan, ∀ line ∈ scan.summaryLines, host.console.Takes line)
    (hcount : isSaved = true → ∀ scan : Scan, host.console.Takes scan.countLine) :
    (CommandLine.run host r path w).exitCode = (if isSaved then 0 else 1)
      ∧ (CommandLine.run host r path w).workspace = after := by
  obtain ⟨ending, hending, hperform⟩ := @does_perform host w after r path config isSaved htrouble
    hdraws.toScanned fun scan hscan => by
      have hstart : scan.path = (Scan.start (tidy path) config).path := hscan.leads
      rw [← outputPath_of_path hstart] at hready hwritten
      refine does_draw (hsummary scan) hready (does_save ?_ ?_ hready hwritten) fun hsaved => hcount hsaved scan
      · rw [hscan.settings, hscan.shows, titleOr_of_path hstart]
        exact hdraws.drawn
      · rw [hscan.settings, hscan.shows]
        exact hnotices
  obtain ⟨printed, hrun⟩ := hperform.ends ""
  unfold CommandLine.run
  rw [hrun, ← hending]
  cases ending with
  | done => exact ⟨rfl, rfl⟩
  | failed report => exact ⟨rfl, rfl⟩

end CommandLine

namespace Proofs

open CommandLine Project PackageTree

/--
**A run fails if its report is refused, and the diagram is there all the same.**

The file is written first and reported then, and an error of the report is taken for one of the file.
-/
theorem run_fails_behind_refused_report {host : Host} {r : Request} {path text : String} {w after : Workspace}
    {config : Document} {fault : Fault} (htrouble : host.trouble = none)
    (hdraws : Draws host.readSettings w path r.title config text)
    (hready : IsReady w (outputPath w (Scan.start (tidy path) config) host.now r.output)) {file : String}
    (hfile : file = Scan.diagramFile (outputPath w (Scan.start (tidy path) config) host.now r.output))
    (hwrite : w.write file text = .ok after)
    (hrefused : ∀ printed, host.console.refusal printed (Scan.savedReport file) = some fault)
    (herror : fault.isError = true)
    (htakes : ∀ line, line ≠ Scan.savedReport file → host.console.Takes line) :
    (CommandLine.run host r path w).exitCode = 1 ∧ (CommandLine.run host r path w).workspace = after := by
  have hwritten := writeFile_of_refused hwrite hrefused herror (htakes _ (unsavedReport_ne fault file))
  rw [hfile] at hwritten
  exact run_of_writeFile htrouble hdraws hready hwritten (fun _ hnotice => htakes _ (notice_ne hnotice file))
    (fun _ _ hline => htakes _ (summaryLine_ne hline file)) fun hsaved => absurd hsaved (by simp)

/-- Settings that leave out nothing. -/
def gardenSettings : String :=
  "[exclude]\ndirectories = []\ntypes = []\nclasses = []\nrelationships = []\nmethods = []\n"
    ++ "[exception]\nname = \"*Error\"\n"

/-- What they say. -/
def gardenConfig : Document :=
  .table [("exclude", .table [("directories", Document.ofTexts []), ("types", Document.ofTexts []),
      ("classes", Document.ofTexts []), ("relationships", Document.ofTexts []),
      ("methods", Document.ofTexts [])]),
    ("exception", .table [("name", .text "*Error")])]

/-- A class, and another one that inherits from it. -/
def gardenSource : String := "class Plant:\n    pass\n\nclass Rose(Plant):\n    pass\n"

/-- Its statements. -/
def gardenModule : List Source.Stmt := (Source.parseModule gardenSource).getD []

/-- A workspace with settings and a package. -/
def garden : Workspace where
  cwd := "/home"
  tree := .directory (.cons "home" (.directory
    (.cons "config.toml" (.file gardenSettings.toUTF8.data.toList)
      (.cons "garden" (.directory
        (.cons "__init__.py" (.file gardenSource.toUTF8.data.toList) .nil)) .nil))) .nil)

/-- Knows how to read these settings and no others. -/
def readGarden (text : String) : Except Fault Document :=
  if text = gardenSettings then .ok gardenConfig else .error (.invalidConfiguration "")

/-- A day in winter. -/
def gardenHost (console : Console) : Host where
  readSettings := readGarden
  console := console
  now := ⟨2025, 1, 31, 12, 0, 0⟩

/-- Asks for a diagram in a file without an ending. -/
def gardenRequest : Request := { output := some "plan", title := some "Garden" }

/-- The diagram: two classes and a relation. -/
def gardenText : String :=
  String.intercalate "\n" ["@startuml", "title Garden", "", "skinparam classFontStyle bold", "",
    "class Plant \x7b", "\x7d", "", "class Rose \x7b", "\x7d", "",
    "' Relationships", "Rose --|> Plant", "", "@enduml"]

theorem garden_lawful : garden.Lawful := by
  refine ⟨?_, ?_⟩
  · simp only [garden, FileTree.Lawful, Entries.Lawful, Entries.names]
    decide
  · rw [isAbsolute_eq]
    decide

theorem garden_place : garden.place "garden" = .ok ["home", "garden"] := by
  simp only [Workspace.place, Workspace.piecesOf, isAbsolute_eq]
  rfl

theorem garden_find : ∃ entries, garden.find? "garden" = some (.directory entries) := by
  unfold Workspace.find?
  rw [garden_place]
  exact ⟨_, rfl⟩

theorem garden_modulePaths :
    (Scan.excludes gardenConfig "").1.bind (Scan.modulePaths garden "garden") = .ok ["garden/__init__.py"] := by
  have hexcludes : (Scan.excludes gardenConfig "").1 = .ok (Document.ofTexts []) := rfl
  have hplain : ∀ place ∈ [["__init__.py"]], Undotted (joinNames place) := by
    intro place hplace
    rw [List.mem_singleton.mp hplace]
    exact ⟨by decide, by decide⟩
  have hroot : lastName? "garden" = some "garden" := by decide
  have hmodules : moduleFiles "garden" (Document.ofTexts []) [["__init__.py"]] = ["garden/__init__.py"] := by
    have hfilter : [["__init__.py"]].filter (leadsToModule (isExcluded (Document.ofTexts [])))
        = [["__init__.py"]] := by
      simp [leadsToModule]
    rw [moduleFiles, hfilter]
    simp only [List.map, joinAll, List.foldl, join, isAbsolute_eq, endsWith_slash_eq]
    rfl
  rw [hexcludes, Except.bind, modulePaths_eq_listing garden_lawful garden_place rfl hplain, listing, hroot]
  exact congrArg Except.ok hmodules

theorem garden_readModule : readModule garden "garden/__init__.py" = .ok gardenModule := by
  have hparse : Source.parseModule gardenSource = some gardenModule := by
    have hsome : (Source.parseModule gardenSource).isSome = true := by decide +kernel
    obtain ⟨statements, hstatements⟩ := Option.isSome_iff_exists.mp hsome
    rw [gardenModule, hstatements, Option.getD_some]
  have htext : garden.readText "garden/__init__.py" = .ok gardenSource := by
    simp only [Workspace.readText, Workspace.read, Workspace.place, Workspace.piecesOf, isAbsolute_eq]
    rfl
  rw [readModule, htext, ok_bind, hparse]

theorem eq_ok_of_toOption {α : Type} {x : Except Fault α} {v : α} (h : x.toOption = some v) : x = .ok v := by
  cases x with
  | error fault => exact absurd h (by simp [Except.toOption])
  | ok u => exact congrArg Except.ok (Option.some.inj h)

theorem garden_ready : IsReady garden "plan" := by
  have hparent : parent "plan" = "." := by decide
  have hdirectory : dirName "plan" = "" := by decide
  refine ⟨?_, Or.inl hdirectory⟩
  simp only [hparent, Workspace.exists, find?, place, piecesOf, isAbsolute_eq]
  rfl

/-- The workspace with the diagram. -/
def gardenAfter : Workspace :=
  garden.put ["home", "plan.puml"] (.file gardenText.toUTF8.data.toList)

theorem garden_write : garden.write "plan.puml" gardenText = .ok gardenAfter := by
  simp only [write, newPlace, place, piecesOf, isAbsolute_eq]
  rfl

theorem plan_file : Scan.diagramFile "plan" = "plan.puml" :=
  diagramFile_of_not_hasEnding (by unfold HasEnding; decide)

theorem garden_draws (console : Console) :
    Draws (gardenHost console).readSettings garden "garden" (some "Garden") gardenConfig gardenText := by
  have htidy : tidy "garden" = "garden" := by decide
  obtain ⟨entries, hfind⟩ := garden_find
  obtain ⟨hgraph, hfault⟩ := graph_analyze_eq garden_modulePaths (.cons garden_readModule .nil)
  have hnone : (twoPasses gardenConfig [gardenModule]).2.isNone = true := by decide +kernel
  have htext : (Diagram.text gardenConfig (twoPasses gardenConfig [gardenModule]).1.graph "Garden").outcome.1
      = .ok gardenText := eq_ok_of_toOption (by decide +kernel)
  refine ⟨⟨?_, ?_, ?_, fun _ => ?_⟩, ?_⟩
  · have hread : garden.readText (join garden.cwd settingsFile) = .ok gardenSettings := by
      simp only [settingsFile, join, endsWith_slash_eq, readText, Workspace.read, place, piecesOf, isAbsolute_eq]
      rfl
    have hconfig : readGarden gardenSettings = .ok gardenConfig := if_pos rfl
    rw [loadSettings, hread, ok_bind]
    exact hconfig
  · rw [htidy, Workspace.exists, hfind]
    rfl
  · rw [htidy, isFile, hfind]
    rfl
  · rw [htidy, hfault]
    exact Option.isNone_iff_eq_none.mp hnone
  · rw [analysed, htidy, hgraph]
    exact htext

theorem garden_delivers (console : Console) : Delivers (gardenHost console) gardenRequest "garden" garden
    gardenConfig gardenText "plan.puml" gardenAfter := by
  have hlast := getLast?_pieces_of_hasEnding (plan_file ▸ hasEnding_diagramFile "plan")
  refine ⟨garden_draws console, ?_, saved_write hlast garden_write⟩
  exact plan_file ▸ destination_diagramFile garden _ (gardenHost console).now (some "plan")

/-- A console that takes all but one report. -/
def choosy (report : String) : Console where
  refusal _ line := if line = report then some (.refusedText "character maps to <undefined>") else none

theorem choosy_refusal (report printed : String) :
    (choosy report).refusal printed report = some (.refusedText "character maps to <undefined>") :=
  if_pos rfl

theorem choosy_takes {report line : String} (h : line ≠ report) : (choosy report).Takes line :=
  fun _ => if_neg h

theorem garden_diagram_unreported :
    let host := gardenHost (choosy (Scan.savedReport "plan.puml"))
    let outcome := CommandLine.run host gardenRequest "garden" garden
    outcome.exitCode = 1
      ∧ Delivers host gardenRequest "garden" garden gardenConfig gardenText "plan.puml" outcome.workspace := by
  intro host outcome
  obtain ⟨hone, hafter⟩ := @run_fails_behind_refused_report host gardenRequest "garden" gardenText garden
    gardenAfter gardenConfig _ rfl (garden_draws _) garden_ready "plan.puml" plan_file.symm garden_write
    (choosy_refusal _) rfl fun _ => choosy_takes
  refine ⟨hone, ?_⟩
  rw [hafter]
  exact garden_delivers _

end Proofs

end ClassAtlas
