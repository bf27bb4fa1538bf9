import ClassAtlas.Proofs.Additions
import ClassAtlas.Proofs.ModuleOrder
import ClassAtlas.Proofs.Scanning

/-!
# Files that are not meant to be modules

All files of a package are found, and whatever has a dot in its name is taken for a module. So a new file in
a package, whatever its kind, changes nothing as long as it is not opened; once it is opened, its content
decides whether there is a result at all. A file is not opened if its name has no dot, if it lies in a package
that is left out, or if a module in front of it stops the scan.
-/

namespace ClassAtlas

open ClassAtlas.Path

/-! ## Visiting modules -/

namespace Scan

theorem visitModules_congr {w w' : Workspace} {paths : List String}
    (h : ∀ path ∈ paths, Project.readModule w' path = Project.readModule w path) (s : Scan)
    (visited : List Outline) : visitModules w' paths s visited = visitModules w paths s visited := by
  induction paths generalizing s visited with
  | nil => rfl
  | cons path rest ih =>
    have hrest := ih fun p hp => h p (List.mem_cons_of_mem path hp)
    rw [visitModules, visitModules, h path List.mem_cons_self]
    simp only [hrest]

theorem visitModules_append (w : Workspace) (paths more : List String) (s : Scan) (visited : List Outline) :
    visitModules w (paths ++ more) s visited
      = match visitModules w paths s visited with
        | (s, visited, some fault) => (s, visited, some fault)
        | (s, visited, none) => visitModules w more s visited := by
  induction paths generalizing s visited with
  | nil => rfl
  | cons path rest ih =>
    rw [List.cons_append, visitModules, visitModules]
    cases Project.readModule w path with
    | error fault => rfl
    | ok statements =>
      simp only [ih]
      cases (s.analysis.visitAll s.config (Outline.ofStmts s.calls statements).1).2 with
      | none => rfl
      | some fault => rfl

/-- The first pass of a scan, unless the modules cannot be listed. -/
def firstPass (w : Workspace) (base : String) (config : Document) :
    Except Fault (Scan × List Outline × Option Fault) :=
  ((excludes config "").1.bind (modulePaths w base)).map fun paths =>
    visitModules w paths (start base config) []

/-- **A scan goes on from its first pass without looking at files.** -/
theorem analyze_eq_firstPass (w : Workspace) (base : String) (config : Document) :
    analyze w (start base config) = match firstPass w base config with
      | .error fault =>
        ({ start base config with analysis := { printed := (excludes config "").2 } }, some fault)
      | .ok (s, _, some fault) => (s, some fault)
      | .ok (s, outlines, none) =>
        ({ s with analysis := (s.analysis.visitAll s.config outlines).1 },
          (s.analysis.visitAll s.config outlines).2) := by
  unfold analyze firstPass
  rcases hfound : excludes config "" with ⟨_ | found, printed⟩
  · simp only [start, hfound]
    rfl
  · -- what is printed for a list that is found is nothing, so the pass begins where the scan began
    have hprinted : (excludes config "").2 = "" := Proofs.excludes_printed (congrArg Prod.fst hfound)
    rw [hfound] at hprinted
    subst hprinted
    simp only [start, hfound]
    cases hpaths : modulePaths w base found with
    | error fault => simp [Except.bind, Except.map, hpaths]
    | ok paths =>
      simp only [Except.bind, Except.map, hpaths]
      rcases visitModules w paths { path := base, config := config } [] with ⟨s, outlines, _ | fault⟩ <;> rfl

/-- What a scan ends in: a graph or a fault. -/
def outcome (w : Workspace) (base : String) (config : Document) : Except Fault ClassGraph :=
  match analyze w (start base config) with
  | (s, none) => .ok s.graph
  | (_, some fault) => .error fault

/-- A file is opened as a module: it is listed, and no module in front of it stops the scan. -/
def Opens (w : Workspace) (base : String) (config : Document) (file : String) : Prop :=
  ∃ excluded before after, (excludes config "").1 = .ok excluded
    ∧ modulePaths w base excluded = .ok (before ++ file :: after)
    ∧ (visitModules w before (start base config) []).2.2 = none

/-- A file that is opened and cannot be read stops the scan. -/
theorem outcome_of_opens {w : Workspace} {base : String} {config : Document} {file : String}
    (h : Opens w base config file) {fault : Fault} (hfile : Project.readModule w file = .error fault) :
    outcome w base config = .error fault := by
  obtain ⟨excluded, before, after, hexcluded, hpaths, hbefore⟩ := h
  have hpass : ∃ s outlines, firstPass w base config = .ok (s, outlines, some fault) := by
    unfold firstPass
    rw [hexcluded]
    simp only [Except.bind, hpaths, Except.map, visitModules_append]
    rcases hrun : visitModules w before (start base config) [] with ⟨s, outlines, _ | other⟩
    · exact ⟨s, outlines, by simp only [visitModules, hfile]⟩
    · rw [hrun] at hbefore
      exact absurd hbefore (by simp)
  obtain ⟨s, outlines, hpass⟩ := hpass
  unfold outcome
  rw [analyze_eq_firstPass, hpass]

/-- The first pass of a scan with a result goes through. -/
theorem firstPass_of_outcome {w : Workspace} {base : String} {config : Document} {graph : ClassGraph}
    (h : outcome w base config = .ok graph) :
    ∃ excluded paths, (excludes config "").1 = .ok excluded ∧ modulePaths w base excluded = .ok paths
      ∧ (visitModules w paths (start base config) []).2.2 = none := by
  unfold outcome at h
  rw [analyze_eq_firstPass, firstPass] at h
  cases hexcluded : (excludes config "").1 with
  | error fault => rw [hexcluded] at h; exact absurd h (by simp [Except.bind, Except.map])
  | ok excluded =>
    rw [hexcluded] at h
    cases hpaths : modulePaths w base excluded with
    | error fault => simp only [Except.bind, hpaths, Except.map] at h; exact absurd h (by simp)
    | ok paths =>
      refine ⟨excluded, paths, rfl, hpaths, ?_⟩
      simp only [Except.bind, hpaths, Except.map] at h
      rcases hrun : visitModules w paths (start base config) [] with ⟨s, outlines, _ | fault⟩
      · rfl
      · rw [hrun] at h
        exact absurd h (by simp)

end Scan

/-! ## Listing one file more -/

namespace Project

open PackageTree

/-- A file that is still there is read as before. -/
theorem readModule_of_keeps {w w' : Workspace} (h : w.tree.Keeps w'.tree) (hcwd : w'.cwd = w.cwd)
    {path : String} {place : List String} {f : FileTree} (hplace : w.place path = .ok place)
    (hthere : w.tree.get? place = some f) (hfile : f.isDirectory = false) :
    readModule w' path = readModule w path := by
  obtain ⟨u, hu, -, hsame⟩ := h place f hthere
  have hread : w'.read path = w.read path := by
    unfold Workspace.read
    rw [hplace, Workspace.place_of_keeps h hcwd hplace]
    simp only [hthere, hu, hsame hfile]
  unfold readModule Workspace.readText
  rw [hread]

/-- A file in the directory `d` of a project is a module of it: its name has a dot, and neither the root nor a
package on the way is left out. -/
structure Listed (base : String) (excludes : Document) (d : List String) (name : String) : Prop where
  root : ∃ root, lastName? base = some root ∧ isExcluded excludes root = false
  above : ∀ n ∈ d, isExcluded excludes n = false
  dotted : name.contains '.' = true

theorem leadsToModule_concat_iff {excluded : String → Bool} {d : List String} {name : String} :
    leadsToModule excluded (d ++ [name]) = true
      ↔ (∀ n ∈ d, excluded n = false) ∧ name.contains '.' = true := by
  simp [leadsToModule]

theorem moduleFiles_append (base : String) (excludes : Document) (places more : List (List String)) :
    moduleFiles base excludes (places ++ more)
      = moduleFiles base excludes places ++ moduleFiles base excludes more := by
  simp [moduleFiles]

theorem moduleFiles_concat_cons {base : String} {excludes : Document} {d : List String} {name : String}
    (h : Listed base excludes d name) (places : List (List String)) :
    moduleFiles base excludes ((d ++ [name]) :: places)
      = joinAll base (d ++ [name]) :: moduleFiles base excludes places := by
  simp [moduleFiles, List.filter_cons_of_pos (leadsToModule_concat_iff.mpr ⟨h.above, h.dotted⟩)]

theorem exists_of_mem_moduleFiles {base file : String} {excludes : Document} {places : List (List String)}
    (h : file ∈ moduleFiles base excludes places) : ∃ place ∈ places, file = joinAll base place := by
  obtain ⟨place, hplace, rfl⟩ := List.mem_map.mp h
  exact ⟨place, List.mem_of_mem_filter hplace, rfl⟩

/-- A file that is no module of the project does not show in the list. -/
theorem listing_of_not_listed {base : String} {excludes : Document} {d : List String} {name : String}
    (h : ¬ Listed base excludes d name) (before after : List (List String)) :
    listing base excludes (before ++ (d ++ [name]) :: after) = listing base excludes (before ++ after) := by
  unfold listing
  cases hroot : lastName? base with
  | none => rfl
  | some root =>
    cases hexcluded : isExcluded excludes root with
    | true => simp only [hexcluded, if_true]
    | false =>
      have hmodule : ¬ leadsToModule (isExcluded excludes) (d ++ [name]) = true := by
        rw [leadsToModule_concat_iff]
        exact fun ⟨habove, hdotted⟩ => h ⟨⟨root, hroot, hexcluded⟩, habove, hdotted⟩
      simp only [moduleFiles, List.filter_append, List.filter_cons_of_neg hmodule]

/-- What is listed are modules among the places. -/
theorem exists_of_mem_listing {base file : String} {excludes : Document} {places : List (List String)}
    {paths : List String} (hpaths : listing base excludes places = .ok paths) (hfile : file ∈ paths) :
    ∃ place ∈ places, file = joinAll base place := by
  unfold listing at hpaths
  cases hroot : lastName? base with
  | none => rw [hroot] at hpaths; exact absurd hpaths (by simp)
  | some root =>
    simp only [hroot] at hpaths
    cases hheld : Config.holds excludes root with
    | error fault => rw [hheld] at hpaths; exact absurd hpaths (by simp [Except.bind])
    | ok held =>
      rw [hheld] at hpaths
      cases hpaths
      split at hfile
      · exact absurd hfile List.not_mem_nil
      · exact exists_of_mem_moduleFiles hfile

/-- Files are listed one by one if the root is not left out, unless nothing can be listed. -/
theorem listing_of_root {base : String} {excludes : Document}
    (h : ∃ root, lastName? base = some root ∧ isExcluded excludes root = false) :
    (∃ fault, ∀ places, listing base excludes places = .error fault)
      ∨ ∀ places, listing base excludes places = .ok (moduleFiles base excludes places) := by
  obtain ⟨root, hroot, hexcluded⟩ := h
  unfold listing
  simp only [hroot, hexcluded]
  cases Config.holds excludes root with
  | error fault => exact Or.inl ⟨fault, fun _ => rfl⟩
  | ok held => exact Or.inr fun _ => rfl

end Project

/-! ## A new file -/

/-- Trimming leaves the paths of files alone if it does so below the directory. -/
theorem Project.undotted_of_found {w : Workspace} (hw : w.Lawful) {base : String} {b : List String}
    {t : FileTree} (hbase : w.place base = .ok b) (ht : w.tree.get? b = some t)
    (h : ∀ p ∈ found w base, Undotted (relative w.cwd p base)) :
    ∀ place ∈ packagePlaces t, Undotted (joinNames place) := by
  intro place hplace
  have hfile := isFileAt_of_mem (FileTree.lawful_of_get? hw.tree ht) hplace
  have habsolute := Workspace.place_absolute hw.cwd (place_of_isFileAt hbase ht hfile)
  rw [← Workspace.relative_of_place hw.cwd hbase habsolute hfile.ne_nil]
  refine h _ ?_
  rw [found_eq hbase ht]
  exact List.mem_map.mpr ⟨place, hplace, rfl⟩

/-- A new file for a package of a project: the directory `d` below that of the project has a marker and no
entry of this name, and trimming leaves the paths of all files alone. -/
structure NewFile (w : Workspace) (base : String) (b d : List String) (name : String) : Prop where
  lawful : w.Lawful
  leads : w.place base = .ok b
  package : ∃ entries, w.tree.get? (b ++ d) = some (.directory entries)
    ∧ Project.marker ∈ entries.fileNames ∧ entries.find? name = none
  fileName : IsFileName name
  plain : ∀ p ∈ Project.found w base, Undotted (relative w.cwd p base)
  undotted : Undotted (joinNames (d ++ [name]))

/-- A workspace with one file more in a directory. -/
def Workspace.withFile (w : Workspace) (directory : List String) (name : String) (bytes : List UInt8) :
    Workspace :=
  w.put (directory ++ [name]) (.file bytes)

namespace NewFile

open Project PackageTree

variable {w : Workspace} {base : String} {b d : List String} {name : String}

/-- There is nothing where the file is to be. -/
theorem get?_eq_none (h : NewFile w base b d name) : w.tree.get? (b ++ d ++ [name]) = none := by
  obtain ⟨entries, hdir, -, hnew⟩ := h.package
  rw [FileTree.get?_append, hdir]
  simp [FileTree.get?, hnew]

theorem names (h : NewFile w base b d name) : ∀ n ∈ b ++ d ++ [name], IsFileName n := by
  obtain ⟨entries, hdir, -, -⟩ := h.package
  intro n hn
  rcases List.mem_append.mp hn with hold | hlast
  · exact FileTree.isFileName_of_get? h.lawful.tree hdir n hold
  · rw [List.mem_singleton.mp hlast]
    exact h.fileName

theorem names_below (h : NewFile w base b d name) : ∀ n ∈ d ++ [name], IsFileName n := by
  intro n hn
  refine h.names n ?_
  rw [List.append_assoc]
  exact List.mem_append_right b hn

theorem keeps (h : NewFile w base b d name) (bytes : List UInt8) :
    w.tree.Keeps (w.withFile (b ++ d) name bytes).tree :=
  FileTree.keeps_put h.get?_eq_none

theorem lawful_withFile (h : NewFile w base b d name) (bytes : List UInt8) :
    (w.withFile (b ++ d) name bytes).Lawful :=
  Workspace.lawful_put h.lawful h.names (by simp [FileTree.Lawful])

theorem leads_withFile (h : NewFile w base b d name) (bytes : List UInt8) :
    (w.withFile (b ++ d) name bytes).place base = .ok b :=
  Workspace.place_of_keeps (h.keeps bytes) rfl h.leads

/-- The new file gives its bytes. -/
theorem read_new (h : NewFile w base b d name) (bytes : List UInt8) :
    (w.withFile (b ++ d) name bytes).read (joinAll base (d ++ [name])) = .ok bytes := by
  have hthere : (w.withFile (b ++ d) name bytes).tree.get? (b ++ d ++ [name]) = some (.file bytes) := by
    obtain ⟨entries, hdir, -, -⟩ := h.package
    have hput : (w.withFile (b ++ d) name bytes).tree.get? (b ++ d)
        = some (.directory (entries.put name (.file bytes))) :=
      FileTree.get?_put_append (List.cons_ne_nil name []) hdir
    rw [FileTree.get?_append, hput]
    simp [FileTree.get?, Entries.find?_put]
  have hplace : (w.withFile (b ++ d) name bytes).place (joinAll base (d ++ [name]))
      = .ok (b ++ d ++ [name]) := by
    rw [Workspace.place_joinAll (h.leads_withFile bytes) h.names_below, List.append_assoc]
    refine Workspace.follow_of_get? h.names_below ?_
    rw [← List.append_assoc, hthere]
    rfl
  unfold Workspace.read
  rw [hplace]
  simp only [hthere]

/-- Bytes that are text but no source. -/
def brokenSource : List UInt8 := [0x28]

/-- Bytes that are no text. -/
def noText : List UInt8 := [0xff]

theorem readModule_brokenSource (h : NewFile w base b d name) :
    readModule (w.withFile (b ++ d) name brokenSource) (joinAll base (d ++ [name]))
      = .error .invalidSource := by
  have hparse : Source.parseModule "(" = none := by decide +kernel
  have hread : (w.withFile (b ++ d) name brokenSource).readText (joinAll base (d ++ [name]))
      = .ok "(" := by
    unfold Workspace.readText
    rw [h.read_new]
    rfl
  unfold readModule
  rw [hread, Proofs.ok_bind, hparse]

theorem readModule_noText (h : NewFile w base b d name) :
    readModule (w.withFile (b ++ d) name noText) (joinAll base (d ++ [name]))
      = .error (.undecodable .start [0xff] 0) := by
  unfold readModule Workspace.readText
  rw [h.read_new]
  rfl

/-- What the file changes: it is found among the old files, which are other ones and are read as before. -/
structure Among (w : Workspace) (base : String) (b d : List String) (name : String)
    (before after : List (List String)) : Prop where
  old : ∀ excludes, Scan.modulePaths w base excludes = listing base excludes (before ++ after)
  new : ∀ bytes excludes, Scan.modulePaths (w.withFile (b ++ d) name bytes) base excludes
    = listing base excludes (before ++ (d ++ [name]) :: after)
  other : ∀ place ∈ before ++ after, joinAll base place ≠ joinAll base (d ++ [name])
  same : ∀ place ∈ before ++ after, ∀ bytes,
    readModule (w.withFile (b ++ d) name bytes) (joinAll base place)
      = readModule w (joinAll base place)

/-- **A new file is found among the old files.** -/
theorem exists_among (h : NewFile w base b d name) : ∃ before after, Among w base b d name before after := by
  obtain ⟨entries, hdir, hmarker, hnew⟩ := h.package
  obtain ⟨t, ht, hd⟩ : ∃ t, w.tree.get? b = some t ∧ t.get? d = some (.directory entries) := by
    rw [FileTree.get?_append] at hdir
    exact Option.bind_eq_some_iff.mp hdir
  have hlawful := FileTree.lawful_of_get? h.lawful.tree ht
  obtain ⟨before, after, hold, hput⟩ := exists_packagePlaces_put hlawful hd hmarker hnew
  have hplain := undotted_of_found h.lawful h.leads ht h.plain
  refine ⟨before, after, ?_⟩
  constructor
  case old =>
    intro excludes
    rw [← hold]
    exact modulePaths_eq_listing h.lawful h.leads ht hplain excludes
  case new =>
    intro bytes excludes
    have htree : (w.withFile (b ++ d) name bytes).tree.get? b
        = some (FileTree.put (.file bytes) (d ++ [name]) t) := by
      unfold Workspace.withFile
      rw [List.append_assoc]
      exact FileTree.get?_put_append (by simp) ht
    rw [← hput bytes]
    refine modulePaths_eq_listing (h.lawful_withFile bytes) (h.leads_withFile bytes) htree ?_ excludes
    intro place hplace
    rw [hput, List.mem_append, List.mem_cons] at hplace
    rcases hplace with hbefore | rfl | hafter
    · exact hplain place (hold ▸ List.mem_append_left after hbefore)
    · exact h.undotted
    · exact hplain place (hold ▸ List.mem_append_right before hafter)
  case other =>
    -- there was nothing at the place of the new file, and there is a file at each of the old places
    intro place hplace hsame
    rw [← hold] at hplace
    have hfile := isFileAt_of_mem hlawful hplace
    have hnew : place = d ++ [name] := joinAll_injective (fun n hn => (hfile.names n hn).toIsName)
      (fun n hn => (h.names_below n hn).toIsName) hfile.ne_nil (by simp) hsame
    obtain ⟨f, hf, -⟩ := hfile.file
    have hnone := h.get?_eq_none
    rw [List.append_assoc, ← hnew, FileTree.get?_append, ht, Option.bind_some, hf] at hnone
    exact absurd hnone (by simp)
  case same =>
    intro place hplace bytes
    rw [← hold] at hplace
    have hfile := isFileAt_of_mem hlawful hplace
    obtain ⟨f, hf, hfdir⟩ := hfile.file
    have hthere : w.tree.get? (b ++ place) = some f := by
      rw [FileTree.get?_append, ht]
      exact hf
    exact readModule_of_keeps (h.keeps bytes) rfl (place_of_isFileAt h.leads ht hfile) hthere hfdir

namespace Among

variable {before after : List (List String)} {config : Document}

/-- Old modules are visited as before. -/
theorem visitModules_eq (h : Among w base b d name before after) {paths : List String}
    (hpaths : ∀ path ∈ paths, ∃ place ∈ before ++ after, path = joinAll base place) (bytes : List UInt8)
    (s : Scan) (visited : List Outline) :
    Scan.visitModules (w.withFile (b ++ d) name bytes) paths s visited
      = Scan.visitModules w paths s visited := by
  refine Scan.visitModules_congr (fun path hpath => ?_) s visited
  obtain ⟨place, hplace, rfl⟩ := hpaths path hpath
  exact h.same place hplace bytes

theorem visitModules_before (h : Among w base b d name before after) (excludes : Document)
    (bytes : List UInt8) (s : Scan) (visited : List Outline) :
    Scan.visitModules (w.withFile (b ++ d) name bytes) (moduleFiles base excludes before) s visited
      = Scan.visitModules w (moduleFiles base excludes before) s visited := by
  refine h.visitModules_eq (fun path hpath => ?_) bytes s visited
  obtain ⟨place, hplace, hsame⟩ := exists_of_mem_moduleFiles hpath
  exact ⟨place, List.mem_append_left after hplace, hsame⟩

theorem not_mem_moduleFiles (h : Among w base b d name before after) (excludes : Document) :
    joinAll base (d ++ [name]) ∉ moduleFiles base excludes (before ++ after) := by
  intro hmem
  obtain ⟨place, hplace, hsame⟩ := exists_of_mem_moduleFiles hmem
  exact h.other place hplace hsame.symm

/-- **When the file is opened does not depend on its content**, only on the modules in front of it. -/
theorem opens_iff (h : Among w base b d name before after) (bytes : List UInt8) :
    Scan.Opens (w.withFile (b ++ d) name bytes) base config (joinAll base (d ++ [name]))
      ↔ ∃ excludes, (Scan.excludes config "").1 = .ok excludes ∧ Listed base excludes d name
        ∧ (∀ places, listing base excludes places = .ok (moduleFiles base excludes places))
        ∧ (Scan.visitModules w (moduleFiles base excludes before) (Scan.start base config) []).2.2
          = none := by
  constructor
  · rintro ⟨excludes, front, back, hexcludes, hpaths, hfront⟩
    rw [h.new] at hpaths
    have hlisted : Listed base excludes d name := by
      by_contra hnot
      rw [listing_of_not_listed hnot] at hpaths
      obtain ⟨place, hplace, hsame⟩ :=
        exists_of_mem_listing hpaths (List.mem_append_right front List.mem_cons_self)
      exact h.other place hplace hsame.symm
    refine ⟨excludes, hexcludes, hlisted, ?_⟩
    rcases listing_of_root hlisted.root with ⟨fault, hfault⟩ | hlist
    · rw [hfault] at hpaths
      exact absurd hpaths (by simp)
    · refine ⟨hlist, ?_⟩
      rw [hlist, Except.ok.injEq, moduleFiles_append, moduleFiles_concat_cons hlisted] at hpaths
      -- the file is listed once, so what is in front of it is what was found in front of it
      have hnew := h.not_mem_moduleFiles excludes
      rw [moduleFiles_append, List.mem_append, not_or] at hnew
      obtain ⟨rfl, -, -⟩ := (List.append_cons_inj_of_notMem hnew.1 hnew.2).mp hpaths
      rwa [h.visitModules_before] at hfront
  · rintro ⟨excludes, hexcludes, hlisted, hlist, hfront⟩
    refine ⟨excludes, moduleFiles base excludes before, moduleFiles base excludes after, hexcludes, ?_, ?_⟩
    · rw [h.new, hlist, moduleFiles_append, moduleFiles_concat_cons hlisted]
    · rwa [h.visitModules_before]

/-- A module of a project is opened if the project has a graph without it. -/
theorem opens_of_listed (h : Among w base b d name before after) {excludes : Document}
    (hexcludes : (Scan.excludes config "").1 = .ok excludes) (hlisted : Listed base excludes d name)
    {graph : ClassGraph} (hgraph : Scan.outcome w base config = .ok graph) (bytes : List UInt8) :
    Scan.Opens (w.withFile (b ++ d) name bytes) base config (joinAll base (d ++ [name])) := by
  obtain ⟨excluded, paths, hexcluded, hpaths, hrun⟩ := Scan.firstPass_of_outcome hgraph
  rw [hexcludes, Except.ok.injEq] at hexcluded
  subst hexcluded
  rw [h.old] at hpaths
  refine (h.opens_iff bytes).mpr ⟨excludes, hexcludes, hlisted, ?_⟩
  rcases listing_of_root hlisted.root with ⟨fault, hfault⟩ | hlist
  · rw [hfault] at hpaths
    exact absurd hpaths (by simp)
  · refine ⟨hlist, ?_⟩
    rw [hlist, Except.ok.injEq, moduleFiles_append] at hpaths
    rw [← hpaths, Scan.visitModules_append] at hrun
    rcases hbefore : Scan.visitModules w (moduleFiles base excludes before) (Scan.start base config) [] with
      ⟨s, outlines, _ | fault⟩
    · rfl
    · rw [hbefore] at hrun
      exact hrun

/-- **A file that is not opened changes nothing.** -/
theorem analyze_eq (h : Among w base b d name before after) {bytes : List UInt8}
    (hclosed : ¬ Scan.Opens (w.withFile (b ++ d) name bytes) base config (joinAll base (d ++ [name]))) :
    Scan.analyze (w.withFile (b ++ d) name bytes) (Scan.start base config)
      = Scan.analyze w (Scan.start base config) := by
  have hpass : Scan.firstPass (w.withFile (b ++ d) name bytes) base config
      = Scan.firstPass w base config := by
    unfold Scan.firstPass
    cases hexcludes : (Scan.excludes config "").1 with
    | error fault => rfl
    | ok excludes =>
      simp only [Except.bind, h.old, h.new]
      by_cases hlisted : Listed base excludes d name
      · rcases listing_of_root hlisted.root with ⟨fault, hfault⟩ | hlist
        · rw [hfault, hfault]
          rfl
        · -- a module in front of the file stops both scans
          rw [hlist, hlist, moduleFiles_append, moduleFiles_append, moduleFiles_concat_cons hlisted]
          simp only [Except.map, Scan.visitModules_append, h.visitModules_before]
          rcases hrun : Scan.visitModules w (moduleFiles base excludes before) (Scan.start base config) []
            with ⟨s, outlines, _ | fault⟩
          · exact absurd ((h.opens_iff bytes).mpr ⟨excludes, hexcludes, hlisted, hlist, by rw [hrun]⟩) hclosed
          · rfl
      · rw [listing_of_not_listed hlisted]
        cases hpaths : listing base excludes (before ++ after) with
        | error fault => rfl
        | ok paths =>
          exact congrArg Except.ok (h.visitModules_eq (fun _ => exists_of_mem_listing hpaths) bytes _ [])
  rw [Scan.analyze_eq_firstPass, Scan.analyze_eq_firstPass, hpass]

end Among

end NewFile

namespace Proofs

open Project PackageTree Scan NewFile

/--
**A new file shows iff it is opened.**

Let a file be new in a package of a project. If it is not opened, then the scan is the same in every respect
with it and without it. If it is opened, then there are bytes for it with which the scan ends otherwise. It is
opened only if it is listed: there is a dot in its name, and neither the project nor a package on the way is
left out. And if the project has a graph without it, then it is opened if it is listed.
-/
theorem new_file_shows_iff_opened (w : Workspace) (base : String) (config : Document) (b d : List String)
    (name : String) (h : NewFile w base b d name) :
    let extended := w.withFile (b ++ d) name
    let file := joinAll base (d ++ [name])
    let isListed := ∃ excludes, (Scan.excludes config "").1 = .ok excludes ∧ Listed base excludes d name
    ((∀ bytes, outcome (extended bytes) base config = outcome w base config)
        ↔ ∀ bytes, ¬ Opens (extended bytes) base config file)
      ∧ (∀ bytes, ¬ Opens (extended bytes) base config file →
        analyze (extended bytes) (start base config) = analyze w (start base config))
      ∧ (∀ bytes, Opens (extended bytes) base config file → isListed)
      ∧ (isListed → ∀ graph, outcome w base config = .ok graph →
        ∀ bytes, Opens (extended bytes) base config file) := by
  intro extended file isListed
  obtain ⟨before, after, hamong⟩ := h.exists_among
  have hsame : ∀ bytes, ¬ Opens (extended bytes) base config file →
      analyze (extended bytes) (start base config) = analyze w (start base config) :=
    fun bytes => hamong.analyze_eq
  refine ⟨⟨?_, ?_⟩, hsame, ?_, ?_⟩
  · intro hsteady bytes hopens
    -- two contents that stop the scan in different ways cannot both leave the outcome alone
    have hall : ∀ bytes, Opens (extended bytes) base config file :=
      fun other => (hamong.opens_iff other).mpr ((hamong.opens_iff bytes).mp hopens)
    have hbroken := outcome_of_opens (hall brokenSource) (h.readModule_brokenSource)
    have hundecodable := outcome_of_opens (hall noText) (h.readModule_noText)
    rw [hsteady] at hbroken hundecodable
    exact absurd (hbroken.symm.trans hundecodable) (by simp)
  · intro hclosed bytes
    unfold outcome
    rw [hsame bytes (hclosed bytes)]
  · intro bytes hopens
    obtain ⟨excludes, hexcludes, hlisted, -⟩ := (hamong.opens_iff bytes).mp hopens
    exact ⟨excludes, hexcludes, hlisted⟩
  · rintro ⟨excludes, hexcludes, hlisted⟩ graph hgraph bytes
    exact hamong.opens_of_listed hexcludes hlisted hgraph bytes

/-- Two packages, one inside of the other, with empty modules. -/
def yard : Workspace where
  cwd := "/"
  tree := .directory (.cons "yard" (.directory
    (.cons "__init__.py" (.file []) (.cons "hut" (.directory
      (.cons "__init__.py" (.file []) .nil)) .nil))) .nil)

theorem yard_lawful : yard.Lawful := by
  refine ⟨?_, ?_⟩
  · simp only [yard, FileTree.Lawful, Entries.Lawful, Entries.names]
    decide
  · rw [isAbsolute_eq]
    decide

theorem yard_place : yard.place "/yard" = .ok ["yard"] := by
  simp only [Workspace.place, Workspace.piecesOf, isAbsolute_eq]
  rfl

theorem yard_plain : ∀ p ∈ found yard "/yard", Undotted (relative yard.cwd p "/yard") := by
  have hfound : found yard "/yard" = ["/yard/__init__.py", "/yard/hut/__init__.py"] := by
    rw [found_eq yard_place rfl]
    simp only [absolute, joinAll, join, isAbsolute_eq, endsWith_slash_eq]
    decide +kernel
  have hbelow : relative yard.cwd "/yard/__init__.py" "/yard" = "__init__.py"
      ∧ relative yard.cwd "/yard/hut/__init__.py" "/yard" = "hut/__init__.py" := by
    simp only [relative_eq_between, absolute, isAbsolute_eq]
    decide +kernel
  rw [hfound]
  intro p hp
  simp only [List.mem_cons, List.not_mem_nil, or_false] at hp
  rcases hp with rfl | rfl
  · rw [hbelow.1]
    exact ⟨by decide, by decide⟩
  · rw [hbelow.2]
    exact ⟨by decide, by decide⟩

/-- A file without a dot in its name, in the inner package. -/
theorem yard_license : NewFile yard "/yard" ["yard"] ["hut"] "LICENSE" where
  lawful := yard_lawful
  leads := yard_place
  package := ⟨_, rfl, by decide, rfl⟩
  fileName := by decide
  plain := yard_plain
  undotted := ⟨by decide, by decide⟩

theorem yard_license_unnoticed :
    NewFile yard "/yard" ["yard"] ["hut"] "LICENSE"
      ∧ ∀ config bytes, analyze (yard.withFile ["yard", "hut"] "LICENSE" bytes) (start "/yard" config)
        = analyze yard (start "/yard" config) := by
  refine ⟨yard_license, fun config bytes => ?_⟩
  obtain ⟨-, hsame, hlisted, -⟩ :=
    new_file_shows_iff_opened yard "/yard" config ["yard"] ["hut"] "LICENSE" yard_license
  refine hsame bytes fun hopens => ?_
  obtain ⟨excludes, -, hmodule⟩ := hlisted bytes hopens
  exact absurd hmodule.dotted (by simp)

/-- A configuration that leaves out no packages. -/
def allPackages : Document := .table [("exclude", .table [("directories", Document.ofTexts [])])]

theorem yard_outcome : outcome yard "/yard" allPackages = .ok {} := by
  have hroot : lastName? "/yard" = some "yard" := by decide
  have hpaths : modulePaths yard "/yard" (Document.ofTexts [])
      = .ok ["/yard/__init__.py", "/yard/hut/__init__.py"] := by
    have hmodules : moduleFiles "/yard" (Document.ofTexts []) [["__init__.py"], ["hut", "__init__.py"]]
        = ["/yard/__init__.py", "/yard/hut/__init__.py"] := by
      have hfilter : [["__init__.py"], ["hut", "__init__.py"]].filter
          (leadsToModule (isExcluded (Document.ofTexts []))) = [["__init__.py"], ["hut", "__init__.py"]] := by
        simp [leadsToModule, isExcluded, holds?_ofTexts]
      rw [moduleFiles, hfilter]
      simp only [List.map, joinAll, List.foldl, join, isAbsolute_eq, endsWith_slash_eq]
      rfl
    rw [modulePaths_eq_listing yard_lawful yard_place rfl
      (undotted_of_found yard_lawful yard_place rfl yard_plain), listing, hroot]
    exact congrArg Except.ok hmodules
  have hread : ∀ path ∈ ["/yard/__init__.py", "/yard/hut/__init__.py"], readModule yard path = .ok [] := by
    have hparse : Source.parseModule "" = some [] := by
      have hempty : (Source.parseModule "").map List.isEmpty = some true := by decide +kernel
      obtain ⟨statements, hsome, hnone⟩ := Option.map_eq_some_iff.mp hempty
      rw [hsome, List.isEmpty_iff.mp hnone]
    intro path hpath
    have htext : yard.readText path = .ok "" := by
      simp only [List.mem_cons, List.not_mem_nil, or_false] at hpath
      rcases hpath with rfl | rfl <;>
        simp only [Workspace.readText, Workspace.read, Workspace.place, Workspace.piecesOf, isAbsolute_eq] <;>
        rfl
    rw [readModule, htext, ok_bind, hparse]
  have hpass : firstPass yard "/yard" allPackages = .ok (start "/yard" allPackages, [], none) := by
    have hexcludes : (Scan.excludes allPackages "").1 = .ok (Document.ofTexts []) := rfl
    rw [firstPass, hexcludes]
    simp only [Except.bind, hpaths, Except.map, visitModules, hread _ List.mem_cons_self,
      hread _ (List.mem_cons_of_mem _ List.mem_cons_self)]
    rfl
  unfold outcome
  rw [analyze_eq_firstPass, hpass]
  rfl

/-- A file for readers is opened as a module, and ends the scan of a project that has a graph without it. -/
theorem yard_readme_shows :
    NewFile yard "/yard" ["yard"] [] "README.md" ∧ outcome yard "/yard" allPackages = .ok {}
      ∧ outcome (yard.withFile ["yard"] "README.md" brokenSource) "/yard" allPackages
        = .error .invalidSource := by
  have hnew : NewFile yard "/yard" ["yard"] [] "README.md" :=
    ⟨yard_lawful, yard_place, ⟨_, rfl, by decide, rfl⟩, by decide, yard_plain, by decide, by decide⟩
  have hlisted : Listed "/yard" (Document.ofTexts []) [] "README.md" :=
    ⟨⟨"yard", by decide, rfl⟩, by simp, by simp⟩
  obtain ⟨before, after, hamong⟩ := hnew.exists_among
  have hopens := hamong.opens_of_listed rfl hlisted yard_outcome brokenSource
  exact ⟨hnew, yard_outcome, outcome_of_opens hopens hnew.readModule_brokenSource⟩

end Proofs

end ClassAtlas
