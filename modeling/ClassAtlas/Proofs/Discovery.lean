import ClassAtlas.Proofs.Places

/-!
# Files that are found, and the paths they are read under

The files of packages below a directory are found by walking its tree (`found_eq`). A file is read under a
path that is put together again from the names along its path below the directory, and those names were
trimmed. So the file is found again iff its path below the directory has no dot at either end
(`rebuilt_path_leads_back_iff`): a file `.fox.py` is found, but `fox.py` is opened.
-/

namespace ClassAtlas

open ClassAtlas.Path

/-! ## Lawful trees -/

instance (name : String) : Decidable (IsFileName name) :=
  decidable_of_iff ((name ≠ "" ∧ '/' ∉ name.toList) ∧ name ≠ "." ∧ name ≠ "..")
    ⟨fun ⟨⟨hfull, hslash⟩, hdot, hdots⟩ => ⟨⟨hfull, hslash⟩, hdot, hdots⟩,
      fun h => ⟨⟨h.ne_empty, h.no_slash⟩, h.ne_dot, h.ne_dots⟩⟩

/-- The names of the entries. -/
def Entries.names : Entries → List String
  | .nil => []
  | .cons name _ rest => name :: rest.names

mutual

/-- All entries below have names of files, and are in the order of their names. -/
def FileTree.Lawful : FileTree → Prop
  | .directory entries => entries.Lawful
  | _ => True

/-- The same of entries. -/
def Entries.Lawful : Entries → Prop
  | .nil => True
  | .cons name tree rest =>
    IsFileName name ∧ (∀ other ∈ rest.names, name < other) ∧ tree.Lawful ∧ rest.Lawful

end

/-- A workspace that can be: its tree is lawful, and the working directory has an absolute path. -/
structure Workspace.Lawful (w : Workspace) : Prop where
  tree : w.tree.Lawful
  cwd : isAbsolute w.cwd = true

namespace Entries

theorem fileNames_cons (name : String) (t : FileTree) (rest : Entries) :
    (cons name t rest).fileNames = if t.isDirectory then rest.fileNames else name :: rest.fileNames := by
  cases t <;> rfl

theorem find?_cons_other {name other : String} (h : other ≠ name) (t : FileTree) (rest : Entries) :
    (cons other t rest).find? name = rest.find? name := by
  rw [find?, if_neg h]

/-- What is listed as a file is no directory. -/
theorem find?_of_mem_fileNames {name : String} : ∀ {entries : Entries}, entries.Lawful →
    name ∈ entries.fileNames →
      name ∈ entries.names ∧ IsFileName name ∧ ∃ f, entries.find? name = some f ∧ f.isDirectory = false
  | .cons other t rest, hlawful, h => by
    rw [Lawful] at hlawful
    obtain ⟨hname, hbefore, -, hrest⟩ := hlawful
    have hbelow : name ∈ rest.fileNames → name ∈ (cons other t rest).names ∧ IsFileName name
        ∧ ∃ f, (cons other t rest).find? name = some f ∧ f.isDirectory = false := by
      intro hmem
      obtain ⟨hnames, hfile, f, hfind, hf⟩ := find?_of_mem_fileNames hrest hmem
      have hne : other ≠ name := Std.ne_of_lt (hbefore name hnames)
      exact ⟨List.mem_cons_of_mem other hnames, hfile, f, by rw [find?_cons_other hne, hfind], hf⟩
    rw [fileNames_cons] at h
    split at h
    · exact hbelow h
    · rename_i hfile
      rcases List.mem_cons.mp h with rfl | hmem
      · exact ⟨List.mem_cons_self, hname, t, by rw [find?, if_pos rfl], by simpa using hfile⟩
      · exact hbelow hmem

theorem lawful_of_find? {name : String} {t : FileTree} : ∀ {entries : Entries}, entries.Lawful →
    entries.find? name = some t → t.Lawful
  | .cons other u rest, hlawful, h => by
    rw [Lawful] at hlawful
    rw [find?] at h
    split at h
    · cases h
      exact hlawful.2.2.1
    · exact lawful_of_find? hlawful.2.2.2 h

theorem mem_names_of_find? {name : String} {t : FileTree} : ∀ {entries : Entries},
    entries.find? name = some t → name ∈ entries.names
  | .cons other u rest, h => by
    rw [find?] at h
    split at h
    · rename_i hname
      exact hname ▸ List.mem_cons_self
    · exact List.mem_cons_of_mem other (mem_names_of_find? h)

/-- What is found behind the first entry is found with it. -/
theorem find?_cons_of_find? {name other : String} {t u : FileTree} {rest : Entries}
    (h : (cons other u rest).Lawful) (hfind : rest.find? name = some t) :
    (cons other u rest).find? name = some t := by
  rw [Lawful] at h
  rw [find?_cons_other (Std.ne_of_lt (h.2.1 name (mem_names_of_find? hfind))), hfind]

theorem fileNames_sublist : ∀ entries : Entries, entries.fileNames.Sublist entries.names
  | .nil => .slnil
  | .cons name t rest => by
    rw [fileNames_cons, names]
    split
    · exact (fileNames_sublist rest).cons name
    · exact (fileNames_sublist rest).cons_cons name

theorem nodup_names : ∀ {entries : Entries}, entries.Lawful → entries.names.Nodup
  | .nil, _ => List.nodup_nil
  | .cons name t rest, h => by
    rw [Lawful] at h
    exact List.nodup_cons.mpr ⟨fun hmem => Std.ne_of_lt (h.2.1 name hmem) rfl, nodup_names h.2.2.2⟩

end Entries

/-- What lies in a lawful tree is lawful. -/
theorem FileTree.lawful_of_get? {t inner : FileTree} {place : List String} (ht : t.Lawful)
    (h : t.get? place = some inner) : inner.Lawful := by
  induction place generalizing t with
  | nil =>
    cases h
    exact ht
  | cons name rest ih =>
    obtain ⟨entries, u, rfl, hfind, hget⟩ := get?_cons_eq_some_iff.mp h
    rw [Lawful] at ht
    exact ih (Entries.lawful_of_find? ht hfind) hget

namespace Project

mutual

/-- The places of the files in packages of a tree. -/
def packagePlaces : FileTree → List (List String)
  | .directory entries =>
    (if entries.fileNames.contains marker then entries.fileNames.map ([·]) else []) ++ placesBelow entries
  | _ => []

/-- The places of the files in packages in the directories among entries. -/
def placesBelow : Entries → List (List String)
  | .nil => []
  | .cons name tree rest => (packagePlaces tree).map (name :: ·) ++ placesBelow rest

end

mutual

/-- The path of a file leads along the names of its place. -/
theorem packageFiles_eq : ∀ (t : FileTree) (path : String),
    packageFiles path t = (packagePlaces t).map (joinAll path)
  | .directory entries, path => by
    rw [packageFiles, packagePlaces, filesBelow_eq entries path, List.map_append]
    congr 1
    split
    · rw [List.map_map]
      rfl
    · rfl
  | .file _, _ => rfl
  | .sink, _ => rfl

theorem filesBelow_eq : ∀ (entries : Entries) (path : String),
    filesBelow path entries = (placesBelow entries).map (joinAll path)
  | .nil, _ => rfl
  | .cons name tree rest, path => by
    rw [filesBelow, placesBelow, packageFiles_eq tree (join path name), filesBelow_eq rest path,
      List.map_append, List.map_map]
    rfl

end

/-- A place at which there is a file, or something else that is no directory. -/
structure IsFileAt (t : FileTree) (place : List String) : Prop where
  ne_nil : place ≠ []
  names : ∀ name ∈ place, IsFileName name
  file : ∃ f, t.get? place = some f ∧ f.isDirectory = false

mutual

/-- **There is a file at each of the places.** -/
theorem isFileAt_of_mem : ∀ {t : FileTree}, t.Lawful → ∀ {place : List String},
    place ∈ packagePlaces t → IsFileAt t place
  | .directory entries, ht, place, h => by
    rw [FileTree.Lawful] at ht
    rw [packagePlaces] at h
    rcases List.mem_append.mp h with hown | hbelow
    · have hfiles : place ∈ entries.fileNames.map ([·]) := by
        split at hown
        · exact hown
        · exact absurd hown List.not_mem_nil
      obtain ⟨name, hname, rfl⟩ := List.mem_map.mp hfiles
      obtain ⟨-, hfile, f, hfind, hf⟩ := Entries.find?_of_mem_fileNames ht hname
      refine ⟨List.cons_ne_nil name [], fun n hn => List.mem_singleton.mp hn ▸ hfile, f, ?_, hf⟩
      simp only [FileTree.get?, hfind]
    · exact (isFileAt_of_mem_below ht hbelow).2

theorem isFileAt_of_mem_below : ∀ {entries : Entries}, entries.Lawful → ∀ {place : List String},
    place ∈ placesBelow entries →
      (∀ name, place.head? = some name → name ∈ entries.names) ∧ IsFileAt (.directory entries) place
  | .cons name tree rest, ht, place, h => by
    rw [Entries.Lawful] at ht
    obtain ⟨hname, hbefore, htree, hrest⟩ := ht
    rw [placesBelow] at h
    rcases List.mem_append.mp h with hhere | hbelow
    · obtain ⟨inner, hinner, rfl⟩ := List.mem_map.mp hhere
      obtain ⟨-, hnames, f, hget, hf⟩ := isFileAt_of_mem htree hinner
      refine ⟨fun n hn => ?_, List.cons_ne_nil name inner, fun n hn => ?_, f, ?_, hf⟩
      · cases hn
        exact List.mem_cons_self
      · rcases List.mem_cons.mp hn with rfl | hmem
        · exact hname
        · exact hnames n hmem
      · simp only [FileTree.get?, Entries.find?, if_pos, hget]
    · obtain ⟨hhead, hne, hnames, f, hget, hf⟩ := isFileAt_of_mem_below hrest hbelow
      obtain ⟨first, inner, rfl⟩ := List.exists_cons_of_ne_nil hne
      have hother : name ≠ first := Std.ne_of_lt (hbefore first (hhead first rfl))
      refine ⟨fun n hn => List.mem_cons_of_mem name (hhead n hn), hne, hnames, f, ?_, hf⟩
      simp only [FileTree.get?, Entries.find?_cons_other hother] at hget ⊢
      exact hget

end

/-! ## Files below a directory -/

section
variable {w : Workspace} {base : String} {b : List String} {t : FileTree}

/-- A directory is found by its path. -/
theorem found_eq (hbase : w.place base = .ok b) (ht : w.tree.get? b = some t) :
    found w base = (packagePlaces t).map fun place => absolute w.cwd (joinAll base place) := by
  have hfind : w.find? base = some t := by
    unfold Workspace.find?
    rw [hbase]
    exact ht
  unfold found
  simp only [hfind, packageFiles_eq, List.map_map, Function.comp_def]

theorem exists_of_mem_found {p : String} (hp : p ∈ found w base) :
    ∃ b t, w.place base = .ok b ∧ w.tree.get? b = some t := by
  unfold found Workspace.find? at hp
  cases hbase : w.place base with
  | error obstacle => rw [hbase] at hp; exact absurd hp List.not_mem_nil
  | ok b =>
    cases ht : w.tree.get? b with
    | none => rw [hbase] at hp; simp only [ht] at hp; exact absurd hp List.not_mem_nil
    | some t => exact ⟨b, t, rfl, ht⟩

/-- A file lies where the names of its place lead from the directory. -/
theorem place_of_isFileAt {place : List String} (hbase : w.place base = .ok b) (ht : w.tree.get? b = some t)
    (h : IsFileAt t place) : w.place (joinAll base place) = .ok (b ++ place) := by
  obtain ⟨f, hget, -⟩ := h.file
  rw [Workspace.place_joinAll hbase h.names]
  refine Workspace.follow_of_get? h.names ?_
  rw [FileTree.get?_append, ht]
  simp [hget]

/-- **The path of a file that is found leads to a place below that of the directory, and the file is there.** -/
theorem exists_place_of_mem_found (hw : w.Lawful) {p : String} (hp : p ∈ found w base) :
    ∃ b t place, w.place base = .ok b ∧ w.tree.get? b = some t ∧ IsFileAt t place
      ∧ w.place p = .ok (b ++ place) := by
  obtain ⟨b, t, hbase, ht⟩ := exists_of_mem_found hp
  rw [found_eq hbase ht] at hp
  obtain ⟨place, hplace, rfl⟩ := List.mem_map.mp hp
  have hfile := isFileAt_of_mem (FileTree.lawful_of_get? hw.tree ht) hplace
  exact ⟨b, t, place, hbase, ht, hfile, Workspace.place_absolute hw.cwd (place_of_isFileAt hbase ht hfile)⟩

end

end Project

namespace Proofs

open Project

/--
**When the path that is opened is the path that was found.**

Every file that is found is at some place. The path that is put together again from its names leads to that
place iff the file's path below the directory has no dot at either end.
-/
theorem rebuilt_path_leads_back_iff (w : Workspace) (hw : w.Lawful) (base p : String)
    (hp : p ∈ found w base) :
    ∃ place f, w.place p = .ok place ∧ w.tree.get? place = some f ∧ f.isDirectory = false
      ∧ (w.place (joinAll base (PackageTree.partsBelow w.cwd base p)) = .ok place
        ↔ Undotted (relative w.cwd p base)) := by
  obtain ⟨b, t, place, hbase, ht, hfile, hplace⟩ := exists_place_of_mem_found hw hp
  obtain ⟨f, hget, hf⟩ := hfile.file
  have hthere : w.tree.get? (b ++ place) = some f := by rw [FileTree.get?_append, ht]; exact hget
  have hnames : ∀ name ∈ place, IsName name := fun name hname => (hfile.names name hname).toIsName
  refine ⟨b ++ place, f, hplace, hthere, hf, ?_⟩
  rw [Workspace.partsBelow_of_place hw.cwd hbase hplace hfile.ne_nil,
    Workspace.relative_of_place hw.cwd hbase hplace hfile.ne_nil,
    ← names_joinNames_eq_iff hnames hfile.ne_nil,
    Workspace.place_joinAll hbase fun _ => isFileName_of_mem_names_joinNames hfile.names]
  constructor
  · intro hsame
    have hback := Workspace.eq_append_of_follow (fun _ => isFileName_of_mem_names_joinNames hfile.names) hsame
    exact (List.append_cancel_left hback).symm
  · intro hsame
    rw [hsame]
    exact Workspace.follow_of_get? hfile.names (by rw [hthere]; rfl)

/-- A package with a hidden module, and one below it with dots at the end of its own name and in front of
its module's. -/
def den : Workspace where
  cwd := "/"
  tree := .directory (.cons "den" (.directory
    (.cons ".fox.py" (.file []) (.cons "__init__.py" (.file []) (.cons "v1." (.directory
      (.cons "..cub.py" (.file []) (.cons "__init__.py" (.file []) .nil))) .nil)))) .nil)

theorem den_lawful : den.Lawful := by
  refine ⟨?_, ?_⟩
  · simp only [den, FileTree.Lawful, Entries.Lawful, Entries.names]
    decide
  · rw [isAbsolute_eq]
    decide

theorem den_found : found den "/den"
    = ["/den/.fox.py", "/den/__init__.py", "/den/v1./..cub.py", "/den/v1./__init__.py"] := by
  have hbase : den.place "/den" = .ok ["den"] := by
    simp only [Workspace.place, Workspace.piecesOf, isAbsolute_eq]
    rfl
  rw [found_eq hbase rfl]
  simp only [absolute, joinAll, join, isAbsolute_eq, endsWith_slash_eq]
  decide +kernel

/-- Dots inside of the path below the directory are kept. -/
theorem cub_leads_back :
    den.Lawful ∧ "/den/v1./..cub.py" ∈ found den "/den"
      ∧ Undotted (relative den.cwd "/den/v1./..cub.py" "/den")
      ∧ den.place (joinAll "/den" (PackageTree.partsBelow den.cwd "/den" "/den/v1./..cub.py"))
        = den.place "/den/v1./..cub.py" := by
  have hfound : "/den/v1./..cub.py" ∈ found den "/den" := by
    rw [den_found]
    decide
  have hbelow : relative den.cwd "/den/v1./..cub.py" "/den" = "v1./..cub.py" := by
    simp only [relative_eq_between, absolute, isAbsolute_eq]
    decide +kernel
  have hundotted : Undotted (relative den.cwd "/den/v1./..cub.py" "/den") := by
    rw [hbelow]
    exact ⟨by decide, by decide⟩
  obtain ⟨place, f, hplace, -, -, hback⟩ :=
    rebuilt_path_leads_back_iff den den_lawful "/den" "/den/v1./..cub.py" hfound
  exact ⟨den_lawful, hfound, hundotted, (hback.mpr hundotted).trans hplace.symm⟩

/-- A hidden file is found, but the path that is opened for it leads nowhere. -/
theorem fox_leads_nowhere :
    den.Lawful ∧ "/den/.fox.py" ∈ found den "/den" ∧ den.isFile "/den/.fox.py" = true
      ∧ joinAll "/den" (PackageTree.partsBelow den.cwd "/den" "/den/.fox.py") = "/den/fox.py"
      ∧ den.find? "/den/fox.py" = none := by
  refine ⟨den_lawful, ?_, ?_, ?_, ?_⟩
  · rw [den_found]
    decide
  · simp only [Workspace.isFile, Workspace.find?, Workspace.place, Workspace.piecesOf, isAbsolute_eq]
    rfl
  · simp only [PackageTree.partsBelow, relative_eq_between, absolute, joinAll, join, isAbsolute_eq,
      endsWith_slash_eq]
    decide +kernel
  · simp only [Workspace.find?, Workspace.place, Workspace.piecesOf, isAbsolute_eq]
    rfl

end Proofs

end ClassAtlas
