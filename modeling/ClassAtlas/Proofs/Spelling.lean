import ClassAtlas.Proofs.Discovery
import ClassAtlas.Proofs.ModuleFiles

/-!
# How a directory is spelt

Many paths lead to one directory. What is found below it and the names that make up the tree of packages
depend on the place alone (`partsBelow_found`). The root of the tree is named after the last name that is
left of the text of the path, while a diagram is named after the directory itself. So all spellings give the
same packages (`tree_eq`), but the name of the root is right only for some of them, and a path of nothing but
dots and slashes gives no tree.
-/

namespace ClassAtlas

namespace Path

/-- **A path has no last name iff it is made of dots and slashes.** -/
theorem lastName?_eq_none_iff (path : String) :
    lastName? path = none ↔ ∀ c ∈ path.toList, isDotOrSlash c = true := by
  rw [lastName?, List.getLast?_eq_none_iff, names_eq_nil_iff]

end Path

/-! ## The tree below the root -/

namespace PackageTree

/-- What is put in below a root does not depend on the root. -/
theorem insert_node (path : List String) (value other : Package) (children : List PackageTree) :
    (node value children).insert path = .node value ((node other children).insert path).children := by
  cases path with
  | nil => rfl
  | cons name rest =>
    rw [insert, insert]
    unfold ensureChild
    have hsame : (node value children).child? name = (node other children).child? name := rfl
    simp only [hsame]
    split <;> rfl

/-- Adds the packages along several lists of names. -/
def insertAll : List (List String) → PackageTree → PackageTree
  | [], t => t
  | path :: rest, t => insertAll rest (t.insert path)

theorem insertAll_append (paths more : List (List String)) (t : PackageTree) :
    insertAll (paths ++ more) t = insertAll more (insertAll paths t) := by
  induction paths generalizing t with
  | nil => rfl
  | cons path rest ih => exact ih (t.insert path)

theorem build_eq_insertAll (cwd base : String) (paths : List String) (t : PackageTree) :
    t.build cwd base paths = insertAll (paths.map (partsBelow cwd base)) t := by
  unfold build
  induction paths generalizing t with
  | nil => rfl
  | cons path rest ih => rw [List.foldl_cons, ih, List.map_cons, insertAll]

theorem insertAll_node (paths : List (List String)) (value other : Package) (children : List PackageTree) :
    insertAll paths (node value children) = .node value (insertAll paths (node other children)).children := by
  induction paths generalizing children with
  | nil => rfl
  | cons path rest ih =>
    rw [insertAll, insertAll, insert_node path value other, insert_node path other other, ih]
    rfl

end PackageTree

namespace Workspace

open ClassAtlas.Path

/-- Pieces that lead nowhere else. -/
theorem eq_of_follow_idle {t : FileTree} {place target pieces : List String}
    (hidle : ∀ piece ∈ pieces, piece = "" ∨ piece = ".") (h : follow t place pieces = .ok target) :
    target = place := by
  rcases @follow_idle t place pieces hidle with hhere | hblocked
  · rw [hhere, Except.ok.injEq] at h
    exact h.symm
  · rw [hblocked] at h
    exact absurd h (by simp)

/-- A name behind which nothing but dots and slashes stands is the last one of the place. -/
theorem getLast?_of_last_move {w : Workspace} {path name : String} {d : List String}
    (h : w.place path = .ok d) (hmove : (moves path).getLast? = some name) (hname : Undotted name) :
    d.getLast? = some name := by
  obtain ⟨before, after, hpieces, hafter⟩ := split_at_last_move hmove
  have hfile : IsFileName name := by
    have hkept := (List.mem_filter.mp (List.mem_of_getLast? hmove)).2
    rw [Bool.and_eq_true, bne_iff_ne, bne_iff_ne] at hkept
    refine ⟨⟨hkept.1, no_slash_of_mem_pieces (by rw [hpieces]; simp)⟩, hkept.2, ?_⟩
    rintro rfl
    exact hname.head rfl
  have hfollow := follow_of_place h
  obtain ⟨start, hstart⟩ : ∃ start, w.piecesOf path = start ++ name :: after := by
    unfold piecesOf
    rw [hpieces]
    split
    · exact ⟨before, rfl⟩
    · exact ⟨pieces w.cwd ++ before, by rw [List.append_assoc]⟩
  rw [hstart] at hfollow
  obtain ⟨middle, -, hrest⟩ := follow_append_ok hfollow
  rw [follow_cons_name hfile] at hrest
  split at hrest
  · exact absurd hrest (by simp)
  · split at hrest
    · rw [eq_of_follow_idle hafter hrest, List.getLast?_concat]
    · exact absurd hrest (by simp)

end Workspace

namespace Project

open ClassAtlas.Path PackageTree

section
variable {w : Workspace} {path : String} {d : List String} {t : FileTree}

/-- The names along a path, as they are read off its text below the directory. -/
def trimmedPlaces (t : FileTree) : List (List String) :=
  (packagePlaces t).map fun place => names (joinNames place)

/-- **The names of the files that are found depend on the directory alone.** -/
theorem partsBelow_found (hw : w.Lawful) (hplace : w.place path = .ok d) (ht : w.tree.get? d = some t) :
    (found w path).map (partsBelow w.cwd path) = trimmedPlaces t := by
  rw [found_eq hplace ht, trimmedPlaces, List.map_map]
  refine List.map_congr_left fun place hmem => ?_
  rw [Function.comp_apply]
  have hfile := isFileAt_of_mem (FileTree.lawful_of_get? hw.tree ht) hmem
  have habsolute := Workspace.place_absolute hw.cwd (place_of_isFileAt hplace ht hfile)
  exact Workspace.partsBelow_of_place hw.cwd hplace habsolute hfile.ne_nil

/-- The packages and modules of a directory. -/
def branches (t : FileTree) : List PackageTree :=
  (insertAll (trimmedPlaces t) (root "")).children

/-- **The tree of packages has the name that the path gives it, and the packages of the directory.** -/
theorem tree_eq (hw : w.Lawful) (hplace : w.place path = .ok d) (ht : w.tree.get? d = some t) :
    Project.tree w path = match lastName? path with
      | some name => .ok (.node ⟨name, some packageWord⟩ (branches t))
      | none => .error .namelessPath := by
  unfold Project.tree
  cases lastName? path with
  | none => rfl
  | some name =>
    have hbuild : (root name).build w.cwd path (found w path) = insertAll (trimmedPlaces t) (root name) := by
      rw [build_eq_insertAll, partsBelow_found hw hplace ht]
    exact congrArg Except.ok (hbuild.trans (insertAll_node (trimmedPlaces t) _ _ []))

end

end Project

namespace Proofs

open ClassAtlas.Path Project

/--
**How a directory is spelt matters for the name of the root only.**

All paths that lead to one directory have the same last name when they are absolute, which is the name that
a diagram gets. They all give the same packages, unless they are made of nothing but dots and slashes: then
there is no tree. The root of the tree has the name of the directory iff the text of the path ends in it, dots
and slashes aside. That is so for every path whose last name has no dot at either end, whatever single dots
and slashes follow it.
-/
theorem spelling_changes_root_name_only (w : Workspace) (hw : w.Lawful) (d : List String) :
    ∃ children, ∀ path, w.place path = .ok d →
      baseName (absolute w.cwd path) = d.getLast?.getD ""
        ∧ (Project.tree w path = .error .namelessPath ↔ ∀ c ∈ path.toList, c = '.' ∨ c = '/')
        ∧ (Project.tree w path ≠ .error .namelessPath →
          ∃ name, Project.tree w path = .ok (.node ⟨name, some packageWord⟩ children))
        ∧ (Project.tree w path
            = .ok (.node ⟨baseName (absolute w.cwd path), some packageWord⟩ children)
          ↔ lastName? path = some (baseName (absolute w.cwd path)))
        ∧ ∀ name, (moves path).getLast? = some name → Undotted name →
          lastName? path = some (baseName (absolute w.cwd path)) := by
  cases ht : w.tree.get? d with
  | none =>
    refine ⟨[], fun path hplace => ?_⟩
    have hsome := Workspace.isSome_get?_of_place hplace
    rw [ht] at hsome
    exact absurd hsome (by simp)
  | some t =>
    refine ⟨branches t, fun path hplace => ?_⟩
    have htree := tree_eq hw hplace ht
    have hbase := Workspace.baseName_absolute hw.cwd hplace
    have hdots : lastName? path = none ↔ ∀ c ∈ path.toList, c = '.' ∨ c = '/' := by
      rw [lastName?_eq_none_iff]
      simp [isDotOrSlash]
    have hlast : ∀ name, (moves path).getLast? = some name → Undotted name →
        lastName? path = some (baseName (absolute w.cwd path)) := by
      intro name hmove hname
      rw [hbase, Workspace.getLast?_of_last_move hplace hmove hname]
      exact lastName?_of_last_move hmove hname
    rw [htree, ← hdots]
    refine ⟨hbase, ?_, ?_, ?_, hlast⟩
    · cases lastName? path <;> simp
    · cases lastName? path with
      | none => exact fun hsome => absurd rfl hsome
      | some name => exact fun _ => ⟨name, rfl⟩
    · cases lastName? path <;> simp

/-- The package from inside. -/
def inDen : Workspace := { den with cwd := "/den" }

theorem inDen_lawful : inDen.Lawful := by
  refine ⟨den_lawful.tree, ?_⟩
  rw [isAbsolute_eq]
  decide

theorem inDen_place {path : String}
    (h : path ∈ ["/den", "../den/./", "//den//", "v1./../../den", ".", "v1./.."]) :
    inDen.place path = .ok ["den"] := by
  simp only [List.mem_cons, List.not_mem_nil, or_false] at h
  rcases h with rfl | rfl | rfl | rfl | rfl | rfl <;>
    simp only [Workspace.place, Workspace.piecesOf, isAbsolute_eq] <;> rfl

theorem inDen_spellings :
    inDen.Lawful ∧ ∃ children, ∀ path ∈ ["/den", "../den/./", "//den//", "v1./../../den"],
      inDen.place path = .ok ["den"]
        ∧ Project.tree inDen path = .ok (.node ⟨"den", some packageWord⟩ children) := by
  obtain ⟨children, hchildren⟩ := spelling_changes_root_name_only inDen inDen_lawful ["den"]
  refine ⟨inDen_lawful, children, fun path hpath => ?_⟩
  have hplace : inDen.place path = .ok ["den"] :=
    inDen_place (List.mem_append_left [".", "v1./.."] hpath)
  obtain ⟨hname, -, -, htree, hspelt⟩ := hchildren path hplace
  have hmove : (moves path).getLast? = some "den" := by
    simp only [List.mem_cons, List.not_mem_nil, or_false] at hpath
    rcases hpath with rfl | rfl | rfl | rfl <;> rfl
  have hroot := htree.mpr (hspelt "den" hmove ⟨by decide, by decide⟩)
  rw [hname] at hroot
  exact ⟨hplace, hroot⟩

/-- The directory itself has no tree under the name `.`, and a wrong name if one comes back to it by `..`. -/
theorem inDen_other_spellings :
    inDen.Lawful ∧ inDen.isDirectory "." = true
      ∧ inDen.place "." = inDen.place "/den" ∧ inDen.place "v1./.." = inDen.place "/den"
      ∧ Project.tree inDen "." = .error .namelessPath
      ∧ (∃ t, Project.tree inDen "/den" = .ok t ∧ t.name = "den")
      ∧ ∃ t, Project.tree inDen "v1./.." = .ok t ∧ t.name = "v1" := by
  have hden : inDen.place "/den" = .ok ["den"] := inDen_place (by decide)
  have hdot : inDen.place "." = .ok ["den"] := inDen_place (by decide)
  have hback : inDen.place "v1./.." = .ok ["den"] := inDen_place (by decide)
  have hnone : lastName? "." = none := by decide
  have hright : lastName? "/den" = some "den" := by decide
  have hwrong : lastName? "v1./.." = some "v1" := by decide
  refine ⟨inDen_lawful, ?_, hdot.trans hden.symm, hback.trans hden.symm, ?_, ?_, ?_⟩
  · simp only [Workspace.isDirectory, Workspace.find?, hdot]
    rfl
  · rw [tree_eq inDen_lawful hdot rfl, hnone]
  · rw [tree_eq inDen_lawful hden rfl, hright]
    exact ⟨_, rfl, rfl⟩
  · rw [tree_eq inDen_lawful hback rfl, hwrong]
    exact ⟨_, rfl, rfl⟩

end Proofs

end ClassAtlas
