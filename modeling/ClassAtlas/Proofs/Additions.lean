import ClassAtlas.Proofs.Discovery

/-!
# New files

What a tree is like after something was put where nothing was. All that was there is still there, and files
are unchanged (`keeps_put`). If it is a file in a package, then the files of packages are the old ones in the
old order, with the new one somewhere among them (`exists_packagePlaces_put`).
-/

namespace ClassAtlas

open ClassAtlas.Path

/-! ## Entries -/

namespace Entries

/-- The entries as a list. -/
def toList : Entries → List (String × FileTree)
  | .nil => []
  | .cons name t rest => (name, t) :: rest.toList

theorem fileNames_eq : ∀ entries : Entries,
    entries.fileNames = (entries.toList.filter fun e => !e.2.isDirectory).map Prod.fst
  | .nil => rfl
  | .cons name t rest => by
    rw [fileNames_cons, fileNames_eq rest, toList, List.filter_cons]
    cases t.isDirectory <;> rfl

theorem isFileName_of_find? {name : String} {t : FileTree} : ∀ {entries : Entries}, entries.Lawful →
    entries.find? name = some t → IsFileName name
  | .cons other u rest, hlawful, h => by
    rw [Lawful] at hlawful
    rw [find?] at h
    split at h
    · rename_i hname
      exact hname ▸ hlawful.1
    · exact isFileName_of_find? hlawful.2.2.2 h

/-- A new entry stands somewhere among the old ones. -/
theorem exists_put_new {name : String} : ∀ {entries : Entries}, entries.find? name = none →
    ∃ before after, entries.toList = before ++ after
      ∧ ∀ t, (entries.put name t).toList = before ++ (name, t) :: after
  | .nil, _ => ⟨[], [], rfl, fun _ => rfl⟩
  | .cons other old rest, h => by
    have hne : other ≠ name := by
      rintro rfl
      rw [find?, if_pos rfl] at h
      exact absurd h (by simp)
    by_cases hlt : name < other
    · refine ⟨[], (other, old) :: rest.toList, rfl, fun t => ?_⟩
      rw [put, if_neg hne, if_pos hlt]
      rfl
    · rw [find?_cons_other hne] at h
      obtain ⟨before, after, hrest, hput⟩ := exists_put_new h
      refine ⟨(other, old) :: before, after, by rw [toList, hrest, List.cons_append], fun t => ?_⟩
      rw [put, if_neg hne, if_neg hlt, toList, hput, List.cons_append]

/-- An entry that is replaced stays where it is. -/
theorem exists_put_known {name : String} {old : FileTree} : ∀ {entries : Entries}, entries.Lawful →
    entries.find? name = some old →
      ∃ before after, entries.toList = before ++ (name, old) :: after
        ∧ ∀ t, (entries.put name t).toList = before ++ (name, t) :: after
  | .cons other u rest, hlawful, h => by
    by_cases hname : other = name
    · subst hname
      rw [find?, if_pos rfl, Option.some.injEq] at h
      subst h
      refine ⟨[], rest.toList, rfl, fun t => ?_⟩
      rw [put, if_pos rfl]
      rfl
    · rw [find?_cons_other hname] at h
      rw [Lawful] at hlawful
      -- the entry comes later, so its name is not before this one
      have hlt : ¬ name < other := String.lt_asymm (hlawful.2.1 name (mem_names_of_find? h))
      obtain ⟨before, after, hrest, hput⟩ := exists_put_known hlawful.2.2.2 h
      refine ⟨(other, u) :: before, after, by rw [toList, hrest, List.cons_append], fun t => ?_⟩
      rw [put, if_neg hname, if_neg hlt, toList, hput, List.cons_append]

theorem mem_names_put {name other : String} {t : FileTree} : ∀ {entries : Entries},
    other ∈ (entries.put name t).names → other = name ∨ other ∈ entries.names
  | .nil, h => Or.inl (List.mem_singleton.mp h)
  | .cons first u rest, h => by
    rw [put] at h
    split at h
    · rename_i hfirst
      exact Or.inr (hfirst ▸ h)
    · split at h
      · exact List.mem_cons.mp h
      · rcases List.mem_cons.mp h with rfl | hmem
        · exact Or.inr List.mem_cons_self
        · exact (mem_names_put hmem).imp_right (List.mem_cons_of_mem first)

theorem lawful_put {name : String} {t : FileTree} (hname : IsFileName name) (ht : t.Lawful) :
    ∀ {entries : Entries}, entries.Lawful → (entries.put name t).Lawful
  | .nil, _ => by simp [put, Lawful, names, hname, ht]
  | .cons other u rest, h => by
    have hparts := h
    rw [Lawful] at hparts
    obtain ⟨hother, hbefore, hu, hrest⟩ := hparts
    rw [put]
    split
    · rename_i hsame
      rw [Lawful]
      exact ⟨hname, hsame ▸ hbefore, ht, hrest⟩
    · rename_i hne
      split
      · rename_i hlt
        rw [Lawful]
        refine ⟨hname, fun n hn => ?_, ht, h⟩
        rcases List.mem_cons.mp hn with rfl | hmem
        · exact hlt
        · exact String.lt_trans hlt (hbefore n hmem)
      · rename_i hlt
        rw [Lawful]
        refine ⟨hother, fun n hn => ?_, hu, lawful_put hname ht hrest⟩
        rcases mem_names_put hn with rfl | hmem
        · exact Std.lt_of_le_of_ne hlt hne
        · exact hbefore n hmem

end Entries

/-! ## Trees -/

namespace FileTree

variable {t new : FileTree} {name : String}

theorem put_cons {entries : Entries} {inner : FileTree} {rest : List String} (hrest : rest ≠ [])
    (h : entries.find? name = some inner) :
    put new (name :: rest) (.directory entries) = .directory (entries.put name (put new rest inner)) := by
  obtain ⟨next, more, rfl⟩ := List.exists_cons_of_ne_nil hrest
  rw [put]
  · simp only [h]
  · simp

/-- Putting something below a tree changes one entry, or nothing at all. -/
theorem put_cases (new : FileTree) (name : String) (rest : List String) (t : FileTree) :
    put new (name :: rest) t = t
      ∨ ∃ entries u, t = .directory entries ∧ put new (name :: rest) t = .directory (entries.put name u)
        ∧ ((rest = [] ∧ u = new) ∨ ∃ inner, entries.find? name = some inner ∧ u = put new rest inner) := by
  cases t with
  | file bytes => cases rest <;> exact Or.inl rfl
  | sink => cases rest <;> exact Or.inl rfl
  | directory entries =>
    cases rest with
    | nil => exact Or.inr ⟨entries, new, rfl, rfl, Or.inl ⟨rfl, rfl⟩⟩
    | cons next more =>
      cases hfind : entries.find? name with
      | none =>
        left
        rw [put, hfind]
        simp
      | some inner =>
        exact Or.inr ⟨entries, _, rfl, put_cons (List.cons_ne_nil next more) hfind,
          Or.inr ⟨inner, hfind, rfl⟩⟩

/-- Only names of files lead through a lawful tree. -/
theorem isFileName_of_get? {place : List String} {inner : FileTree} (ht : t.Lawful)
    (h : t.get? place = some inner) : ∀ n ∈ place, IsFileName n := by
  induction place generalizing t with
  | nil => exact fun n hn => absurd hn List.not_mem_nil
  | cons name rest ih =>
    obtain ⟨entries, u, rfl, hfind, hget⟩ := get?_cons_eq_some_iff.mp h
    rw [Lawful] at ht
    intro n hn
    rcases List.mem_cons.mp hn with rfl | hmem
    · exact Entries.isFileName_of_find? ht hfind
    · exact ih (Entries.lawful_of_find? ht hfind) hget n hmem

/-- What was there is there: a directory is a directory, and all else is unchanged. -/
def Keeps (old new : FileTree) : Prop :=
  ∀ place t, old.get? place = some t →
    ∃ u, new.get? place = some u ∧ u.isDirectory = t.isDirectory ∧ (t.isDirectory = false → u = t)

/-- Something is where something was, and directories are where directories were. -/
structure Stays (old new : FileTree) : Prop where
  isSome : ∀ {place}, (old.get? place).isSome = true → (new.get? place).isSome = true
  hasDirectory : ∀ {place}, old.hasDirectory place = true → new.hasDirectory place = true

theorem Keeps.stays {old new : FileTree} (h : Keeps old new) : Stays old new := by
  refine ⟨fun {place} hsome => ?_, fun {place} hdir => ?_⟩
  · obtain ⟨t, ht⟩ := Option.isSome_iff_exists.mp hsome
    obtain ⟨u, hu, -⟩ := h place t ht
    rw [hu]
    rfl
  · obtain ⟨entries, hentries⟩ := hasDirectory_iff.mp hdir
    obtain ⟨u, hu, hdirectory, -⟩ := h place _ hentries
    unfold FileTree.hasDirectory
    rw [hu]
    exact hdirectory

/-- **Putting something at a place changes nothing apart from it**: what lies at another place, and not below
this one, is unchanged or is still a directory. -/
theorem get?_put_apart {place other : List String} (h : ¬ place <+: other) :
    (put new place t).get? other = t.get? other
      ∨ t.hasDirectory other = true ∧ (put new place t).hasDirectory other = true := by
  induction place generalizing t other with
  | nil => exact absurd List.nil_prefix h
  | cons name rest ih =>
    rcases put_cases new name rest t with hsame | ⟨entries, u, rfl, hput, hentry⟩
    · exact Or.inl (by rw [hsame])
    · rw [hput]
      cases other with
      | nil => exact Or.inr ⟨rfl, rfl⟩
      | cons first more =>
        unfold hasDirectory
        rw [get?, get?, Entries.find?_put]
        by_cases hfirst : first = name
        · subst hfirst
          have hrest : ¬ rest <+: more := fun hrest => h (List.cons_prefix_cons.mpr ⟨rfl, hrest⟩)
          rcases hentry with ⟨rfl, -⟩ | ⟨inner, hinner, rfl⟩
          · exact absurd List.nil_prefix hrest
          · rw [if_pos rfl, hinner]
            exact ih hrest
        · rw [if_neg hfirst]
          exact Or.inl rfl

/-- **Nothing that was there is lost when something is put where nothing was.** -/
theorem keeps_put {place : List String} (h : t.get? place = none) : Keeps t (put new place t) := by
  intro other u hu
  have hapart : ¬ place <+: other := by
    intro hbelow
    obtain ⟨more, rfl⟩ := hbelow
    rw [get?_append, h] at hu
    exact absurd hu (by simp)
  rcases @get?_put_apart t new _ _ hapart with hsame | ⟨hold, hnew⟩
  · exact ⟨u, hsame.trans hu, rfl, fun _ => rfl⟩
  · obtain ⟨before, hbefore⟩ := hasDirectory_iff.mp hold
    obtain ⟨after, hafter⟩ := hasDirectory_iff.mp hnew
    obtain rfl := Option.some.inj (hbefore.symm.trans hu)
    exact ⟨_, hafter, rfl, fun hfile => absurd hfile (by simp [isDirectory])⟩

theorem lawful_put (hnew : new.Lawful) {place : List String} (hplace : ∀ n ∈ place, IsFileName n)
    (ht : t.Lawful) : (put new place t).Lawful := by
  induction place generalizing t with
  | nil => exact hnew
  | cons name rest ih =>
    rcases put_cases new name rest t with hsame | ⟨entries, u, rfl, hput, hentry⟩
    · rw [hsame]
      exact ht
    · rw [Lawful] at ht
      rw [hput, Lawful]
      have hu : u.Lawful := by
        rcases hentry with ⟨-, rfl⟩ | ⟨inner, hinner, rfl⟩
        · exact hnew
        · exact ih (fun n hn => hplace n (List.mem_cons_of_mem name hn)) (Entries.lawful_of_find? ht hinner)
      exact Entries.lawful_put (hplace name List.mem_cons_self) hu ht

/-- A directory that something is put into is a directory. -/
theorem isDirectory_put {place : List String} (hplace : place ≠ []) :
    (put new place t).isDirectory = t.isDirectory := by
  obtain ⟨name, rest, rfl⟩ := List.exists_cons_of_ne_nil hplace
  rcases put_cases new name rest t with hsame | ⟨entries, u, rfl, hput, -⟩
  · rw [hsame]
  · rw [hput]
    rfl

/-- What is put below a place is put into what lies there. -/
theorem get?_put_append {place more : List String} (hmore : more ≠ []) {inner : FileTree}
    (h : t.get? place = some inner) :
    (put new (place ++ more) t).get? place = some (put new more inner) := by
  induction place generalizing t with
  | nil =>
    cases h
    rfl
  | cons name rest ih =>
    obtain ⟨entries, u, rfl, hfind, hget⟩ := get?_cons_eq_some_iff.mp h
    have hrest : rest ++ more ≠ [] := List.append_ne_nil_of_right_ne_nil rest hmore
    rw [List.cons_append]
    refine get?_cons_eq_some_iff.mpr ⟨_, put new (rest ++ more) u, put_cons hrest hfind, ?_, ih hget⟩
    rw [Entries.find?_put, if_pos rfl]

/-- A directory lies in a directory. -/
theorem isDirectory_of_get? {place : List String} {inner : FileTree} (h : t.get? place = some inner)
    (hinner : inner.isDirectory = true) : t.isDirectory = true := by
  cases place with
  | nil =>
    cases h
    exact hinner
  | cons name rest =>
    obtain ⟨entries, -, rfl, -⟩ := get?_cons_eq_some_iff.mp h
    rfl

end FileTree

/-! ## Files of packages -/

namespace Project

theorem placesBelow_eq : ∀ entries : Entries,
    placesBelow entries = entries.toList.flatMap fun e => (packagePlaces e.2).map (e.1 :: ·)
  | .nil => rfl
  | .cons name t rest => by rw [placesBelow, placesBelow_eq rest, Entries.toList, List.flatMap_cons]

/-- A new file in a package is found among the others. -/
theorem exists_packagePlaces_new {entries : Entries} (hmarker : marker ∈ entries.fileNames) {name : String}
    (hnew : entries.find? name = none) :
    ∃ before after, packagePlaces (.directory entries) = before ++ after
      ∧ ∀ bytes, packagePlaces (.directory (entries.put name (.file bytes))) = before ++ [name] :: after := by
  obtain ⟨before, after, hold, hput⟩ := Entries.exists_put_new hnew
  let files := fun es : List (String × FileTree) => (es.filter fun e => !e.2.isDirectory).map Prod.fst
  have hfiles : entries.fileNames = files before ++ files after := by
    simp [files, Entries.fileNames_eq, hold]
  have hfilesPut : ∀ bytes,
      (entries.put name (.file bytes)).fileNames = files before ++ name :: files after := by
    intro bytes
    simp [files, Entries.fileNames_eq, hput, FileTree.isDirectory]
  have hbelow : ∀ bytes, placesBelow (entries.put name (.file bytes)) = placesBelow entries := by
    intro bytes
    simp [placesBelow_eq, hold, hput, packagePlaces]
  rw [hfiles] at hmarker
  refine ⟨(files before).map ([·]), (files after).map ([·]) ++ placesBelow entries, ?_, fun bytes => ?_⟩
  · rw [packagePlaces, hfiles, if_pos (List.contains_iff_mem.mpr hmarker), List.map_append, List.append_assoc]
  · have hmarker : marker ∈ files before ++ name :: files after := by
      simp only [List.mem_append, List.mem_cons] at hmarker ⊢
      tauto
    rw [packagePlaces, hfilesPut, hbelow, if_pos (List.contains_iff_mem.mpr hmarker), List.map_append,
      List.map_cons, List.append_assoc, List.cons_append]

/-- A change inside of a directory changes what is found there only. -/
theorem exists_packagePlaces_known {entries : Entries} (hlawful : entries.Lawful) {name : String}
    {sub : FileTree} (hfind : entries.find? name = some sub) (hsub : sub.isDirectory = true) :
    ∃ before after,
      packagePlaces (.directory entries) = before ++ ((packagePlaces sub).map (name :: ·) ++ after)
        ∧ ∀ t : FileTree, t.isDirectory = true → packagePlaces (.directory (entries.put name t))
          = before ++ ((packagePlaces t).map (name :: ·) ++ after) := by
  obtain ⟨before, after, hold, hput⟩ := Entries.exists_put_known hlawful hfind
  have hfiles : ∀ t : FileTree, t.isDirectory = true →
      (entries.put name t).fileNames = entries.fileNames := by
    intro t ht
    simp [Entries.fileNames_eq, hold, hput, ht, hsub]
  let below := fun es : List (String × FileTree) => es.flatMap fun e => (packagePlaces e.2).map (e.1 :: ·)
  have hbelow : placesBelow entries
      = below before ++ ((packagePlaces sub).map (name :: ·) ++ below after) := by
    simp [below, placesBelow_eq, hold]
  have hbelowPut : ∀ t, placesBelow (entries.put name t)
      = below before ++ ((packagePlaces t).map (name :: ·) ++ below after) := by
    intro t
    simp [below, placesBelow_eq, hput]
  refine ⟨(if entries.fileNames.contains marker then entries.fileNames.map ([·]) else []) ++ below before,
    below after, ?_, fun t ht => ?_⟩
  · rw [packagePlaces, hbelow, List.append_assoc]
  · rw [packagePlaces, hbelowPut, hfiles t ht, List.append_assoc]

/-- **A new file in a package is found with the others, which keep their order.** -/
theorem exists_packagePlaces_put {t : FileTree} (ht : t.Lawful) {d : List String} {entries : Entries}
    (hdir : t.get? d = some (.directory entries)) (hmarker : marker ∈ entries.fileNames) {name : String}
    (hnew : entries.find? name = none) :
    ∃ before after, packagePlaces t = before ++ after
      ∧ ∀ bytes, packagePlaces (FileTree.put (.file bytes) (d ++ [name]) t)
        = before ++ (d ++ [name]) :: after := by
  induction d generalizing t with
  | nil =>
    cases hdir
    exact exists_packagePlaces_new hmarker hnew
  | cons n d ih =>
    obtain ⟨es, sub, rfl, hfind, hsubdir⟩ := FileTree.get?_cons_eq_some_iff.mp hdir
    rw [FileTree.Lawful] at ht
    have hsub : sub.isDirectory = true := FileTree.isDirectory_of_get? hsubdir rfl
    have hlast : d ++ [name] ≠ [] := by simp
    -- the old files of the directory are split where the new one goes
    obtain ⟨inBefore, inAfter, hin, hinPut⟩ := ih (Entries.lawful_of_find? ht hfind) hsubdir
    obtain ⟨before, after, hout, houtPut⟩ := exists_packagePlaces_known ht hfind hsub
    refine ⟨before ++ inBefore.map (n :: ·), inAfter.map (n :: ·) ++ after, ?_, fun bytes => ?_⟩
    · rw [hout, hin, List.map_append, List.append_assoc, List.append_assoc]
    · rw [List.cons_append, FileTree.put_cons hlast hfind,
        houtPut _ ((FileTree.isDirectory_put hlast).trans hsub), hinPut]
      simp

end Project

/-! ## Workspaces -/

namespace Workspace

/-- Paths lead where they led. -/
theorem follow_of_stays {old new : FileTree} (h : old.Stays new) {place target pieces : List String}
    (hfollow : follow old place pieces = .ok target) : follow new place pieces = .ok target := by
  induction pieces generalizing place with
  | nil => exact hfollow
  | cons piece rest ih =>
    rw [follow] at hfollow ⊢
    by_cases hdir : old.hasDirectory place = true
    · rw [hdir] at hfollow
      rw [h.hasDirectory hdir]
      by_cases hidle : (piece = "" || piece = ".") = true
      · rw [if_pos hidle] at hfollow ⊢
        exact ih hfollow
      · rw [if_neg hidle] at hfollow ⊢
        by_cases hup : piece = ".."
        · rw [if_pos hup] at hfollow ⊢
          exact ih hfollow
        · rw [if_neg hup] at hfollow ⊢
          by_cases hthere : (old.get? (place ++ [piece])).isSome = true
          · rw [hthere] at hfollow
            rw [h.isSome hthere]
            exact ih hfollow
          · simp only [Bool.not_eq_true, Bool.not_true, Bool.false_eq_true, if_false] at hthere hfollow
            rw [hthere] at hfollow
            exact absurd hfollow (by simp)
    · rw [if_pos (by simpa using hdir)] at hfollow
      exact absurd hfollow (by simp)

theorem place_of_stays {w w' : Workspace} (h : w.tree.Stays w'.tree) (hcwd : w'.cwd = w.cwd) {path : String}
    {place : List String} (hplace : w.place path = .ok place) : w'.place path = .ok place := by
  unfold Workspace.place piecesOf at hplace ⊢
  rw [hcwd]
  split
  · rename_i hempty
    rw [if_pos hempty] at hplace
    exact absurd hplace (by simp)
  · rename_i hfull
    rw [if_neg hfull] at hplace
    exact follow_of_stays h hplace

theorem place_of_keeps {w w' : Workspace} (h : w.tree.Keeps w'.tree) (hcwd : w'.cwd = w.cwd) {path : String}
    {place : List String} (hplace : w.place path = .ok place) : w'.place path = .ok place :=
  place_of_stays h.stays hcwd hplace

theorem lawful_put {w : Workspace} (hw : w.Lawful) {place : List String} (hplace : ∀ n ∈ place, IsFileName n)
    {t : FileTree} (ht : t.Lawful) : (w.put place t).Lawful :=
  ⟨FileTree.lawful_put ht hplace hw.tree, hw.cwd⟩

end Workspace

end ClassAtlas
