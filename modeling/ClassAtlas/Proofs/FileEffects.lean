import ClassAtlas.Proofs.Additions
import Mathlib.Data.List.DropRight

/-!
# What becomes of files

A path that leads to nothing, in a directory that is there, leads to what is made under its name
(`exists_of_newPlace`). Making directories changes no file, whether it ends in a fault or not
(`filesKept_makeDirectories`, `filesKept_ensureDirectory`). Writing a text changes the file that the path leads
to and no other (`saved_write`).
-/

namespace ClassAtlas

open ClassAtlas.Path

namespace FileTree

variable {t new : FileTree} {place other : List String}

/-! ## Files at places -/

/-- The bytes of the file at a place. -/
def bytes? (t : FileTree) (place : List String) : Option (List UInt8) :=
  match t.get? place with
  | some (.file bytes) => some bytes
  | _ => none

theorem bytes?_of_hasDirectory (h : t.hasDirectory place = true) : t.bytes? place = none := by
  obtain ⟨entries, hentries⟩ := hasDirectory_iff.mp h
  rw [bytes?, hentries]

theorem bytes?_of_none (h : t.get? place = none) : t.bytes? place = none := by
  rw [bytes?, h]

/-- Something can be put at the place: there is a directory for it. -/
def HasRoom (t : FileTree) (place : List String) : Prop :=
  ∀ above name, place = above ++ [name] → t.hasDirectory above = true

theorem hasRoom_of_isSome (h : (t.get? place).isSome = true) : t.HasRoom place := by
  intro above name hplace
  subst hplace
  exact hasDirectory_of_append (List.cons_ne_nil name []) h

theorem hasRoom_concat {above : List String} (h : t.hasDirectory above = true) (name : String) :
    t.HasRoom (above ++ [name]) := by
  intro above' name' hplace
  obtain ⟨hsame, -⟩ := List.append_inj' hplace rfl
  exact hsame ▸ h

/-- What is put at a place lies there, with all that is in it. -/
theorem get?_put_below (h : t.HasRoom place) (more : List String) :
    (put new place t).get? (place ++ more) = new.get? more := by
  rcases List.eq_nil_or_concat' place with hnil | ⟨above, name, hplace⟩
  · subst hnil
    rfl
  · subst hplace
    obtain ⟨entries, hentries⟩ := hasDirectory_iff.mp (h above name rfl)
    rw [List.append_assoc, get?_append, get?_put_append (List.cons_ne_nil name []) hentries, Option.bind_some,
      List.singleton_append, put, get?, Entries.find?_put, if_pos rfl]

theorem get?_put_self (h : t.HasRoom place) : (put new place t).get? place = some new := by
  have hself := @get?_put_below t new place h []
  rwa [List.append_nil] at hself

/-- Nothing but a directory has something below it. -/
theorem get?_append_of_not_hasDirectory (h : t.hasDirectory place = false) {more : List String}
    (hmore : more ≠ []) : t.get? (place ++ more) = none := by
  rw [← Option.not_isSome_iff_eq_none]
  intro hsome
  rw [hasDirectory_of_append hmore hsome] at h
  exact absurd h (by simp)

theorem eq_or_get?_eq_none (h : t.hasDirectory place = false) (hbelow : place <+: other) :
    other = place ∨ t.get? other = none := by
  obtain ⟨more, rfl⟩ := hbelow
  by_cases hmore : more = []
  · exact Or.inl (by rw [hmore, List.append_nil])
  · exact Or.inr (get?_append_of_not_hasDirectory h hmore)

/-- Everything stays if no directory is replaced. -/
theorem stays_put (hroom : t.HasRoom place) (hplain : t.hasDirectory place = false) :
    Stays t (put new place t) := by
  -- a place at or below the one that is filled was empty, or is that place
  refine ⟨fun {other} hsome => ?_, fun {other} hdir => ?_⟩
  · by_cases hbelow : place <+: other
    · rcases eq_or_get?_eq_none hplain hbelow with hself | hnone
      · rw [hself, get?_put_self hroom]
        rfl
      · rw [hnone] at hsome
        exact absurd hsome (by simp)
    · rcases @get?_put_apart t new place other hbelow with hsame | ⟨-, hnew⟩
      · rw [hsame]
        exact hsome
      · obtain ⟨entries, hentries⟩ := hasDirectory_iff.mp hnew
        rw [hentries]
        rfl
  · by_cases hbelow : place <+: other
    · obtain ⟨entries, hentries⟩ := hasDirectory_iff.mp hdir
      rcases eq_or_get?_eq_none hplain hbelow with hself | hnone
      · rw [hself, hplain] at hdir
        exact absurd hdir (by simp)
      · rw [hnone] at hentries
        exact absurd hentries (by simp)
    · rcases @get?_put_apart t new place other hbelow with hsame | ⟨-, hnew⟩
      · unfold hasDirectory at hdir ⊢
        rwa [hsame]
      · exact hnew

/-- **One file is changed at most**, if what is put at the place has no entries and no directory was there. -/
theorem bytes?_put_other (hroom : t.HasRoom place) (hplain : t.hasDirectory place = false)
    (hnew : ∀ more, more ≠ [] → new.get? more = none) (hother : other ≠ place) :
    (put new place t).bytes? other = t.bytes? other := by
  by_cases hbelow : place <+: other
  · obtain ⟨more, rfl⟩ := hbelow
    have hmore : more ≠ [] := by
      intro hnil
      exact hother (by rw [hnil, List.append_nil])
    rw [bytes?_of_none (get?_append_of_not_hasDirectory hplain hmore), bytes?_of_none]
    rw [get?_put_below hroom, hnew more hmore]
  · rcases @get?_put_apart t new place other hbelow with hsame | ⟨hold, hnew⟩
    · rw [bytes?, hsame, bytes?]
    · rw [bytes?_of_hasDirectory hold, bytes?_of_hasDirectory hnew]

theorem get?_file_below (bytes : List UInt8) (more : List String) (hmore : more ≠ []) :
    (file bytes).get? more = none := by
  obtain ⟨name, rest, rfl⟩ := List.exists_cons_of_ne_nil hmore
  rfl

theorem get?_emptyDirectory_below (more : List String) (hmore : more ≠ []) :
    emptyDirectory.get? more = none := by
  obtain ⟨name, rest, rfl⟩ := List.exists_cons_of_ne_nil hmore
  rfl

end FileTree

namespace Workspace

open FileTree

/-! ## Files of workspaces -/

/-- The working directory is the same, and so are all files but for those at the places. -/
structure FilesKept (written : List (List String)) (old new : Workspace) : Prop where
  cwd : new.cwd = old.cwd
  bytes : ∀ place, place ∉ written → new.tree.bytes? place = old.tree.bytes? place

theorem FilesKept.refl (written : List (List String)) (w : Workspace) : FilesKept written w w :=
  ⟨rfl, fun _ _ => rfl⟩

theorem FilesKept.trans {first second : List (List String)} {w₁ w₂ w₃ : Workspace}
    (h₁ : FilesKept first w₁ w₂) (h₂ : FilesKept second w₂ w₃) : FilesKept (first ++ second) w₁ w₃ := by
  refine ⟨h₂.cwd.trans h₁.cwd, fun place hplace => ?_⟩
  rw [List.mem_append, not_or] at hplace
  exact (h₂.bytes place hplace.2).trans (h₁.bytes place hplace.1)

/-! ## New places -/

theorem getLast?_piecesOf (w : Workspace) (path : String) :
    (w.piecesOf path).getLast? = (pieces path).getLast? := by
  rw [piecesOf_eq, List.getLast?_append_of_ne_nil _ (pieces_ne_nil path)]

/-- A list is cut in front of the empty pieces at its end. -/
theorem exists_empty_rest (l : List String) :
    ∃ after, l = (l.reverse.dropWhile (· = "")).reverse ++ after ∧ ∀ piece ∈ after, piece = "" := by
  refine ⟨(l.reverse.takeWhile (· = "")).reverse, ?_, fun piece hpiece => ?_⟩
  · rw [← List.reverse_append, List.takeWhile_append_dropWhile, List.reverse_reverse]
  · simpa using List.mem_takeWhile_imp (List.mem_reverse.mp hpiece)

/-- If only the last name of a path leads to nothing, there is a directory, and it has no such entry. -/
theorem missing_last {t : FileTree} {front after above : List String} {name : String} (hname : name ≠ "")
    (hslash : '/' ∉ name.toList) (hfront : follow t [] front = .ok above)
    (hafter : ∀ piece ∈ after, piece = "")
    (hmissing : follow t [] (front ++ name :: after) = .error .missing) :
    IsFileName name ∧ t.hasDirectory above = true ∧ t.get? (above ++ [name]) = none := by
  -- behind the name there are empty pieces only, which are never missing
  have hrest : ∀ place, follow t place after ≠ .error .missing := by
    intro place hplace
    rcases @follow_idle t place after (fun piece hpiece => Or.inl (hafter piece hpiece)) with hok | hblocked
    · rw [hok] at hplace
      exact absurd hplace (by simp)
    · rw [hblocked] at hplace
      exact absurd hplace (by simp)
  rw [follow_append, hfront] at hmissing
  change follow t above (name :: after) = .error .missing at hmissing
  rw [follow] at hmissing
  split at hmissing
  · exact absurd hmissing (by simp)
  · rename_i hdir
    split at hmissing
    · exact absurd hmissing (hrest above)
    · rename_i hidle
      split at hmissing
      · exact absurd hmissing (hrest above.dropLast)
      · rename_i hup
        split at hmissing
        · exact absurd hmissing (hrest (above ++ [name]))
        · rename_i hnone
          have hdot : name ≠ "." := fun hdot => hidle (by simp [hdot])
          exact ⟨⟨⟨hname, hslash⟩, hdot, hup⟩, by simpa using hdir, by simpa using hnone⟩

/-- **Something new is made in a directory, under a name that it does not have.** -/
theorem exists_of_newPlace {w : Workspace} {path : String} {place : List String}
    (hmissing : w.place path = .error .missing) (hnew : w.newPlace path = .ok place) :
    path ≠ "" ∧ ∃ front name after above, w.piecesOf path = front ++ name :: after
      ∧ (∀ piece ∈ after, piece = "") ∧ IsFileName name ∧ follow w.tree [] front = .ok above
      ∧ w.tree.hasDirectory above = true ∧ place = above ++ [name] ∧ w.tree.get? place = none := by
  unfold newPlace at hnew
  by_cases hempty : path = ""
  · rw [if_pos hempty] at hnew
    exact absurd hnew (by simp)
  rw [if_neg hempty] at hnew
  unfold Workspace.place at hmissing
  rw [if_neg hempty] at hmissing
  refine ⟨hempty, ?_⟩
  obtain ⟨after, hpieces, hafter⟩ := exists_empty_rest (w.piecesOf path)
  have hlast := List.rdropWhile_last_not (fun piece : String => decide (piece = "")) (w.piecesOf path)
  rw [List.rdropWhile] at hlast
  generalize ((w.piecesOf path).reverse.dropWhile (· = "")).reverse = kept at hnew hpieces hlast
  rcases List.eq_nil_or_concat' kept with hnil | ⟨front, name, hkept⟩
  · -- empty pieces alone lead to the root
    rw [hpieces, hnil, List.nil_append] at hmissing
    rcases @follow_idle w.tree [] after (fun piece hpiece => Or.inl (hafter piece hpiece)) with hok | hblocked
    · rw [hok] at hmissing
      exact absurd hmissing (by simp)
    · rw [hblocked] at hmissing
      exact absurd hmissing (by simp)
  · subst hkept
    have hname : name ≠ "" := by
      have hname := hlast (by simp)
      simpa using hname
    have hshape : w.piecesOf path = front ++ name :: after := by
      rw [hpieces, List.append_assoc]
      rfl
    have hslash : '/' ∉ name.toList := @no_slash_of_mem_piecesOf w path name (by rw [hshape]; simp)
    simp only [List.dropLast_concat, List.getLast?_concat] at hnew
    cases hfront : follow w.tree [] front with
    | error obstacle =>
      rw [hfront] at hnew
      exact absurd hnew (by simp)
    | ok above =>
      rw [hfront] at hnew
      rw [hshape] at hmissing
      obtain ⟨hfile, hdir, hnone⟩ := missing_last hname hslash hfront hafter hmissing
      have hplace : place = above ++ [name] := by simpa using hnew.symm
      exact ⟨front, name, after, above, hshape, hafter, hfile, hfront, hdir, hplace, hplace ▸ hnone⟩

/-! ## Making directories -/

section
variable {w w' : Workspace} {path : String}

theorem filesKept_put_emptyDirectory {place : List String} (hroom : w.tree.HasRoom place)
    (hnone : w.tree.get? place = none) : FilesKept [] w (w.put place .emptyDirectory) := by
  have hplain : w.tree.hasDirectory place = false := by rw [hasDirectory, hnone]; rfl
  refine ⟨rfl, fun other _ => ?_⟩
  by_cases hother : other = place
  · subst hother
    have hnew : (FileTree.put emptyDirectory other w.tree).bytes? other = none := by
      rw [bytes?, get?_put_self hroom]
      rfl
    exact hnew.trans (bytes?_of_none hnone).symm
  · exact bytes?_put_other hroom hplain get?_emptyDirectory_below hother

theorem filesKept_makeDirectory (h : w.makeDirectory path = .ok w') : FilesKept [] w w' := by
  unfold makeDirectory at h
  split at h
  · exact absurd h (by simp)
  · exact absurd h (by simp)
  · rename_i hmissing
    cases hnew : w.newPlace path with
    | error fault =>
      rw [hnew] at h
      exact absurd h (by simp [bind, Except.bind])
    | ok place =>
      rw [hnew] at h
      obtain ⟨-, front, name, after, above, -, -, -, -, hdir, hplace, hnone⟩ := exists_of_newPlace hmissing hnew
      have hroom : w.tree.HasRoom place := hplace ▸ hasRoom_concat hdir name
      have hw' : w' = w.put place .emptyDirectory := by simpa [bind, Except.bind, pure, Except.pure] using h.symm
      rw [hw']
      exact filesKept_put_emptyDirectory hroom hnone

theorem filesKept_tryDirectory (w : Workspace) (path : String) : FilesKept [] w (w.tryDirectory path).1 := by
  unfold tryDirectory
  cases hmake : w.makeDirectory path with
  | error fault => exact FilesKept.refl [] w
  | ok after => exact filesKept_makeDirectory hmake

/-- Making a directory that is the last of several keeps the files that were kept before. -/
theorem FilesKept.tryDirectory (h : FilesKept [] w w') (path : String) :
    FilesKept [] w (w'.tryDirectory path).1 :=
  h.trans (filesKept_tryDirectory w' path)

end

/-! ## Writing -/

/-- A text was saved under a path: the path leads to a file with this text, and no other file was changed.
If it leads to something that is neither file nor directory, no file was changed at all. -/
def Saved (path text : String) (old new : Workspace) : Prop :=
  ∃ place, new.place path = .ok place
    ∧ (new.tree.get? place = some (.file text.toUTF8.data.toList) ∧ FilesKept [place] old new
      ∨ new.tree.get? place = some .sink ∧ FilesKept [] old new)

section
variable {w w' : Workspace} {path text : String} {place : List String}

/-- A file that is put where there is room and no directory is the only one that is changed. -/
theorem filesKept_put_file (hroom : w.tree.HasRoom place) (hplain : w.tree.hasDirectory place = false)
    (bytes : List UInt8) : FilesKept [place] w (w.put place (.file bytes)) := by
  refine ⟨rfl, fun other hother => ?_⟩
  rw [List.mem_singleton] at hother
  exact bytes?_put_other hroom hplain (get?_file_below bytes) hother

/-- The path of a new file leads to it, if there is no slash at its end. -/
theorem place_put_new (hlast : (pieces path).getLast? ≠ some "") (hmissing : w.place path = .error .missing)
    (hnew : w.newPlace path = .ok place) (bytes : List UInt8) :
    (w.put place (.file bytes)).place path = .ok place := by
  obtain ⟨hempty, front, name, after, above, hshape, hafter, hname, hfront, hdir, hplace, hnone⟩ :=
    exists_of_newPlace hmissing hnew
  have hroom : w.tree.HasRoom place := hplace ▸ hasRoom_concat hdir name
  have hplain : w.tree.hasDirectory place = false := by rw [hasDirectory, hnone]; rfl
  have hstays := @stays_put w.tree (.file bytes) place hroom hplain
  -- an empty last piece would ask for a directory
  have hend : after = [] := by
    rcases List.eq_nil_or_concat' after with hnil | ⟨others, last, hlast'⟩
    · exact hnil
    · have hpiece : last = "" := hafter last (by rw [hlast']; simp)
      rw [← getLast?_piecesOf w, hshape, hlast', hpiece, ← List.cons_append, ← List.append_assoc,
        List.getLast?_concat] at hlast
      exact absurd rfl hlast
  unfold Workspace.place
  rw [if_neg hempty]
  show follow (FileTree.put (.file bytes) place w.tree) [] (w.piecesOf path) = .ok place
  rw [hshape, hend, follow_append, follow_of_stays hstays hfront]
  show follow (FileTree.put (.file bytes) place w.tree) above [name] = .ok place
  rw [follow_cons_name hname, hstays.hasDirectory hdir, ← hplace, get?_put_self hroom]
  rfl

/-- **Writing a text saves it.** -/
theorem saved_write (hlast : (pieces path).getLast? ≠ some "") (h : w.write path text = .ok w') :
    Saved path text w w' := by
  unfold write at h
  cases hplace : w.place path with
  | error obstacle =>
    rw [hplace] at h
    cases obstacle with
    | blocked => exact absurd h (by simp)
    | missing =>
      cases hnew : w.newPlace path with
      | error fault =>
        rw [hnew] at h
        exact absurd h (by simp [bind, Except.bind])
      | ok place =>
        rw [hnew] at h
        obtain ⟨-, front, name, after, above, -, -, -, -, hdir, hat, hnone⟩ := exists_of_newPlace hplace hnew
        have hroom : w.tree.HasRoom place := hat ▸ hasRoom_concat hdir name
        have hplain : w.tree.hasDirectory place = false := by rw [hasDirectory, hnone]; rfl
        have hw' : w' = w.put place (.file text.toUTF8.data.toList) := by
          simpa [bind, Except.bind, pure, Except.pure] using h.symm
        subst hw'
        exact ⟨place, place_put_new hlast hplace hnew _,
          Or.inl ⟨get?_put_self hroom, filesKept_put_file hroom hplain _⟩⟩
  | ok place =>
    rw [hplace] at h
    have hroom : w.tree.HasRoom place := hasRoom_of_isSome (isSome_get?_of_place hplace)
    cases ht : w.tree.get? place with
    | none =>
      have hsome := isSome_get?_of_place hplace
      rw [ht] at hsome
      exact absurd hsome (by simp)
    | some t =>
      simp only [ht] at h
      cases t with
      | directory entries => exact absurd h (by simp)
      | sink =>
        have hw' : w' = w := (Except.ok.inj h).symm
        subst hw'
        exact ⟨place, hplace, Or.inr ⟨ht, FilesKept.refl [] w'⟩⟩
      | file bytes =>
        have hplain : w.tree.hasDirectory place = false := by rw [hasDirectory, ht]; rfl
        have hw' : w' = w.put place (.file text.toUTF8.data.toList) := (Except.ok.inj h).symm
        have hstays := @stays_put w.tree (.file text.toUTF8.data.toList) place hroom hplain
        have hcwd : w'.cwd = w.cwd := by rw [hw']; rfl
        subst hw'
        exact ⟨place, place_of_stays hstays hcwd hplace,
          Or.inl ⟨get?_put_self hroom, filesKept_put_file hroom hplain _⟩⟩

end

end Workspace

end ClassAtlas
