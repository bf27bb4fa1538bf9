import ClassAtlas.Project
import ClassAtlas.Proofs.Trimming

/-!
# Where paths lead

In a workspace whose working directory is given by an absolute path, a path that leads somewhere leads to
one place, and the path's normal form is that place written out: `..` can be undone on the text because
every name on the way was followed (`steps_absolute`). Going from a directory along names leads to the
place below it, if it leads anywhere (`place_joinAll`, `eq_append_of_follow`).
-/

namespace ClassAtlas

namespace Path

/-! ## Pieces of joined paths -/

theorem no_slash_of_mem_pieces {path piece : String} (h : piece ∈ pieces path) : '/' ∉ piece.toList := by
  obtain ⟨cs, hcs, rfl⟩ := List.mem_map.mp h
  rw [String.toList_ofList]
  exact sep_not_mem_of_mem_splitOn hcs

theorem pieces_ne_nil (path : String) : pieces path ≠ [] := by
  rw [pieces]
  exact mt List.map_eq_nil_iff.mp (List.splitOn_ne_nil _ _)

theorem pieces_append_slash (front text : String) :
    pieces (front ++ "/" ++ text) = pieces front ++ pieces text := by
  have hchars : (front ++ "/" ++ text).toList = front.toList ++ '/' :: text.toList := by
    simp [String.toList_append]
  rw [pieces, hchars, List.splitOn_append_cons_self, List.map_append]
  rfl

theorem pieces_empty : pieces "" = [""] := rfl

theorem pieces_rooted (n : Nat) (text : String) :
    pieces (String.ofList (List.replicate n '/') ++ text) = List.replicate n "" ++ pieces text := by
  induction n with
  | zero => simp
  | succ n ih =>
    have hchars : String.ofList (List.replicate (n + 1) '/') ++ text
        = "" ++ "/" ++ (String.ofList (List.replicate n '/') ++ text) := by
      rw [← String.toList_inj]
      simp [List.replicate_succ]
    rw [hchars, pieces_append_slash, ih, pieces_empty]
    rfl

/-- The pieces of a text come behind those of the path in front of it; an empty last one is filled. -/
theorem pieces_behind {base : String} (hbase : base ≠ "") (text : String) :
    ∃ front, pieces (base ++ separator base ++ text) = front ++ pieces text
      ∧ (pieces base = front ∨ pieces base = front ++ [""]) := by
  unfold separator
  by_cases hend : base.endsWith "/" = true
  · rw [hend, Bool.or_true, if_pos rfl, String.append_empty]
    rw [endsWith_slash_eq, decide_eq_true_iff] at hend
    obtain ⟨cs, hcs⟩ := hend
    have hsplit : base = String.ofList cs ++ "/" := by
      rw [← String.toList_inj, ← hcs, String.toList_append, String.toList_ofList]
      rfl
    have hslash := pieces_append_slash (String.ofList cs) ""
    rw [String.append_empty, pieces_empty] at hslash
    exact ⟨pieces (String.ofList cs), by rw [hsplit, pieces_append_slash], Or.inr (by rw [hsplit, hslash])⟩
  · rw [if_neg (by simpa [hbase] using hend), pieces_append_slash]
    exact ⟨_, rfl, Or.inl rfl⟩

theorem ne_empty_of_isAbsolute {path : String} (h : isAbsolute path = true) : path ≠ "" := by
  rintro rfl
  rw [isAbsolute_eq] at h
  exact absurd h (by decide)

/-- What stands in front decides whether a path is absolute. -/
theorem isAbsolute_append {front : String} (h : front ≠ "") (text : String) :
    isAbsolute (front ++ text) = isAbsolute front := by
  have hfull : front.toList ≠ [] := mt String.toList_eq_nil_iff.mp h
  rw [isAbsolute_eq, isAbsolute_eq, String.toList_append]
  obtain ⟨c, rest, hrest⟩ := List.exists_cons_of_ne_nil hfull
  rw [hrest, List.cons_append]
  simp only [List.cons_prefix_cons, List.nil_prefix, and_true]

/-! ## Normal names -/

theorem pushName_idle (rooted : Bool) (reversed : List String) {piece : String}
    (h : piece = "" ∨ piece = ".") : pushName rooted reversed piece = reversed := by
  unfold pushName
  rw [if_pos (by simpa using h)]

theorem pushName_up {reversed : List String} (h : ∀ name ∈ reversed, name ≠ "..") :
    pushName true reversed ".." = reversed.tail := by
  cases reversed with
  | nil => rfl
  | cons last rest =>
    have hlast : (last == "..") = false := beq_eq_false_iff_ne.mpr (h last List.mem_cons_self)
    show (if last == ".." then ".." :: last :: rest else rest) = rest
    rw [hlast]
    rfl

theorem pushName_name (rooted : Bool) (reversed : List String) {name : String} (h : IsFileName name) :
    pushName rooted reversed name = name :: reversed := by
  unfold pushName
  rw [if_neg (by simp [h.ne_empty, h.ne_dot]), if_neg (by simpa using h.ne_dots)]

theorem dropCommon_append (front names : List String) : dropCommon front (front ++ names) = ([], names) := by
  induction front with
  | nil => cases names <;> rfl
  | cons name rest ih => rw [List.cons_append, dropCommon, if_pos (beq_self_eq_true name), ih]

end Path

/-! ## Places in a tree -/

namespace FileTree

theorem get?_append (t : FileTree) (place more : List String) :
    t.get? (place ++ more) = (t.get? place).bind (·.get? more) := by
  induction place generalizing t with
  | nil => rfl
  | cons name rest ih =>
    cases t with
    | directory entries =>
      rw [List.cons_append, get?, get?]
      cases entries.find? name with
      | none => rfl
      | some inner => exact ih inner
    | file bytes => rfl
    | sink => rfl

theorem get?_cons_eq_some_iff {t u : FileTree} {name : String} {rest : List String} :
    t.get? (name :: rest) = some u ↔ ∃ entries inner, t = .directory entries
      ∧ entries.find? name = some inner ∧ inner.get? rest = some u := by
  cases t with
  | directory entries =>
    rw [get?]
    cases hfind : entries.find? name <;> simp [hfind]
  | file bytes => simp [get?]
  | sink => simp [get?]

theorem hasDirectory_iff {t : FileTree} {place : List String} :
    t.hasDirectory place = true ↔ ∃ entries, t.get? place = some (.directory entries) := by
  unfold hasDirectory
  cases t.get? place with
  | none => simp
  | some inner => cases inner <;> simp [isDirectory]

/-- There is a directory above everything. -/
theorem hasDirectory_of_append {t : FileTree} {place more : List String} (hmore : more ≠ [])
    (h : (t.get? (place ++ more)).isSome = true) : t.hasDirectory place = true := by
  rw [get?_append] at h
  obtain ⟨name, rest, rfl⟩ := List.exists_cons_of_ne_nil hmore
  unfold hasDirectory
  cases hplace : t.get? place with
  | none => rw [hplace] at h; exact absurd h (by simp)
  | some inner =>
    rw [hplace] at h
    cases inner with
    | directory entries => rfl
    | file bytes => exact absurd h (by simp [get?])
    | sink => exact absurd h (by simp [get?])

end FileTree

namespace Workspace

open ClassAtlas.Path

/-! ## Following pieces -/

section
variable {t : FileTree} {place target : List String}

theorem follow_append (t : FileTree) (place first second : List String) :
    follow t place (first ++ second) = (follow t place first).bind fun middle => follow t middle second := by
  induction first generalizing place with
  | nil => rfl
  | cons piece rest ih =>
    rw [List.cons_append, follow, follow]
    split
    · rfl
    · split
      · exact ih place
      · split
        · exact ih place.dropLast
        · split
          · exact ih (place ++ [piece])
          · rfl

theorem follow_append_ok {first second : List String} (h : follow t place (first ++ second) = .ok target) :
    ∃ middle, follow t place first = .ok middle ∧ follow t middle second = .ok target := by
  rw [follow_append] at h
  cases hfirst : follow t place first with
  | error obstacle => rw [hfirst] at h; exact absurd h (by simp [Except.bind])
  | ok middle => rw [hfirst] at h; exact ⟨middle, rfl, h⟩

/-- An empty piece leads nowhere else, but only from a directory. -/
theorem follow_empty (h : t.hasDirectory place = true) (pieces : List String) :
    follow t place ("" :: pieces) = follow t place pieces := by
  rw [follow, h]
  rfl

theorem follow_empties (h : t.hasDirectory place = true) (n : Nat) (pieces : List String) :
    follow t place (List.replicate n "" ++ pieces) = follow t place pieces := by
  induction n with
  | zero => rfl
  | succ n ih => rw [List.replicate_succ, List.cons_append, follow_empty h, ih]

/-- Pieces that lead nowhere else are followed, unless there is no directory to look at. -/
theorem follow_idle {pieces : List String} (hidle : ∀ piece ∈ pieces, piece = "" ∨ piece = ".") :
    follow t place pieces = .ok place ∨ follow t place pieces = .error .blocked := by
  induction pieces with
  | nil => exact Or.inl rfl
  | cons piece rest ih =>
    rw [follow]
    split
    · exact Or.inr rfl
    · rw [if_pos (by simpa using hidle piece List.mem_cons_self)]
      exact ih fun p hp => hidle p (List.mem_cons_of_mem piece hp)

theorem follow_cons_name {name : String} (hname : IsFileName name) (rest : List String) :
    follow t place (name :: rest)
      = if !t.hasDirectory place then .error .blocked
        else if (t.get? (place ++ [name])).isSome then follow t (place ++ [name]) rest
        else .error .missing := by
  rw [follow]
  simp [hname.ne_empty, hname.ne_dot, hname.ne_dots]

/-- Names lead down, one by one. -/
theorem eq_append_of_follow {names : List String} (hnames : ∀ name ∈ names, IsFileName name)
    (h : follow t place names = .ok target) : target = place ++ names := by
  induction names generalizing place with
  | nil =>
    rw [follow, Except.ok.injEq] at h
    rw [List.append_nil, h]
  | cons name rest ih =>
    rw [follow_cons_name (hnames name List.mem_cons_self)] at h
    split at h
    · exact absurd h (by simp)
    · split at h
      · rw [ih (fun n hn => hnames n (List.mem_cons_of_mem name hn)) h, List.append_assoc]
        rfl
      · exact absurd h (by simp)

/-- Names lead to what is there. -/
theorem follow_of_get? {names : List String} (hnames : ∀ name ∈ names, IsFileName name)
    (h : (t.get? (place ++ names)).isSome = true) : follow t place names = .ok (place ++ names) := by
  induction names generalizing place with
  | nil => rw [follow, List.append_nil]
  | cons name rest ih =>
    have hbelow : (t.get? (place ++ [name] ++ rest)).isSome = true := by simpa using h
    have hname : (t.get? (place ++ [name])).isSome = true := by
      rw [FileTree.get?_append] at hbelow
      cases hget : t.get? (place ++ [name]) with
      | none => rw [hget] at hbelow; exact absurd hbelow (by simp)
      | some inner => rfl
    rw [follow_cons_name (hnames name List.mem_cons_self),
      FileTree.hasDirectory_of_append (List.cons_ne_nil name rest) h, hname]
    show follow t (place ++ [name]) rest = _
    rw [ih (fun n hn => hnames n (List.mem_cons_of_mem name hn)) hbelow, List.append_assoc]
    rfl

/-- Following pieces ends at something, if it started at something. -/
theorem isSome_of_follow {pieces : List String} (hstart : (t.get? place).isSome = true)
    (h : follow t place pieces = .ok target) : (t.get? target).isSome = true := by
  induction pieces generalizing place with
  | nil =>
    rw [follow, Except.ok.injEq] at h
    exact h ▸ hstart
  | cons piece rest ih =>
    rw [follow] at h
    split at h
    · exact absurd h (by simp)
    · split at h
      · exact ih hstart h
      · split at h
        · refine ih ?_ h
          rcases List.eq_nil_or_concat' place with rfl | ⟨above, name, rfl⟩
          · exact hstart
          · rw [List.dropLast_concat]
            rw [FileTree.get?_append] at hstart
            cases habove : t.get? above with
            | none => rw [habove] at hstart; exact absurd hstart (by simp)
            | some inner => rfl
        · split at h
          · exact ih ‹_› h
          · exact absurd h (by simp)

/--
**The text of a path gives the place it leads to.** A piece that was followed is undone by a `..` behind it,
so the names that are left are those of the place.
-/
theorem foldl_pushName_of_follow {pieces : List String} (hplace : ∀ name ∈ place, IsFileName name)
    (hpieces : ∀ piece ∈ pieces, '/' ∉ piece.toList) (h : follow t place pieces = .ok target) :
    pieces.foldl (pushName true) place.reverse = target.reverse ∧ ∀ name ∈ target, IsFileName name := by
  induction pieces generalizing place with
  | nil =>
    rw [follow, Except.ok.injEq] at h
    subst h
    exact ⟨rfl, hplace⟩
  | cons piece rest ih =>
    have hrest : ∀ p ∈ rest, '/' ∉ p.toList := fun p hp => hpieces p (List.mem_cons_of_mem piece hp)
    rw [List.foldl_cons]
    rw [follow] at h
    split at h
    · exact absurd h (by simp)
    · by_cases hidle : piece = "" ∨ piece = "."
      · rw [if_pos (by simpa using hidle)] at h
        rw [pushName_idle true _ hidle]
        exact ih hplace hrest h
      · rw [if_neg (by simpa using hidle)] at h
        by_cases hup : piece = ".."
        · subst hup
          rw [if_pos rfl] at h
          rw [pushName_up fun n hn => (hplace n (List.mem_reverse.mp hn)).ne_dots, List.tail_reverse]
          exact ih (fun n hn => hplace n (List.dropLast_subset place hn)) hrest h
        · rw [if_neg hup] at h
          split at h
          · obtain ⟨hfull, hdot⟩ := not_or.mp hidle
            have hname : IsFileName piece := ⟨⟨hfull, hpieces piece List.mem_cons_self⟩, hdot, hup⟩
            rw [pushName_name true _ hname, ← List.reverse_concat']
            refine ih (fun n hn => ?_) hrest h
            rcases List.mem_append.mp hn with hold | hnew
            · exact hplace n hold
            · exact List.mem_singleton.mp hnew ▸ hname
          · exact absurd h (by simp)

end

/-! ## Places of paths -/

section
variable {w : Workspace} {path : String} {d : List String}

theorem follow_of_place (h : w.place path = .ok d) : follow w.tree [] (w.piecesOf path) = .ok d := by
  unfold place at h
  split at h
  · exact absurd h (by simp)
  · exact h

theorem no_slash_of_mem_piecesOf {piece : String} (h : piece ∈ w.piecesOf path) : '/' ∉ piece.toList := by
  unfold piecesOf at h
  split at h
  · exact no_slash_of_mem_pieces h
  · rcases List.mem_append.mp h with hmem | hmem
    · exact no_slash_of_mem_pieces hmem
    · exact no_slash_of_mem_pieces hmem

/-- The names of a place are names of files. -/
theorem isFileName_of_place (h : w.place path = .ok d) : ∀ name ∈ d, IsFileName name :=
  (foldl_pushName_of_follow (by simp) (fun _ => no_slash_of_mem_piecesOf) (follow_of_place h)).2

theorem isSome_get?_of_place (h : w.place path = .ok d) : (w.tree.get? d).isSome = true :=
  isSome_of_follow rfl (follow_of_place h)

/-- Where paths lead somewhere, the root is a directory. -/
theorem hasDirectory_root_of_place (h : w.place path = .ok d) : w.tree.hasDirectory [] = true := by
  have hfollow := follow_of_place h
  have hne : w.piecesOf path ≠ [] := by
    unfold piecesOf
    split
    · exact pieces_ne_nil path
    · exact List.append_ne_nil_of_right_ne_nil _ (pieces_ne_nil path)
  obtain ⟨piece, rest, hpieces⟩ := List.exists_cons_of_ne_nil hne
  rw [hpieces, follow] at hfollow
  split at hfollow
  · exact absurd hfollow (by simp)
  · rename_i hroot
    simpa using hroot

theorem piecesOf_eq (w : Workspace) (path : String) :
    w.piecesOf path = (if isAbsolute path then [] else pieces w.cwd) ++ pieces path := by
  unfold piecesOf
  split <;> rfl

/-- **Going from a directory along names is following them from its place.** -/
theorem place_joinAll {base : String} {b names : List String} (hbase : w.place base = .ok b)
    (hnames : ∀ name ∈ names, IsFileName name) : w.place (joinAll base names) = follow w.tree b names := by
  cases names with
  | nil => exact hbase
  | cons first rest =>
    have hfull : base ≠ "" := by
      rintro rfl
      exact absurd hbase (by simp [place])
    have hisnames : ∀ name ∈ first :: rest, IsName name := fun name hname => (hnames name hname).toIsName
    have htext := joinAll_cons base hisnames
    obtain ⟨front, hpieces, hfront⟩ := pieces_behind hfull (joinNames (first :: rest))
    rw [pieces_joinNames hisnames (List.cons_ne_nil _ _)] at hpieces
    have hsame : isAbsolute (joinAll base (first :: rest)) = isAbsolute base := by
      rw [htext, String.append_assoc, isAbsolute_append hfull]
    have hne : joinAll base (first :: rest) ≠ "" := by
      rw [htext, String.append_assoc]
      exact fun hempty => hfull (String.append_eq_empty_iff.mp hempty).1
    -- the empty last piece of a path that ends with a slash can be left out
    have hreach : follow w.tree [] ((if isAbsolute base then [] else pieces w.cwd) ++ front) = .ok b := by
      have hfollow := follow_of_place hbase
      rw [piecesOf_eq] at hfollow
      rcases hfront with he | he
      · rwa [he] at hfollow
      · rw [he, ← List.append_assoc] at hfollow
        obtain ⟨middle, hmiddle, hlast⟩ := follow_append_ok hfollow
        rw [follow] at hlast
        split at hlast
        · exact absurd hlast (by simp)
        · rw [hmiddle, ← hlast]
          rfl
    rw [place, if_neg hne, piecesOf_eq, hsame, htext, hpieces, ← List.append_assoc, follow_append, hreach]
    rfl

end

/-! ## Absolute paths -/

section
variable {w : Workspace} (hcwd : isAbsolute w.cwd = true) {path : String} {d : List String}
include hcwd

/-- A path as it is read from the root. -/
def fromRoot (w : Workspace) (path : String) : String :=
  if isAbsolute path then path else join w.cwd path

theorem isAbsolute_fromRoot (path : String) : isAbsolute (w.fromRoot path) = true := by
  unfold fromRoot
  split
  · assumption
  · rename_i hrelative
    rw [join_of_relative w.cwd (by simpa using hrelative), String.append_assoc,
      isAbsolute_append (ne_empty_of_isAbsolute hcwd), hcwd]

/-- The pieces of a path from the root are those of its text from the root, but for empty ones. -/
theorem foldl_pushName_fromRoot (path : String) (reversed : List String) :
    (pieces (w.fromRoot path)).foldl (pushName true) reversed
      = (w.piecesOf path).foldl (pushName true) reversed := by
  unfold fromRoot piecesOf
  split
  · rfl
  · rename_i hrelative
    rw [join_of_relative w.cwd (by simpa using hrelative)]
    obtain ⟨front, hpieces, hfront⟩ := pieces_behind (ne_empty_of_isAbsolute hcwd) path
    rw [hpieces]
    rcases hfront with he | he
    · rw [he]
    · rw [he, List.foldl_append, List.foldl_append, List.foldl_append, List.foldl_cons, List.foldl_nil,
        pushName_idle true _ (Or.inl rfl)]

/-- **A path that leads somewhere is absolute as the place written out, behind slashes.** -/
theorem absolute_of_place (h : w.place path = .ok d) :
    ∃ n, absolute w.cwd path = String.ofList (List.replicate (n + 1) '/') ++ joinNames d := by
  have hfold := (foldl_pushName_of_follow (by simp) (fun _ => no_slash_of_mem_piecesOf)
    (follow_of_place h)).1
  have hkept : ((pieces (w.fromRoot path)).foldl (pushName true) []).reverse = d := by
    rw [foldl_pushName_fromRoot hcwd, ← List.reverse_nil, hfold, List.reverse_reverse]
  obtain ⟨n, hn⟩ := Nat.exists_eq_succ_of_ne_zero (leadingSlashes_ne_zero (isAbsolute_fromRoot hcwd path))
  have hslashes : (n.succ != 0) = true := by simp
  refine ⟨n, ?_⟩
  show normal (w.fromRoot path) = _
  unfold normal
  simp only [hn, hslashes, hkept]
  exact if_neg (by simp [List.replicate_succ])

/-- The pieces of the absolute path: empty ones, and the names of the place; one more empty one at the
root. -/
theorem pieces_absolute (h : w.place path = .ok d) :
    ∃ n, pieces (absolute w.cwd path) = List.replicate (n + 1) "" ++ if d = [] then [""] else d := by
  obtain ⟨n, hn⟩ := absolute_of_place hcwd h
  refine ⟨n, ?_⟩
  rw [hn, pieces_rooted, List.append_cancel_left_eq]
  split
  · rename_i hroot
    rw [hroot]
    rfl
  · rename_i hbelow
    exact pieces_joinNames (fun name hname => (isFileName_of_place h name hname).toIsName) hbelow

/-- **The names of an absolute path are those of its place.** -/
theorem steps_absolute (h : w.place path = .ok d) : steps (absolute w.cwd path) = d := by
  obtain ⟨n, hn⟩ := pieces_absolute hcwd h
  have hfull : d.filter (· != "") = d :=
    List.filter_eq_self.mpr fun name hname => by simpa using (isFileName_of_place h name hname).ne_empty
  have hempty : (List.replicate (n + 1) "").filter (· != "") = [] := by simp
  rw [steps, hn, List.filter_append, hempty, List.nil_append]
  split
  · rename_i hroot
    rw [hroot]
    rfl
  · exact hfull

/-- The absolute path leads to the same place. -/
theorem place_absolute (h : w.place path = .ok d) : w.place (absolute w.cwd path) = .ok d := by
  obtain ⟨n, hn⟩ := pieces_absolute hcwd h
  have habsolute : isAbsolute (absolute w.cwd path) = true :=
    isAbsolute_normal (isAbsolute_fromRoot hcwd path)
  have hroot := hasDirectory_root_of_place h
  rw [place, if_neg (ne_empty_of_isAbsolute habsolute), piecesOf, if_pos habsolute, hn,
    follow_empties hroot]
  split
  · rename_i hd
    rw [follow_empty hroot, hd]
    rfl
  · exact follow_of_get? (isFileName_of_place h) (isSome_get?_of_place h)

/-- The last name of an absolute path is that of its place. -/
theorem baseName_absolute (h : w.place path = .ok d) :
    baseName (absolute w.cwd path) = d.getLast?.getD "" := by
  obtain ⟨n, hn⟩ := pieces_absolute hcwd h
  rw [baseName, hn]
  split
  · rename_i hroot
    rw [List.getLast?_concat, hroot]
    rfl
  · rename_i hbelow
    rw [List.getLast?_append_of_ne_nil _ hbelow]

/-- **The path from a directory to what lies below it is its place below the directory.** -/
theorem relative_of_place {base : String} {b names : List String} (hbase : w.place base = .ok b)
    (h : w.place path = .ok (b ++ names)) (hne : names ≠ []) :
    relative w.cwd path base = joinNames names := by
  unfold relative
  rw [steps_absolute hcwd hbase, steps_absolute hcwd h, dropCommon_append]
  obtain ⟨first, rest, rfl⟩ := List.exists_cons_of_ne_nil hne
  rfl

/-- The names of a path below a directory are those of its place there, after trimming. -/
theorem partsBelow_of_place {base : String} {b names : List String} (hbase : w.place base = .ok b)
    (h : w.place path = .ok (b ++ names)) (hne : names ≠ []) :
    PackageTree.partsBelow w.cwd base path = Path.names (joinNames names) := by
  rw [PackageTree.partsBelow, relative_of_place hcwd hbase (place_absolute hcwd h) hne]

end

end Workspace

end ClassAtlas
