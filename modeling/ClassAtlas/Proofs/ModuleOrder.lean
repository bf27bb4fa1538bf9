import ClassAtlas.Proofs.Spelling
import ClassAtlas.Scan

/-!
# The order in which modules are read

Files are found directory by directory, those of a directory first and then those below its directories. The
tree of packages is built from their paths and walked from its root, and that gives the files back in the same
order: all paths through a directory come one after the other, so each package is made once and then filled.
So the modules that are read are the files that are found, in the order in which they are found, without those
that are no modules or lie in packages that are left out (`modulePaths_eq_listing`).
-/

namespace ClassAtlas

/-! ## Building a tree group by group -/

namespace PackageTree

section
variable {value : Package} {children : List PackageTree} {name : String}

theorem replaceChild_append {f : PackageTree → PackageTree} {c : PackageTree}
    (hfresh : ∀ d ∈ children, d.name ≠ name) (hc : c.name = name) :
    replaceChild name f (children ++ [c]) = children ++ [f c] := by
  induction children with
  | nil => rw [List.nil_append, replaceChild, if_pos hc, List.nil_append]
  | cons d rest ih =>
    rw [List.cons_append, replaceChild, if_neg (hfresh d List.mem_cons_self),
      ih fun e he => hfresh e (List.mem_cons_of_mem d he)]
    rfl

theorem child?_eq_none (hfresh : ∀ d ∈ children, d.name ≠ name) :
    (node value children).child? name = none :=
  List.find?_eq_none.mpr fun d hd => by simpa using hfresh d hd

/-- A path with a new first name makes a new child. -/
theorem insert_fresh (hfresh : ∀ d ∈ children, d.name ≠ name) (rest : List String) :
    (node value children).insert (name :: rest)
      = .node value (children ++ [(leaf ⟨name, some (kindAt rest.isEmpty name)⟩).insert rest]) := by
  have hnew : (node value children).ensureChild ⟨name, some (kindAt rest.isEmpty name)⟩
      = .node value (children ++ [leaf ⟨name, some (kindAt rest.isEmpty name)⟩]) := by
    rw [ensureChild, child?_eq_none hfresh]
    rfl
  rw [insert, hnew]
  exact congrArg (node value) (replaceChild_append hfresh rfl)

/-- A path with the last child's name goes on from that child. -/
theorem insert_last {c : PackageTree} (hfresh : ∀ d ∈ children, d.name ≠ name) (hc : c.name = name)
    (rest : List String) :
    (node value (children ++ [c])).insert (name :: rest) = .node value (children ++ [c.insert rest]) := by
  have hold : ((node value (children ++ [c])).child? name).isSome := by
    refine List.find?_isSome.mpr ⟨c, ?_, beq_iff_eq.mpr hc⟩
    exact List.mem_append_right children List.mem_cons_self
  rw [insert, ensureChild, if_pos hold]
  exact congrArg (node value) (replaceChild_append hfresh hc)

theorem insertAll_last {c : PackageTree} (hfresh : ∀ d ∈ children, d.name ≠ name) (hc : c.name = name)
    (paths : List (List String)) :
    insertAll (paths.map (name :: ·)) (node value (children ++ [c]))
      = .node value (children ++ [insertAll paths c]) := by
  induction paths generalizing c with
  | nil => rfl
  | cons path rest ih =>
    rw [List.map_cons, insertAll, insert_last hfresh hc, ih ((name_insert path c).trans hc), insertAll]

/-- **Paths through a new package make that package, and are put into it.** -/
theorem insertAll_fresh (hfresh : ∀ d ∈ children, d.name ≠ name) {paths : List (List String)}
    (hpaths : paths ≠ []) (hfull : [] ∉ paths) :
    insertAll (paths.map (name :: ·)) (node value children)
      = .node value (children ++ [insertAll paths (leaf ⟨name, some packageWord⟩)]) := by
  obtain ⟨path, rest, rfl⟩ := List.exists_cons_of_ne_nil hpaths
  have hpath : path.isEmpty = false := by
    cases path with
    | nil => exact absurd List.mem_cons_self hfull
    | cons first more => rfl
  have hkind : kindAt path.isEmpty name = packageWord := by
    rw [hpath]
    rfl
  have hname : ((leaf ⟨name, some packageWord⟩).insert path).name = name := name_insert path _
  rw [List.map_cons, insertAll, insert_fresh hfresh, hkind, insertAll_last hfresh hname, insertAll]

theorem name_insertAll (paths : List (List String)) (t : PackageTree) :
    (insertAll paths t).name = t.name := by
  induction paths generalizing t with
  | nil => rfl
  | cons path rest ih => rw [insertAll, ih, name_insert]

/-- New names without more behind them make children without children. -/
theorem insertAll_leaves {names : List String} (hnames : names.Nodup)
    (hfresh : ∀ d ∈ children, d.name ∉ names) :
    insertAll (names.map ([·])) (node value children)
      = .node value (children ++ names.map fun n => leaf ⟨n, some (kindAt true n)⟩) := by
  induction names generalizing children with
  | nil => rw [List.map_nil, List.map_nil, insertAll, List.append_nil]
  | cons n rest ih =>
    have hn : ∀ d ∈ children, d.name ≠ n := fun d hd he => hfresh d hd (he ▸ List.mem_cons_self)
    have hrest : ∀ d ∈ children ++ [leaf ⟨n, some (kindAt true n)⟩], d.name ∉ rest := by
      intro d hd
      rcases List.mem_append.mp hd with hold | hnew
      · exact fun hmem => hfresh d hold (List.mem_cons_of_mem n hmem)
      · rw [List.mem_singleton.mp hnew]
        exact (List.nodup_cons.mp hnames).1
    rw [List.map_cons, insertAll, insert_fresh hn]
    refine (ih (List.nodup_cons.mp hnames).2 hrest).trans ?_
    rw [List.append_assoc]
    rfl

end

/-! ## Wanted modules -/

variable {excluded : String → Bool}

/-- Do the names lead to a module, and to no package that is left out before that? -/
def leadsToModule (excluded : String → Bool) (place : List String) : Bool :=
  place.dropLast.all (!excluded ·) && place.getLast?.any (·.contains '.')

theorem leadsToModule_cons {place : List String} (hplace : place ≠ []) (name : String) :
    leadsToModule excluded (name :: place) = (!excluded name && leadsToModule excluded place) := by
  unfold leadsToModule
  rw [List.dropLast_cons_of_ne_nil hplace, List.getLast?_cons_of_ne_nil hplace, List.all_cons, Bool.and_assoc]

theorem filter_leadsToModule_map {paths : List (List String)} (hfull : [] ∉ paths) (name : String) :
    (paths.map (name :: ·)).filter (leadsToModule excluded)
      = (if excluded name then [] else paths.filter (leadsToModule excluded)).map (name :: ·) := by
  rw [List.filter_map]
  have hcons : ∀ path ∈ paths, (leadsToModule excluded ∘ (name :: ·)) path
      = (!excluded name && leadsToModule excluded path) :=
    fun path hpath => leadsToModule_cons (fun he => hfull (he ▸ hpath)) name
  rw [List.filter_congr hcons]
  cases excluded name <;> simp

theorem addressesOfAll_append (ts us : List PackageTree) :
    addressesOfAll excluded (ts ++ us) = addressesOfAll excluded ts ++ addressesOfAll excluded us := by
  simp only [addressesOfAll_eq_flatMap, List.flatMap_append]

/-- Files are listed if they have a dot in their names. -/
theorem addressesOfAll_leaves (names : List String) :
    addressesOfAll excluded (names.map fun n => leaf ⟨n, some (kindAt true n)⟩)
      = (names.map ([·])).filter (leadsToModule excluded) := by
  induction names with
  | nil => rfl
  | cons n rest ih =>
    have hleaf : addresses excluded (leaf ⟨n, some (kindAt true n)⟩)
        = if n.contains '.' then [[]] else [] := by
      unfold leaf
      rw [addresses, addressesOfAll, List.append_nil, isLeftOut, kindAt]
      have hwords := packageWord_ne_moduleWord
      cases n.contains '.' <;> simp [hwords, hwords.symm]
    have hsingle : leadsToModule excluded [n] = n.contains '.' := by
      simp [leadsToModule]
    rw [List.map_cons, addressesOfAll, hleaf, ih, List.map_cons, List.filter_cons, hsingle]
    cases n.contains '.' <;> rfl

end PackageTree

/-! ## Building the tree of a directory -/

namespace Project

open PackageTree ClassAtlas.Path

variable {excluded : String → Bool}

theorem nil_not_mem_packagePlaces {t : FileTree} (ht : t.Lawful) : [] ∉ packagePlaces t :=
  fun h => (isFileAt_of_mem ht h).ne_nil rfl

/-- The files of a directory itself that are found. -/
def ownFiles (entries : Entries) : List String :=
  if entries.fileNames.contains marker then entries.fileNames else []

theorem packagePlaces_directory (entries : Entries) :
    packagePlaces (.directory entries) = (ownFiles entries).map ([·]) ++ placesBelow entries := by
  rw [packagePlaces, ownFiles]
  split <;> rfl

theorem ownFiles_sublist (entries : Entries) : (ownFiles entries).Sublist entries.fileNames := by
  unfold ownFiles
  split
  · exact List.Sublist.refl _
  · exact List.nil_sublist _

/-- No file has the name of a directory. -/
theorem find?_ne_directory {entries : Entries} (h : entries.Lawful) {name : String}
    (hname : name ∈ ownFiles entries) (sub : Entries) : entries.find? name ≠ some (.directory sub) := by
  intro hfind
  obtain ⟨-, -, f, hf, hfile⟩ := Entries.find?_of_mem_fileNames h ((ownFiles_sublist entries).subset hname)
  rw [Option.some.inj (hf.symm.trans hfind)] at hfile
  exact absurd hfile (by simp [FileTree.isDirectory])

mutual

/-- **The modules of a directory are listed in the order in which its files are found.** -/
theorem addresses_insertAll : ∀ {t : FileTree}, t.Lawful → ∀ {name : String},
    addresses excluded (insertAll (packagePlaces t) (leaf ⟨name, some packageWord⟩))
      = if excluded name then [] else (packagePlaces t).filter (leadsToModule excluded)
  | .directory entries, ht, name => by
    rw [FileTree.Lawful] at ht
    -- the directory's own files become leaves, and then each directory in it becomes one more child
    let leaves := (ownFiles entries).map fun n => leaf ⟨n, some (kindAt true n)⟩
    have hnodup : (ownFiles entries).Nodup :=
      (Entries.nodup_names ht).sublist ((ownFiles_sublist entries).trans (Entries.fileNames_sublist entries))
    have hleaves : insertAll ((ownFiles entries).map ([·])) (leaf ⟨name, some packageWord⟩)
        = .node ⟨name, some packageWord⟩ leaves := insertAll_leaves hnodup (by simp)
    have hfresh : ∀ c ∈ leaves, ∀ sub, entries.find? c.name ≠ some (.directory sub) :=
      List.forall_mem_map.mpr fun n hn => find?_ne_directory ht hn
    obtain ⟨below, htree, hbelow⟩ := exists_insertAll_below ht hfresh ⟨name, some packageWord⟩
    rw [packagePlaces_directory, insertAll_append, hleaves, htree, addresses, addressesOfAll_append,
      addressesOfAll_leaves, hbelow, List.filter_append]
    simp [isLeftOut, packageWord_ne_moduleWord]
  | .file _, _, name => by
    simp [packagePlaces, insertAll, leaf, addresses, addressesOfAll, packageWord_ne_moduleWord]
  | .sink, _, name => by
    simp [packagePlaces, insertAll, leaf, addresses, addressesOfAll, packageWord_ne_moduleWord]

/-- The paths through a directory come one after the other, so they become one child. -/
theorem exists_insertAll_below : ∀ {entries : Entries}, entries.Lawful → ∀ {children : List PackageTree},
    (∀ c ∈ children, ∀ sub, entries.find? c.name ≠ some (.directory sub)) → ∀ value : Package,
      ∃ below, insertAll (placesBelow entries) (.node value children) = .node value (children ++ below)
        ∧ addressesOfAll excluded below = (placesBelow entries).filter (leadsToModule excluded)
  | .nil, _, children, _, value => ⟨[], by rw [List.append_nil]; rfl, rfl⟩
  | .cons name tree rest, ht, children, hfresh, value => by
    have hparts := ht
    rw [Entries.Lawful] at hparts
    obtain ⟨-, hbefore, htree, hrest⟩ := hparts
    have hold : ∀ c ∈ children, ∀ sub, rest.find? c.name ≠ some (.directory sub) :=
      fun c hc sub hfind => hfresh c hc sub (Entries.find?_cons_of_find? ht hfind)
    -- a directory in which nothing is found leaves no trace
    by_cases hempty : packagePlaces tree = []
    · obtain ⟨below, hinsert, hbelow⟩ := exists_insertAll_below hrest hold value
      refine ⟨below, ?_, ?_⟩
      · rw [placesBelow, hempty]
        exact hinsert
      · rw [placesBelow, hempty]
        exact hbelow
    · obtain ⟨sub, rfl⟩ : ∃ sub, tree = .directory sub := by
        cases tree with
        | directory sub => exact ⟨sub, rfl⟩
        | file bytes => exact absurd rfl hempty
        | sink => exact absurd rfl hempty
      have hfirst : ∀ c ∈ children, c.name ≠ name := by
        intro c hc he
        exact hfresh c hc sub (by rw [he, Entries.find?, if_pos rfl])
      let child := insertAll (packagePlaces (.directory sub)) (leaf ⟨name, some packageWord⟩)
      have hname : child.name = name := name_insertAll _ _
      have hnew : ∀ c ∈ children ++ [child], ∀ sub', rest.find? c.name ≠ some (.directory sub') := by
        intro c hc sub' hfind
        rcases List.mem_append.mp hc with hc | hc
        · exact hold c hc sub' hfind
        · rw [List.mem_singleton.mp hc, hname] at hfind
          exact Std.ne_of_lt (hbefore name (Entries.mem_names_of_find? hfind)) rfl
      obtain ⟨below, hinsert, hbelow⟩ := exists_insertAll_below hrest hnew value
      refine ⟨child :: below, ?_, ?_⟩
      · rw [placesBelow, insertAll_append,
          insertAll_fresh hfirst hempty (nil_not_mem_packagePlaces htree), hinsert, List.append_assoc]
        rfl
      · rw [placesBelow, List.filter_append, filter_leadsToModule_map (nil_not_mem_packagePlaces htree),
          addressesOfAll, hbelow, hname, addresses_insertAll htree]

end

/-! ## The modules of a project -/

/-- Is a name among those to leave out? -/
def isExcluded (excludes : Document) (name : String) : Bool :=
  (excludes.holds? name).getD false

/-- The modules among places. -/
def moduleFiles (base : String) (excludes : Document) (places : List (List String)) : List String :=
  (places.filter (leadsToModule (isExcluded excludes))).map (joinAll base)

/-- The modules of a project, read off the places of its files. -/
def listing (base : String) (excludes : Document) (places : List (List String)) :
    Except Fault (List String) :=
  match lastName? base with
  | none => .error .namelessPath
  | some root =>
    (Config.holds excludes root).bind fun _ =>
      .ok (if isExcluded excludes root then [] else moduleFiles base excludes places)

/-- **Modules are read in the order in which files are found**, if trimming leaves their paths alone. -/
theorem modulePaths_eq_listing {w : Workspace} {base : String} {b : List String} {t : FileTree}
    (hw : w.Lawful) (hbase : w.place base = .ok b) (ht : w.tree.get? b = some t)
    (hplain : ∀ place ∈ packagePlaces t, Undotted (joinNames place)) (excludes : Document) :
    Scan.modulePaths w base excludes = listing base excludes (packagePlaces t) := by
  have hlawful := FileTree.lawful_of_get? hw.tree ht
  have htrimmed : trimmedPlaces t = packagePlaces t := by
    unfold trimmedPlaces
    rw [List.map_congr_left, List.map_id]
    intro place hplace
    have hfile := isFileAt_of_mem hlawful hplace
    have hnames : ∀ name ∈ place, IsName name := fun name hname => (hfile.names name hname).toIsName
    exact (names_joinNames_eq_iff hnames hfile.ne_nil).mpr (hplain place hplace)
  unfold Scan.modulePaths listing
  rw [tree_eq hw hbase ht]
  cases lastName? base with
  | none => rfl
  | some root =>
    have hmodules : modules (isExcluded excludes) [] (.node ⟨root, some packageWord⟩ (branches t))
        = if isExcluded excludes root then []
          else (packagePlaces t).filter (leadsToModule (isExcluded excludes)) := by
      rw [modules_eq, branches, htrimmed, ← addresses_insertAll hlawful]
      exact congrArg _ (insertAll_node (packagePlaces t) _ _ []).symm
    refine congrArg ((Config.holds excludes root).bind ·) (funext fun _ => congrArg Except.ok ?_)
    refine (congrArg (List.map (joinAll base)) hmodules).trans ?_
    cases isExcluded excludes root <;> rfl

end Project

end ClassAtlas
