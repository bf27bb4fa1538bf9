import ClassAtlas.Project
import ClassAtlas.Proofs.PathNames
import ClassAtlas.Proofs.PrefixTree
import ClassAtlas.Proofs.Settings

/-!
# Which files are read as modules

The modules of a tree are listed by the names that lead to them (`modules_eq_addresses`): a place is listed
if a module is there and no package on the way is left out (`mem_addresses_iff`), and it is listed once
(`nodup_addresses`). In a tree that is built from paths of files, none of which leads on from another, a
place is a module iff one of the paths ends there in a name with a dot.
-/

namespace ClassAtlas.PackageTree

variable {excluded : String → Bool}

/-! ## Places of modules -/

/-- Is a package left out, with all that lies in it? -/
def isLeftOut (excluded : String → Bool) (p : Package) : Bool :=
  p.kind = some packageWord && excluded p.name

mutual

/-- The places of the modules of a tree, in order. -/
def addresses (excluded : String → Bool) : PackageTree → List (List String)
  | .node value children =>
    if isLeftOut excluded value then []
    else (if value.kind = some moduleWord then [[]] else []) ++ addressesOfAll excluded children

/-- The places of the modules of several trees. -/
def addressesOfAll (excluded : String → Bool) : List PackageTree → List (List String)
  | [] => []
  | t :: rest => (addresses excluded t).map (t.name :: ·) ++ addressesOfAll excluded rest

end

theorem addressesOfAll_eq_flatMap (ts : List PackageTree) :
    addressesOfAll excluded ts = ts.flatMap fun t => (addresses excluded t).map (t.name :: ·) := by
  induction ts with
  | nil => rfl
  | cons t rest ih => rw [addressesOfAll, ih, List.flatMap_cons]

mutual

/-- The names above a tree stand in front of the places in it; the first name is the root's. -/
theorem modules_eq_addresses (excluded : String → Bool) : ∀ (t : PackageTree) (above : List String),
    modules excluded above t
      = (addresses excluded t).map fun place => (above ++ t.name :: place).drop 1
  | .node value children, above => by
      rw [modules, addresses, isLeftOut]
      split
      · rfl
      · dsimp only
        rw [modulesOfAll_eq_addresses excluded children (above ++ [value.name]), List.map_append]
        congr 1
        · split <;> rfl
        · refine List.map_congr_left fun place _ => ?_
          rw [List.append_assoc]
          rfl

theorem modulesOfAll_eq_addresses (excluded : String → Bool) :
    ∀ (ts : List PackageTree) (above : List String),
      modulesOfAll excluded above ts = (addressesOfAll excluded ts).map fun place => (above ++ place).drop 1
  | [], _ => rfl
  | t :: rest, above => by
      rw [modulesOfAll, addressesOfAll, modules_eq_addresses excluded t above,
        modulesOfAll_eq_addresses excluded rest above, List.map_append, List.map_map]
      rfl

end

theorem modules_eq (excluded : String → Bool) (t : PackageTree) :
    modules excluded [] t = addresses excluded t := by
  rw [modules_eq_addresses]
  exact List.map_id _

theorem nil_mem_addresses_iff (t : PackageTree) :
    [] ∈ addresses excluded t ↔ isLeftOut excluded t.value = false ∧ t.value.kind = some moduleWord := by
  cases t with
  | node value children =>
    have hbelow : [] ∉ addressesOfAll excluded children := by
      simp [addressesOfAll_eq_flatMap]
    rw [addresses]
    show _ ↔ isLeftOut excluded value = false ∧ value.kind = some moduleWord
    cases isLeftOut excluded value with
    | true => simp
    | false => by_cases hkind : value.kind = some moduleWord <;> simp [hkind, hbelow]

theorem cons_mem_addresses_iff (t : PackageTree) (name : String) (place : List String) :
    name :: place ∈ addresses excluded t ↔ isLeftOut excluded t.value = false
      ∧ ∃ c ∈ t.children, c.name = name ∧ place ∈ addresses excluded c := by
  cases t with
  | node value children =>
    have hbelow : name :: place ∈ addressesOfAll excluded children
        ↔ ∃ c ∈ children, c.name = name ∧ place ∈ addresses excluded c := by
      simp [addressesOfAll_eq_flatMap, and_comm]
    rw [addresses]
    show _ ↔ isLeftOut excluded value = false
      ∧ ∃ c ∈ children, c.name = name ∧ place ∈ addresses excluded c
    rw [← hbelow]
    cases isLeftOut excluded value with
    | true => simp
    | false => by_cases hkind : value.kind = some moduleWord <;> simp [hkind]

/-- No package on the way to a place is left out. -/
def OpenTo (excluded : String → Bool) (t : PackageTree) (place : List String) : Prop :=
  ∀ front, front <+: place → ∀ p, t.value? front = some p → isLeftOut excluded p = false

theorem openTo_nil_iff (t : PackageTree) : OpenTo excluded t [] ↔ isLeftOut excluded t.value = false := by
  constructor
  · intro h
    exact h [] List.nil_prefix t.value rfl
  · intro h front hfront p hp
    rw [List.prefix_nil.mp hfront] at hp
    cases hp
    exact h

theorem openTo_cons_iff {t c : PackageTree} {name : String} {place : List String}
    (hc : t.child? name = some c) :
    OpenTo excluded t (name :: place) ↔ isLeftOut excluded t.value = false ∧ OpenTo excluded c place := by
  have hbelow : ∀ front, t.value? (name :: front) = c.value? front := by
    intro front
    rw [value?_cons, hc, Option.bind_some]
  constructor
  · intro h
    refine ⟨h [] List.nil_prefix t.value rfl, fun front hfront p hp => ?_⟩
    exact h (name :: front) (List.cons_prefix_cons.mpr ⟨rfl, hfront⟩) p ((hbelow front).trans hp)
  · rintro ⟨hhere, h⟩ front hfront p hp
    rcases List.prefix_cons_iff.mp hfront with rfl | ⟨rest, rfl, hrest⟩
    · cases hp
      exact hhere
    · exact h rest hrest p ((hbelow rest).symm.trans hp)

/-- **The modules that are listed are those to which no package that is left out leads.** -/
theorem mem_addresses_iff {t : PackageTree} (h : Distinct t) (place : List String) :
    place ∈ addresses excluded t
      ↔ OpenTo excluded t place ∧ ∃ p, t.value? place = some p ∧ p.kind = some moduleWord := by
  induction place generalizing t with
  | nil => simp [nil_mem_addresses_iff, openTo_nil_iff, value?_nil]
  | cons name place ih =>
    rw [cons_mem_addresses_iff]
    constructor
    · rintro ⟨hhere, c, hc, hname, hplace⟩
      have hchild := h.child?_eq_some_iff.mpr ⟨hc, hname⟩
      obtain ⟨hopen, hmodule⟩ := (ih (h.children.2 c hc)).mp hplace
      rw [openTo_cons_iff hchild, value?_cons, hchild]
      exact ⟨⟨hhere, hopen⟩, hmodule⟩
    · rintro ⟨hopen, p, hp, hkind⟩
      rw [value?_cons] at hp
      obtain ⟨c, hchild, hp⟩ := Option.bind_eq_some_iff.mp hp
      obtain ⟨hc, hname⟩ := h.child?_eq_some_iff.mp hchild
      obtain ⟨hhere, hbelow⟩ := (openTo_cons_iff hchild).mp hopen
      exact ⟨hhere, c, hc, hname, (ih (h.children.2 c hc)).mpr ⟨hbelow, p, hp, hkind⟩⟩

/-- **A module is listed once.** -/
theorem nodup_addresses {t : PackageTree} (h : Distinct t) : (addresses excluded t).Nodup := by
  induction h with
  | @node value children names below ih =>
    rw [addresses]
    split
    · exact List.nodup_nil
    · rw [addressesOfAll_eq_flatMap]
      refine List.Nodup.append ?_ ?_ ?_
      · split <;> simp
      · refine List.nodup_flatMap.mpr ⟨fun c hc => ?_, ?_⟩
        · exact (ih c hc).map fun _ _ he => (List.cons.inj he).2
        · -- places in different children differ in their first name
          refine (List.pairwise_map.mp names).imp fun {c d} hne => ?_
          intro place hfirst hsecond
          obtain ⟨_, -, rfl⟩ := List.mem_map.mp hfirst
          obtain ⟨_, -, he⟩ := List.mem_map.mp hsecond
          exact hne (List.cons.inj he).1.symm
      · intro place hown hbelow
        obtain ⟨c, -, hplace⟩ := List.mem_flatMap.mp hbelow
        obtain ⟨rest, -, rfl⟩ := List.mem_map.mp hplace
        split at hown <;> simp at hown

/-! ## Trees of files -/

/-- No path leads on from another. -/
def PrefixFree (all : List (List String)) : Prop :=
  ∀ p ∈ all, ∀ q ∈ all, p <+: q → p = q

/-- Does the last name of a path have a dot in it? -/
def EndsDotted (place : List String) : Prop :=
  ∃ name, place.getLast? = some name ∧ name.contains '.' = true

section
variable {all : List (List String)} {place : List String}

/-- The first path through a place makes it. -/
theorem exists_path_of_found {p : Package} (h : all.findSome? (along? place) = some p) :
    ∃ path ∈ all, place <+: path ∧ p = along path place := by
  obtain ⟨path, hpath, hmade⟩ := List.exists_of_findSome?_eq_some h
  unfold along? at hmade
  split at hmade
  · rename_i hthrough
    exact ⟨path, hpath, hthrough, (Option.some.inj hmade).symm⟩
  · exact absurd hmade (by simp)

theorem exists_found_of_path {path : List String} (hpath : path ∈ all) (hthrough : place <+: path) :
    ∃ p, all.findSome? (along? place) = some p := by
  refine Option.isSome_iff_exists.mp (List.findSome?_isSome_iff.mpr ⟨path, hpath, ?_⟩)
  rw [along?, if_pos hthrough]
  rfl

theorem packageWord_ne_moduleWord : packageWord ≠ moduleWord := by decide

/-- A place becomes a module where a path ends in a name with a dot. -/
theorem kind_along_iff {path : List String} (hplace : place ≠ []) :
    (along path place).kind = some moduleWord ↔ place = path ∧ EndsDotted place := by
  have hwords := packageWord_ne_moduleWord
  have hlast : place.getLast? = some (place.getLast hplace) := List.getLast?_eq_some_getLast hplace
  unfold along kindAt EndsDotted
  by_cases hend : place = path
  · by_cases hdot : (place.getLast hplace).contains '.' <;> simp_all
  · simp_all

theorem found_module_iff (hfree : PrefixFree all) (hplace : place ≠ []) :
    (∃ p, all.findSome? (along? place) = some p ∧ p.kind = some moduleWord)
      ↔ place ∈ all ∧ EndsDotted place := by
  constructor
  · rintro ⟨p, hp, hkind⟩
    obtain ⟨path, hpath, -, rfl⟩ := exists_path_of_found hp
    obtain ⟨rfl, hdotted⟩ := (kind_along_iff hplace).mp hkind
    exact ⟨hpath, hdotted⟩
  · rintro ⟨hmem, hdotted⟩
    obtain ⟨p, hp⟩ := exists_found_of_path hmem List.prefix_rfl
    -- whichever path came first through the place, it is the one that ends there
    obtain ⟨path, hpath, hthrough, rfl⟩ := exists_path_of_found hp
    have hsame := hfree place hmem path hpath hthrough
    exact ⟨_, hp, (kind_along_iff hplace).mpr ⟨hsame, hdotted⟩⟩

/-- A place in the middle of a path becomes a package. -/
theorem along_of_ne {path : List String} (h : place ≠ path) :
    along path place = ⟨place.getLast?.getD "", some packageWord⟩ := by
  simp [along, kindAt, h]

/-- The names in front of the last one are those that the fronts of a path end in. -/
theorem mem_dropLast_iff {name : String} :
    name ∈ place.dropLast ↔ ∃ front, front <+: place ∧ front ≠ place ∧ front.getLast? = some name := by
  constructor
  · intro h
    obtain ⟨before, after, hsplit⟩ := List.append_of_mem h
    have hplace : place ≠ [] := by
      rintro rfl
      exact absurd h List.not_mem_nil
    have hwhole := List.dropLast_append_getLast hplace
    rw [hsplit, List.append_assoc, List.cons_append, List.append_cons] at hwhole
    refine ⟨before ++ [name], ⟨_, hwhole⟩, ?_, List.getLast?_concat⟩
    intro hsame
    rw [hsame] at hwhole
    exact absurd (List.append_right_eq_self.mp hwhole) (by simp)
  · rintro ⟨front, ⟨rest, rfl⟩, hne, hlast⟩
    have hrest : rest ≠ [] := by
      rintro rfl
      exact hne (List.append_nil front).symm
    rw [List.dropLast_append_of_ne_nil hrest]
    exact List.mem_append_left _ (List.mem_of_getLast? hlast)

/-- A tree that is made up of paths below a root. -/
structure MadeOf (t : PackageTree) (name : String) (all : List (List String)) : Prop where
  distinct : Distinct t
  root : t.value = ⟨name, some packageWord⟩
  below : ∀ place, place ≠ [] → t.value? place = all.findSome? (along? place)

theorem madeOf_build (name cwd base : String) (paths : List String) :
    MadeOf ((PackageTree.root name).build cwd base paths) name (paths.map (partsBelow cwd base)) where
  distinct := distinct_build cwd base paths (distinct_leaf _)
  root := by
    have hnil := value?_build cwd base paths (PackageTree.root name) []
    exact Option.some.inj hnil
  below := by
    intro place hplace
    rw [value?_build]
    obtain ⟨first, rest, rfl⟩ := List.exists_cons_of_ne_nil hplace
    rfl

variable {t : PackageTree} {name : String}

/-- The way to a file is open iff none of the names in front of the file's is excluded. -/
theorem MadeOf.openTo_iff (h : MadeOf t name all) (hfree : PrefixFree all) (hmem : place ∈ all)
    (hdotted : EndsDotted place) :
    OpenTo excluded t place ↔ excluded name = false ∧ ∀ n ∈ place.dropLast, excluded n = false := by
  -- a front of the path other than the path itself is no path, so it was made a package
  have hpackage : ∀ front, front ≠ [] → front <+: place → front ≠ place →
      t.value? front = some ⟨front.getLast?.getD "", some packageWord⟩ := by
    intro front hfront hthrough hne
    obtain ⟨p, hp⟩ := exists_found_of_path hmem hthrough
    obtain ⟨path, hpath, -, rfl⟩ := exists_path_of_found hp
    have hmiddle : front ≠ path := by
      rintro rfl
      exact hne (hfree front hpath place hmem hthrough)
    rw [h.below front hfront, hp, along_of_ne hmiddle]
  constructor
  · intro hopen
    constructor
    · have hroot := hopen [] List.nil_prefix t.value rfl
      rw [h.root] at hroot
      exact hroot
    · intro n hn
      obtain ⟨front, hthrough, hne, hlast⟩ := mem_dropLast_iff.mp hn
      have hfront : front ≠ [] := by
        rintro rfl
        exact absurd hlast (by simp)
      have hclosed := hopen front hthrough _ (hpackage front hfront hthrough hne)
      rw [hlast] at hclosed
      exact hclosed
  · rintro ⟨hroot, habove⟩ front hthrough p hp
    by_cases hfront : front = []
    · subst hfront
      rw [value?_nil, h.root] at hp
      cases hp
      exact hroot
    · by_cases hne : front = place
      · -- the file itself is a module, whatever its name
        subst hne
        obtain ⟨q, hq, hkind⟩ := (found_module_iff hfree hfront).mpr ⟨hmem, hdotted⟩
        rw [h.below front hfront, hq] at hp
        cases hp
        rw [isLeftOut, hkind]
        rfl
      · rw [hpackage front hfront hthrough hne] at hp
        cases hp
        have hlast := List.getLast?_eq_some_getLast hfront
        rw [isLeftOut, hlast]
        exact habove _ (mem_dropLast_iff.mpr ⟨front, hthrough, hne, hlast⟩)

/-- **The modules of a tree of files are the files with a dot to which no excluded package leads.** -/
theorem MadeOf.mem_addresses_iff (h : MadeOf t name all) (hfree : PrefixFree all) (hfull : [] ∉ all) :
    place ∈ addresses excluded t ↔ place ∈ all
      ∧ (excluded name = false ∧ ∀ n ∈ place.dropLast, excluded n = false) ∧ EndsDotted place := by
  rw [PackageTree.mem_addresses_iff h.distinct]
  by_cases hplace : place = []
  · subst hplace
    rw [value?_nil, h.root]
    constructor
    · rintro ⟨-, p, hp, hkind⟩
      cases hp
      exact absurd (Option.some.inj hkind) packageWord_ne_moduleWord
    · rintro ⟨hmem, -⟩
      exact absurd hmem hfull
  · rw [h.below place hplace, found_module_iff hfree hplace]
    constructor
    · rintro ⟨hopen, hmem, hdotted⟩
      exact ⟨hmem, (h.openTo_iff hfree hmem hdotted).mp hopen, hdotted⟩
    · rintro ⟨hmem, hway, hdotted⟩
      exact ⟨(h.openTo_iff hfree hmem hdotted).mpr hway, hmem, hdotted⟩

end

end ClassAtlas.PackageTree

namespace ClassAtlas.Proofs

open ClassAtlas PackageTree Source

/-! ## Reading them -/

/-- Modules that can all be read are read one after the other. -/
theorem readModules_of_ok {w : Workspace} {files : List String} {content : String → List Stmt}
    (h : ∀ file ∈ files, Project.readModule w file = .ok (content file)) :
    Project.readModules w files = (files.map fun file => (file, content file), none) := by
  induction files with
  | nil => rfl
  | cons file rest ih =>
    rw [Project.readModules, h file List.mem_cons_self,
      ih fun other hother => h other (List.mem_cons_of_mem file hother)]
    rfl

/-- The names of an absolute path below another one do not depend on the working directory. -/
theorem partsBelow_of_isAbsolute (cwd : String) {base path : String} (hbase : Path.isAbsolute base = true)
    (hpath : Path.isAbsolute path = true) : partsBelow cwd base path
      = Path.names (Path.between (Path.normal base) (Path.normal (Path.normal path))) := by
  rw [partsBelow, Path.relative_eq_between, Path.absolute_of_isAbsolute cwd hbase,
    Path.absolute_of_isAbsolute cwd hpath, Path.absolute_of_isAbsolute cwd (Path.isAbsolute_normal hpath)]

/-- The names lead to a module that is wanted: it has a dot in its own name, and neither the root nor a
package on the way is excluded. -/
@[mk_iff]
structure Wanted (root : String) (excludes parts : List String) : Prop where
  root : root ∉ excludes
  above : ∀ name ∈ parts.dropLast, name ∉ excludes
  dotted : EndsDotted parts

/-- The modules of a tree at a base path, where excluded packages are listed by name. -/
theorem modulePaths_eq (base : String) (excludes : List String) (t : PackageTree) :
    Project.modulePaths base (Document.ofTexts excludes) t
      = .ok ((addresses (fun name => decide (name ∈ excludes)) t).map (Path.joinAll base)) := by
  rw [Project.modulePaths, holds_ofTexts, ok_bind]
  simp only [holds?_ofTexts, Option.getD_some, modules_eq]
  rfl

/--
**Every module is read exactly once.** Let a tree be built from paths, none of which leads on from another,
and let the modules that are wanted be readable. Then the files that are read are the wanted ones among the
paths, each of them once and under the base path, and reading them does not fail.
-/
theorem modules_read_exactly_once (w : Workspace) (root base : String) (paths excludes : List String)
    (content : String → List Stmt) (hfull : [] ∉ paths.map (partsBelow w.cwd base))
    (hfree : PrefixFree (paths.map (partsBelow w.cwd base)))
    (hread : ∀ parts ∈ paths.map (partsBelow w.cwd base), Wanted root excludes parts →
      Project.readModule w (Path.joinAll base parts) = .ok (content (Path.joinAll base parts))) :
    ∃ places : List (List String),
      (∀ parts, parts ∈ places
        ↔ parts ∈ paths.map (partsBelow w.cwd base) ∧ Wanted root excludes parts)
      ∧ (places.map (Path.joinAll base)).Nodup
      ∧ Project.modulePaths base (Document.ofTexts excludes)
          ((PackageTree.root root).build w.cwd base paths) = .ok (places.map (Path.joinAll base))
      ∧ Project.readModules w (places.map (Path.joinAll base))
          = (places.map fun parts => (Path.joinAll base parts, content (Path.joinAll base parts)), none) := by
  have hmade := madeOf_build root w.cwd base paths
  let places := addresses (fun name => decide (name ∈ excludes))
    ((PackageTree.root root).build w.cwd base paths)
  have hplaces : ∀ parts, parts ∈ places
      ↔ parts ∈ paths.map (partsBelow w.cwd base) ∧ Wanted root excludes parts := by
    intro parts
    rw [hmade.mem_addresses_iff hfree hfull, wanted_iff]
    simp only [decide_eq_false_iff_not, and_assoc]
  refine ⟨places, hplaces, ?_, modulePaths_eq base excludes _, ?_⟩
  · -- different places are different files, since their names have no slashes in them
    have hnames : ∀ parts ∈ places, parts ≠ [] ∧ ∀ name ∈ parts, Path.IsName name := by
      intro parts hmem
      have hparts := ((hplaces parts).mp hmem).1
      refine ⟨fun hempty => hfull (hempty ▸ hparts), ?_⟩
      obtain ⟨path, -, rfl⟩ := List.mem_map.mp hparts
      exact fun name hname => Path.isName_of_mem_names hname
    refine List.Nodup.map_on ?_ (nodup_addresses hmade.distinct)
    intro xs hxs ys hys he
    exact Path.joinAll_injective (hnames xs hxs).2 (hnames ys hys).2 (hnames xs hxs).1 (hnames ys hys).1 he
  · rw [readModules_of_ok, List.map_map]
    · rfl
    · intro file hfile
      obtain ⟨parts, hmem, rfl⟩ := List.mem_map.mp hfile
      obtain ⟨hparts, hwanted⟩ := (hplaces parts).mp hmem
      exact hread parts hparts hwanted

/-- A file with one statement. -/
def idleFile : FileTree := .file "pass\n".toUTF8.data.toList

/-- The statement in it. -/
def idleModule : List Stmt := (parseModule "pass\n").getD []

/-- A project with a directory that has a dot in its name. -/
def farm : Workspace where
  cwd := "/"
  tree := .directory (.cons "farm" (.directory
    (.cons "barn" (.directory (.cons "cow.py" idleFile (.cons "hen.py" idleFile .nil)))
      (.cons "v1.2" (.directory (.cons "map.py" idleFile .nil)) .nil))) .nil)

/-- Files of the project, one of them twice, and two that cannot be read: one is no module, and the other
lies in a package that is excluded. -/
def farmPaths : List String :=
  ["/farm/barn/cow.py", "/farm/barn/hen.py", "/farm/barn/NOTE", "/farm/./barn/cow.py", "/farm/v1.2/map.py",
    "/farm/tests/cow.py"]

/-- The modules among them that are not excluded. -/
def farmModules : List (List String) := [["barn", "cow.py"], ["barn", "hen.py"], ["v1.2", "map.py"]]

theorem farm_parts : farmPaths.map (partsBelow farm.cwd "/farm")
    = [["barn", "cow.py"], ["barn", "hen.py"], ["barn", "NOTE"], ["barn", "cow.py"], ["v1.2", "map.py"],
      ["tests", "cow.py"]] := by
  have habsolute : ∀ path ∈ "/farm" :: farmPaths, Path.isAbsolute path = true := by
    simp only [Path.isAbsolute_eq]
    decide
  have hbelow : ∀ path ∈ farmPaths, partsBelow farm.cwd "/farm" path
      = Path.names (Path.between (Path.normal "/farm") (Path.normal (Path.normal path))) := by
    intro path hpath
    exact partsBelow_of_isAbsolute farm.cwd (habsolute _ List.mem_cons_self)
      (habsolute path (List.mem_cons_of_mem _ hpath))
  rw [List.map_congr_left hbelow]
  decide +kernel

theorem farm_wanted_iff (parts : List String) :
    parts ∈ farmPaths.map (partsBelow farm.cwd "/farm") ∧ Wanted "farm" ["tests"] parts
      ↔ parts ∈ farmModules := by
  have hnote : ¬ EndsDotted ["barn", "NOTE"] := by
    rintro ⟨name, hname, hdot⟩
    cases hname
    exact absurd hdot (by simp)
  rw [farm_parts]
  constructor
  · rintro ⟨hmem, hwanted⟩
    simp only [List.mem_cons, List.not_mem_nil, or_false] at hmem
    rcases hmem with rfl | rfl | rfl | rfl | rfl | rfl
    · decide
    · decide
    · exact absurd hwanted.dotted hnote
    · decide
    · decide
    · exact absurd (List.mem_singleton.mpr rfl) (hwanted.above "tests" (by decide))
  · intro hmem
    simp only [farmModules, List.mem_cons, List.not_mem_nil, or_false] at hmem
    rcases hmem with rfl | rfl | rfl
    · exact ⟨by decide, by decide, by decide, "cow.py", rfl, by simp⟩
    · exact ⟨by decide, by decide, by decide, "hen.py", rfl, by simp⟩
    · exact ⟨by decide, by decide, by decide, "map.py", rfl, by simp⟩

theorem farm_readModule : ∀ parts ∈ farmModules,
    Project.readModule farm (Path.joinAll "/farm" parts) = .ok idleModule := by
  have hparse : parseModule "pass\n" = some idleModule := by
    have hsome : (parseModule "pass\n").isSome = true := by decide +kernel
    obtain ⟨statements, hstatements⟩ := Option.isSome_iff_exists.mp hsome
    rw [idleModule, hstatements, Option.getD_some]
  have hread : ∀ parts ∈ farmModules, farm.readText (Path.joinAll "/farm" parts) = .ok "pass\n" := by
    intro parts hparts
    simp only [farmModules, List.mem_cons, List.not_mem_nil, or_false] at hparts
    rcases hparts with rfl | rfl | rfl <;>
      simp only [Path.joinAll, List.foldl, Path.join, Path.endsWith_slash_eq, Workspace.readText,
        Workspace.read, Workspace.place, Workspace.piecesOf, Path.isAbsolute_eq] <;>
      rfl
  intro parts hparts
  rw [Project.readModule, hread parts hparts, ok_bind, hparse]

theorem farm_modules_read :
    [] ∉ farmPaths.map (partsBelow farm.cwd "/farm")
      ∧ PrefixFree (farmPaths.map (partsBelow farm.cwd "/farm"))
      ∧ (∀ parts ∈ farmPaths.map (partsBelow farm.cwd "/farm"), Wanted "farm" ["tests"] parts →
          Project.readModule farm (Path.joinAll "/farm" parts) = .ok idleModule)
      ∧ ∃ places : List (List String), (∀ parts, parts ∈ places ↔ parts ∈ farmModules)
        ∧ (places.map (Path.joinAll "/farm")).Nodup
        ∧ Project.modulePaths "/farm" (Document.ofTexts ["tests"])
            ((PackageTree.root "farm").build farm.cwd "/farm" farmPaths)
            = .ok (places.map (Path.joinAll "/farm"))
        ∧ Project.readModules farm (places.map (Path.joinAll "/farm"))
            = (places.map fun parts => (Path.joinAll "/farm" parts, idleModule), none) := by
  have hfull : [] ∉ farmPaths.map (partsBelow farm.cwd "/farm") := by
    rw [farm_parts]
    decide
  have hfree : PrefixFree (farmPaths.map (partsBelow farm.cwd "/farm")) := by
    rw [farm_parts]
    unfold PrefixFree
    decide
  have hread : ∀ parts ∈ farmPaths.map (partsBelow farm.cwd "/farm"), Wanted "farm" ["tests"] parts →
      Project.readModule farm (Path.joinAll "/farm" parts) = .ok idleModule := by
    intro parts hparts hwanted
    exact farm_readModule parts ((farm_wanted_iff parts).mp ⟨hparts, hwanted⟩)
  obtain ⟨places, hplaces, hrest⟩ :=
    modules_read_exactly_once farm "farm" "/farm" farmPaths ["tests"] (fun _ => idleModule) hfull hfree hread
  refine ⟨hfull, hfree, hread, places, fun parts => ?_, hrest⟩
  rw [hplaces, farm_wanted_iff]

end ClassAtlas.Proofs
