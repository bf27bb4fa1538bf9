import ClassAtlas.Proofs.PrefixTree
import ClassAtlas.Proofs.Settings

/-!
# Growing a tree of packages

A tree is built by going down from its root along the names of each path, and asking every package on the way for
the next one. A package that is not there is added, and adding refuses a name that is taken. The refusal is never
met, since only a package that was asked for in vain is added (`createAt_eq`). So the walk along a path does what
putting in the path does at once (`createAlong_eq`), whatever was built before.

Building never moves or changes a package (`Extends`), and after it all that the paths lead through is there
(`exists_descend?_build_iff`). Building the same once more finds everything and changes nothing (`build_build`).
-/

namespace ClassAtlas.PackageTree

/-! ## Changing the package at a place -/

theorem descend?_cons_eq_some_iff {t u : PackageTree} {name : String} {rest : List String} :
    t.descend? (name :: rest) = some u ↔ ∃ c, t.child? name = some c ∧ c.descend? rest = some u := by
  rw [descend?_cons, Option.bind_eq_some_iff]

theorem descend?_append (t : PackageTree) (place rest : List String) :
    t.descend? (place ++ rest) = (t.descend? place).bind (·.descend? rest) := by
  induction place generalizing t with
  | nil => rfl
  | cons name more ih =>
    rw [List.cons_append, descend?_cons, descend?_cons, Option.bind_assoc]
    exact congrArg _ (funext ih)

section

variable {f g : PackageTree → PackageTree} {name : String} {ts : List PackageTree}

/-- Only what is done to the first child of the name matters. -/
theorem replaceChild_congr {c : PackageTree} (hc : ts.find? (·.name == name) = some c) (h : f c = g c) :
    replaceChild name f ts = replaceChild name g ts := by
  induction ts with
  | nil => rfl
  | cons t rest ih =>
    rw [replaceChild, replaceChild]
    by_cases ht : t.name = name
    · have hsame : t = c := by simpa [ht] using hc
      rw [if_pos ht, if_pos ht, hsame, h]
    · rw [if_neg ht, if_neg ht, ih (by simpa [ht] using hc)]

theorem replaceChild_id (name : String) (ts : List PackageTree) : replaceChild name id ts = ts := by
  induction ts with
  | nil => rfl
  | cons t rest ih =>
    rw [replaceChild, ih]
    exact ite_id _

theorem replaceChild_replaceChild (hf : ∀ t, (f t).name = t.name) (name : String) (ts : List PackageTree) :
    replaceChild name g (replaceChild name f ts) = replaceChild name (g ∘ f) ts := by
  induction ts with
  | nil => rfl
  | cons t rest ih =>
    by_cases ht : t.name = name
    · simp only [replaceChild, if_pos ht, if_pos ((hf t).trans ht), Function.comp_apply]
    · simp only [replaceChild, if_neg ht, ih]

/-- What is done at a place is done to the package there. -/
theorem modifyAt_congr {t u : PackageTree} {place : List String} (hu : t.descend? place = some u)
    (h : f u = g u) : t.modifyAt f place = t.modifyAt g place := by
  induction place generalizing t with
  | nil =>
    cases hu
    exact h
  | cons name rest ih =>
    obtain ⟨c, hc, hbelow⟩ := descend?_cons_eq_some_iff.mp hu
    rw [modifyAt, modifyAt]
    exact congrArg (node t.value) (replaceChild_congr hc (ih hbelow))

theorem modifyAt_id (t : PackageTree) (place : List String) : t.modifyAt id place = t := by
  induction place generalizing t with
  | nil => rfl
  | cons name rest ih =>
    have hchild : (fun c : PackageTree => c.modifyAt id rest) = id := funext ih
    rw [modifyAt, hchild, replaceChild_id]
    cases t
    rfl

theorem name_modifyAt (hf : ∀ t, (f t).name = t.name) (t : PackageTree) (place : List String) :
    (t.modifyAt f place).name = t.name := by
  cases place with
  | nil => exact hf t
  | cons name rest => rfl

/-- One change at a place after another. -/
theorem modifyAt_modifyAt (hf : ∀ t, (f t).name = t.name) (t : PackageTree) (place : List String) :
    (t.modifyAt f place).modifyAt g place = t.modifyAt (g ∘ f) place := by
  induction place generalizing t with
  | nil => rfl
  | cons name rest ih =>
    have hchild : (fun c : PackageTree => c.modifyAt g rest) ∘ (fun c : PackageTree => c.modifyAt f rest)
        = fun c : PackageTree => c.modifyAt (g ∘ f) rest := funext ih
    rw [modifyAt, modifyAt, modifyAt, ← hchild, ← replaceChild_replaceChild (name_modifyAt hf · rest)]
    rfl

theorem modifyAt_append (t : PackageTree) (place rest : List String) :
    t.modifyAt f (place ++ rest) = t.modifyAt (·.modifyAt f rest) place := by
  induction place generalizing t with
  | nil => rfl
  | cons name more ih =>
    have hchild : (fun c : PackageTree => c.modifyAt f (more ++ rest))
        = fun c : PackageTree => c.modifyAt (·.modifyAt f rest) more := funext ih
    rw [List.cons_append, modifyAt, modifyAt, hchild]

theorem descend?_modifyAt (hf : ∀ t, (f t).name = t.name) (t : PackageTree) (place : List String) :
    (t.modifyAt f place).descend? place = (t.descend? place).map f := by
  induction place generalizing t with
  | nil => rfl
  | cons name rest ih =>
    have hchild : (t.modifyAt f (name :: rest)).child? name
        = (t.child? name).map fun c => c.modifyAt f rest := by
      rw [modifyAt]
      exact (find?_replaceChild (name_modifyAt hf · rest) name name t.children).trans (if_pos rfl)
    rw [descend?_cons, descend?_cons, hchild]
    cases t.child? name with
    | none => rfl
    | some c => exact ih c

end

/-! ## Going down a path -/

theorem reach_of_descend? {t u : PackageTree} {place : List String} (hu : t.descend? place = some u)
    (operation : String) : t.reach operation place = .ok u := by
  induction place generalizing t with
  | nil =>
    cases hu
    rfl
  | cons name rest ih =>
    obtain ⟨c, hc, hbelow⟩ := descend?_cons_eq_some_iff.mp hu
    rw [reach, hc]
    exact ih hbelow

theorem descend?_of_reach {t u : PackageTree} {operation : String} {place : List String}
    (h : t.reach operation place = .ok u) : t.descend? place = some u := by
  induction place generalizing t with
  | nil =>
    cases h
    rfl
  | cons key rest ih =>
    rw [reach] at h
    rw [descend?_cons]
    cases hchild : t.child? key with
    | none =>
      rw [hchild] at h
      cases h
    | some child =>
      rw [hchild] at h
      exact ih h

theorem name_ensureChild (t : PackageTree) (child : Package) : (t.ensureChild child).name = t.name :=
  congrArg Package.name (value_ensureChild t child)

/-- **Asking for a child, and adding it if it is not there, is never refused.** -/
theorem createAt_eq {t parent : PackageTree} {place : List String} (hparent : t.descend? place = some parent)
    (child : Package) : ∃ found, t.createAt place child.name (.ok child)
      = .ok (t.modifyAt (·.ensureChild child) place, found) := by
  unfold createAt
  rw [reach_of_descend? hparent, Proofs.ok_bind]
  cases hchild : parent.child? child.name with
  | some found =>
    have hsame : parent.ensureChild child = id parent := by
      rw [ensureChild, hchild]
      rfl
    refine ⟨some found, ?_⟩
    rw [modifyAt_congr hparent hsame, modifyAt_id]
    rfl
  | none =>
    -- the package that is to be added is the one that was asked for, so its name is free
    have hpush : parent.push child = parent.ensureChild child := by
      rw [ensureChild, hchild]
      rfl
    have hsame : t.modifyAt (·.push child) place = t.modifyAt (·.ensureChild child) place :=
      modifyAt_congr hparent hpush
    have hadd : t.addAt place child.name (.ok child) = .ok (t.modifyAt (·.ensureChild child) place) := by
      unfold addAt
      rw [reach_of_descend? hparent, Proofs.ok_bind, hchild, ← hsame]
      rfl
    refine ⟨some (leaf child), ?_⟩
    rw [hadd]
    rfl

/-- The child is there afterwards, so that the way can go on from it. -/
theorem descend?_created {t parent : PackageTree} {place : List String}
    (hparent : t.descend? place = some parent) (child : Package) :
    (t.modifyAt (·.ensureChild child) place).descend? (place ++ [child.name])
      = some ((parent.child? child.name).getD (leaf child)) := by
  rw [descend?_append, descend?_modifyAt (name_ensureChild · child), hparent, Option.map_some,
    Option.bind_some, descend?_cons, child?_ensureChild, if_pos rfl]
  rfl

/-- **Going down along names puts in the path that they make up.** -/
theorem createAlong_eq {t parent : PackageTree} {place : List String}
    (hparent : t.descend? place = some parent) (path : List String) :
    t.createAlong place path = .ok (t.modifyAt (insert path) place) := by
  induction path generalizing t parent place with
  | nil =>
    have hnone : insert [] = id := funext fun _ => rfl
    rw [createAlong, hnone, modifyAt_id]
  | cons name rest ih =>
    obtain ⟨found, hcreate⟩ := createAt_eq hparent ⟨name, some (kindAt rest.isEmpty name)⟩
    rw [createAlong, hcreate, Proofs.ok_bind]
    -- what is left of the path goes into the child, and both changes are one change of the parent
    show createAlong _ (place ++ [name]) rest = _
    rw [ih (descend?_created hparent _), modifyAt_append, modifyAt_modifyAt (name_ensureChild · _)]
    rfl

theorem foldlM_of_ok {α β : Type} {step : β → α → Except Fault β} {f : β → α → β}
    (h : ∀ b a, step b a = .ok (f b a)) (l : List α) (b : β) : l.foldlM step b = .ok (l.foldl f b) := by
  have hstep : step = fun b a => pure (f b a) := funext fun b => funext fun a => h b a
  rw [hstep, List.foldlM_pure]
  rfl

/-- **Building step by step never fails, and does what building at once does.** -/
theorem createAll_eq (cwd base : String) (paths : List String) (t : PackageTree) :
    t.createAll cwd base paths = .ok (t.build cwd base paths) := by
  have hpath : ∀ (t : PackageTree) (names : List String), t.createAlong [] names = .ok (t.insert names) :=
    fun t names => createAlong_eq (show t.descend? [] = some t from rfl) names
  exact foldlM_of_ok (fun t path => hpath t (partsBelow cwd base path)) paths t

/-! ## What was there before -/

/-- A package with more children: the old ones are the same packages, in front and in order. -/
structure Grown (old new : PackageTree) : Prop where
  value : new.value = old.value
  children : old.children.map PackageTree.value <+: new.children.map PackageTree.value

theorem Grown.refl (t : PackageTree) : Grown t t :=
  ⟨rfl, List.prefix_rfl⟩

theorem Grown.trans {t u v : PackageTree} (htu : Grown t u) (huv : Grown u v) : Grown t v :=
  ⟨huv.value.trans htu.value, htu.children.trans huv.children⟩

theorem grown_insert (path : List String) (t : PackageTree) : Grown t (t.insert path) := by
  refine ⟨value_insert path t, ?_⟩
  cases path with
  | nil => exact List.prefix_rfl
  | cons name rest =>
    show _ <+: (replaceChild name (insert rest) (t.ensureChild _).children).map PackageTree.value
    rw [map_replaceChild (value_insert rest), ensureChild]
    split
    · exact List.prefix_rfl
    · show _ <+: (t.children ++ [_]).map PackageTree.value
      rw [List.map_append]
      exact List.prefix_append _ _

/-- Every package of the one tree is at its place in the other, with the same children in front. -/
def Extends (t t' : PackageTree) : Prop :=
  ∀ place u, t.descend? place = some u → ∃ v, t'.descend? place = some v ∧ Grown u v

theorem Extends.refl (t : PackageTree) : Extends t t :=
  fun _ u hu => ⟨u, hu, Grown.refl u⟩

theorem Extends.trans {t u v : PackageTree} (htu : Extends t u) (huv : Extends u v) : Extends t v := by
  intro place w hw
  obtain ⟨x, hx, hwx⟩ := htu place w hw
  obtain ⟨y, hy, hxy⟩ := huv place x hx
  exact ⟨y, hy, hwx.trans hxy⟩

/-- **Putting in a path moves no package.** -/
theorem extends_insert (path : List String) (t : PackageTree) : Extends t (t.insert path) := by
  intro place
  induction place generalizing path t with
  | nil =>
    intro u hu
    cases hu
    exact ⟨_, rfl, grown_insert path t⟩
  | cons name place ih =>
    intro u hu
    cases path with
    | nil => exact ⟨u, hu, Grown.refl u⟩
    | cons first rest =>
      obtain ⟨c, hc, hbelow⟩ := descend?_cons_eq_some_iff.mp hu
      rw [descend?_cons, child?_insert]
      by_cases hname : name = first
      · subst hname
        rw [if_pos rfl, hc, Option.bind_some]
        exact ih rest c u hbelow
      · -- the path leads elsewhere
        rw [if_neg hname, hc]
        exact ⟨u, hbelow, Grown.refl u⟩

theorem extends_build (cwd base : String) (paths : List String) (t : PackageTree) :
    Extends t (t.build cwd base paths) := by
  unfold build
  induction paths generalizing t with
  | nil => exact Extends.refl t
  | cons path rest ih =>
    rw [List.foldl_cons]
    exact (extends_insert (partsBelow cwd base path) t).trans (ih (t.insert (partsBelow cwd base path)))

/-! ## What is there afterwards -/

theorem exists_descend?_iff (t : PackageTree) (place : List String) :
    (∃ u, t.descend? place = some u) ↔ (t.value? place).isSome = true := by
  rw [value?, Option.isSome_map, Option.isSome_iff_exists]

/-- **A place is there iff it was, or if a path leads through it.** -/
theorem exists_descend?_build_iff (cwd base : String) (paths : List String) (t : PackageTree)
    (place : List String) :
    (∃ u, (t.build cwd base paths).descend? place = some u)
      ↔ (∃ u, t.descend? place = some u) ∨ ∃ path ∈ paths, place <+: partsBelow cwd base path := by
  have hthrough : ∀ names, (along? place names).isSome = true ↔ place <+: names := by
    intro names
    unfold along?
    split <;> simp_all
  rw [exists_descend?_iff, exists_descend?_iff, value?_build, Option.isSome_or, Bool.or_eq_true,
    List.findSome?_isSome_iff]
  simp only [List.mem_map, exists_exists_and_eq_and, hthrough]

/-- A path that is there already is put in without effect. -/
theorem insert_eq_self {path : List String} {t u : PackageTree} (hu : t.descend? path = some u) :
    t.insert path = t := by
  induction path generalizing t with
  | nil => rfl
  | cons name rest ih =>
    obtain ⟨c, hc, hbelow⟩ := descend?_cons_eq_some_iff.mp hu
    have hthere : t.ensureChild ⟨name, some (kindAt rest.isEmpty name)⟩ = t := by
      rw [ensureChild, hc]
      rfl
    have hchildren : replaceChild name (insert rest) t.children = t.children :=
      (replaceChild_congr hc (ih hbelow)).trans (replaceChild_id name t.children)
    rw [insert, hthere, hchildren]
    cases t
    rfl

theorem build_eq_self {cwd base : String} {paths : List String} {t : PackageTree}
    (h : ∀ path ∈ paths, ∃ u, t.descend? (partsBelow cwd base path) = some u) :
    t.build cwd base paths = t := by
  unfold build
  induction paths with
  | nil => rfl
  | cons path rest ih =>
    obtain ⟨u, hu⟩ := h path List.mem_cons_self
    rw [List.foldl_cons, insert_eq_self hu]
    exact ih fun other hother => h other (List.mem_cons_of_mem path hother)

/-- **Building the same again changes nothing.** -/
theorem build_build (cwd base : String) (paths : List String) (t : PackageTree) :
    (t.build cwd base paths).build cwd base paths = t.build cwd base paths := by
  refine build_eq_self fun path hpath => ?_
  exact (exists_descend?_build_iff cwd base paths t _).mpr (Or.inr ⟨path, hpath, List.prefix_rfl⟩)

/-! ## Any number of buildings -/

/-- Names lead from a tree down to one of its packages, from child to child. -/
inductive Leads : PackageTree → List String → PackageTree → Prop
  | here (t : PackageTree) : Leads t [] t
  | child {t c u : PackageTree} {place : List String} (hc : c ∈ t.children) (hu : Leads c place u) :
      Leads t (c.name :: place) u

/-- Where names are distinct, following them finds what they lead to. -/
theorem Distinct.leads_iff {t u : PackageTree} {place : List String} (h : Distinct t) :
    Leads t place u ↔ t.descend? place = some u := by
  constructor
  · intro hu
    induction hu with
    | here t => rfl
    | @child t c u place hc _ ih =>
      exact descend?_cons_eq_some_iff.mpr
        ⟨c, h.child?_eq_some_iff.mpr ⟨hc, rfl⟩, ih (h.children.2 c hc)⟩
  · intro hu
    induction place generalizing t with
    | nil =>
      cases hu
      exact .here u
    | cons name rest ih =>
      obtain ⟨c, hchild, hbelow⟩ := descend?_cons_eq_some_iff.mp hu
      obtain ⟨hc, rfl⟩ := h.child?_eq_some_iff.mp hchild
      exact .child hc (ih (h.children.2 c hc) hbelow)

theorem Leads.distinct {t u : PackageTree} {place : List String} (hu : Leads t place u) (h : Distinct t) :
    Distinct u := by
  induction hu with
  | here t => exact h
  | @child t c u place hc _ ih => exact ih (h.children.2 c hc)

/-- What a tree is built from at one time: paths, their base path, and the working directory. -/
structure Building where
  cwd : String
  base : String
  paths : List String

/-- Builds step by step. -/
def Building.run (b : Building) (t : PackageTree) : Except Fault PackageTree :=
  t.createAll b.cwd b.base b.paths

/-- Building any number of times never fails, and the names stay distinct. -/
theorem exists_distinct_of_runs (buildings : List Building) {t : PackageTree} (h : Distinct t) :
    ∃ t', buildings.foldlM (fun t b => b.run t) t = .ok t' ∧ Distinct t' := by
  have hrun : ∀ (t : PackageTree) (b : Building), b.run t = .ok (t.build b.cwd b.base b.paths) :=
    fun t b => createAll_eq b.cwd b.base b.paths t
  refine ⟨_, foldlM_of_ok hrun buildings t, ?_⟩
  induction buildings generalizing t with
  | nil => exact h
  | cons b rest ih => exact ih (distinct_build b.cwd b.base b.paths h)

/--
**A tree of packages is the prefix tree of all paths that it was built from.**

Take a tree after any number of buildings, and build once more. Neither fails. Every package from before is
still at its place, with its name and kind, and the children that it had stand in front of the new ones in their
old order. The places of the tree are those from before and the non-empty fronts of the new paths. In every
package the names of the children are distinct, and asking for a name gives the child that has it. Building the
same again changes nothing, and building from more paths is building from the first ones and then from the others.
-/
theorem building_extends_prefix_tree (name : String) (earlier : List Building) (b : Building) :
    ∃ before after, earlier.foldlM (fun t c => c.run t) (root name) = .ok before
      ∧ b.run before = .ok after
      ∧ (∀ place u, Leads before place u → ∃ v, Leads after place v ∧ Grown u v)
      ∧ (∀ place, (∃ v, Leads after place v) ↔ (∃ u, Leads before place u)
        ∨ place ≠ [] ∧ ∃ path ∈ b.paths, place <+: partsBelow b.cwd b.base path)
      ∧ (∀ place v, Leads after place v → (v.children.map PackageTree.name).Nodup
        ∧ ∀ key c, v.child? key = some c ↔ c ∈ v.children ∧ c.name = key)
      ∧ b.run after = .ok after
      ∧ ∀ more, before.createAll b.cwd b.base (b.paths ++ more) = after.createAll b.cwd b.base more := by
  obtain ⟨before, hbefore, hdistinct⟩ :=
    exists_distinct_of_runs earlier (distinct_leaf ⟨name, some packageWord⟩)
  have hafter := distinct_build b.cwd b.base b.paths hdistinct
  refine ⟨before, before.build b.cwd b.base b.paths, hbefore, createAll_eq b.cwd b.base b.paths before,
    ?_, ?_, ?_, ?_, ?_⟩
  · intro place u hu
    obtain ⟨v, hv, hgrown⟩ := extends_build b.cwd b.base b.paths before place u (hdistinct.leads_iff.mp hu)
    exact ⟨v, hafter.leads_iff.mpr hv, hgrown⟩
  · intro place
    simp only [hafter.leads_iff, hdistinct.leads_iff]
    rw [exists_descend?_build_iff]
    -- the empty front of a path is the root, which was there before
    cases place with
    | nil => exact iff_of_true (Or.inl ⟨before, rfl⟩) (Or.inl ⟨before, rfl⟩)
    | cons first rest => simp
  · intro place v hv
    have hbelow := hv.distinct hafter
    exact ⟨hbelow.children.1, fun key c => hbelow.child?_eq_some_iff⟩
  · unfold Building.run
    rw [createAll_eq, build_build]
  · intro more
    rw [createAll_eq, createAll_eq]
    exact congrArg Except.ok List.foldl_append

end ClassAtlas.PackageTree
