import ClassAtlas.PackageTree
import Mathlib.Data.List.Nodup

/-!
# Package trees are prefix trees

What a tree has at a place (`value?`), and what putting in a path does to it: the packages along the path
are there afterwards, and what was there before stays what it was (`value?_insert`). So a package is what
the first path through it makes of it (`value?_build`). No two children of a package ever have the same
name (`Distinct`), and a place leads to one package only.
-/

namespace ClassAtlas.PackageTree

/-! ## Children -/

theorem value_ensureChild (t : PackageTree) (child : Package) : (t.ensureChild child).value = t.value := by
  unfold ensureChild
  split <;> rfl

theorem value_insert (path : List String) (t : PackageTree) : (t.insert path).value = t.value := by
  cases path with
  | nil => rfl
  | cons name rest => exact value_ensureChild t ⟨name, some (kindAt rest.isEmpty name)⟩

theorem name_insert (path : List String) (t : PackageTree) : (t.insert path).name = t.name :=
  congrArg Package.name (value_insert path t)

section
variable {f : PackageTree → PackageTree}

/-- What a change of a child does not touch is the same for all children. -/
theorem map_replaceChild {α : Type} {view : PackageTree → α} (hf : ∀ t, view (f t) = view t) (name : String)
    (ts : List PackageTree) : (replaceChild name f ts).map view = ts.map view := by
  induction ts with
  | nil => rfl
  | cons t rest ih =>
    rw [replaceChild]
    split
    · rw [List.map_cons, List.map_cons, hf]
    · rw [List.map_cons, List.map_cons, ih]

/-- A child is an old one, or an old one that was changed. -/
theorem mem_replaceChild {name : String} {ts : List PackageTree} {c : PackageTree}
    (h : c ∈ replaceChild name f ts) : c ∈ ts ∨ ∃ t ∈ ts, c = f t := by
  induction ts with
  | nil => exact absurd h (by simp [replaceChild])
  | cons t rest ih =>
    rw [replaceChild] at h
    split at h
    · rcases List.mem_cons.mp h with rfl | hrest
      · exact Or.inr ⟨t, List.mem_cons_self, rfl⟩
      · exact Or.inl (List.mem_cons_of_mem t hrest)
    · rcases List.mem_cons.mp h with rfl | hrest
      · exact Or.inl List.mem_cons_self
      · rcases ih hrest with hold | ⟨u, hu, he⟩
        · exact Or.inl (List.mem_cons_of_mem t hold)
        · exact Or.inr ⟨u, List.mem_cons_of_mem t hu, he⟩

theorem find?_replaceChild (hf : ∀ t, (f t).name = t.name) (name other : String) (ts : List PackageTree) :
    (replaceChild name f ts).find? (·.name == other)
      = if other = name then (ts.find? (·.name == name)).map f else ts.find? (·.name == other) := by
  induction ts with
  | nil => simp [replaceChild]
  | cons t rest ih =>
    rw [replaceChild]
    by_cases ht : t.name = name
    · by_cases ho : other = name
      · simp [ht, ho, hf]
      · simp [ht, ho, hf, Ne.symm ho]
    · by_cases ho : other = name
      · subst ho
        simpa [ht] using ih
      · by_cases hto : t.name = other
        · simp [ho, hto]
        · simpa [ht, ho, hto] using ih

end

theorem child?_ensureChild (t : PackageTree) (child : Package) (name : String) :
    (t.ensureChild child).child? name
      = if name = child.name then some ((t.child? name).getD (leaf child)) else t.child? name := by
  unfold ensureChild
  cases hold : t.child? child.name with
  | some c =>
    by_cases hname : name = child.name
    · simp [hname, hold]
    · simp [hname]
  | none =>
    have hpush : (t.push child).child? name
        = (t.child? name).or (if child.name = name then some (leaf child) else none) := by
      show (t.children ++ [leaf child]).find? _ = _
      rw [List.find?_append]
      by_cases hname : child.name = name <;> simp [child?, leaf, PackageTree.name, value, hname]
    by_cases hname : name = child.name
    · subst hname
      simp [hpush, hold]
    · simp [hpush, hname, Ne.symm hname]

/-- **Putting in a path changes the child that it leads through, or makes it, and no other.** -/
theorem child?_insert (first : String) (rest : List String) (t : PackageTree) (name : String) :
    (t.insert (first :: rest)).child? name
      = if name = first
        then some (((t.child? first).getD (leaf ⟨first, some (kindAt rest.isEmpty first)⟩)).insert rest)
        else t.child? name := by
  show (replaceChild first (insert rest) _).find? _ = _
  rw [find?_replaceChild (name_insert rest)]
  by_cases hname : name = first
  · subst hname
    rw [if_pos rfl, if_pos rfl]
    show (child? _ name).map _ = _
    rw [child?_ensureChild, if_pos rfl]
    rfl
  · rw [if_neg hname, if_neg hname]
    show child? _ name = _
    rw [child?_ensureChild, if_neg hname]

/-! ## Distinct names -/

/-- In every package of the tree the names of the children are distinct. -/
inductive Distinct : PackageTree → Prop
  | node {value : Package} {children : List PackageTree} (names : (children.map PackageTree.name).Nodup)
      (below : ∀ t ∈ children, Distinct t) : Distinct (.node value children)

theorem Distinct.children {t : PackageTree} (h : Distinct t) :
    (t.children.map PackageTree.name).Nodup ∧ ∀ c ∈ t.children, Distinct c := by
  cases h with
  | node names below => exact ⟨names, below⟩

theorem distinct_leaf (value : Package) : Distinct (leaf value) :=
  .node List.nodup_nil (by simp)

theorem distinct_ensureChild {t : PackageTree} (h : Distinct t) (child : Package) :
    Distinct (t.ensureChild child) := by
  unfold ensureChild
  split
  · exact h
  · rename_i hnew
    obtain ⟨names, below⟩ := h.children
    have hfresh : child.name ∉ t.children.map PackageTree.name := by
      intro hmem
      obtain ⟨c, hc, hname⟩ := List.mem_map.mp hmem
      exact hnew (List.find?_isSome.mpr ⟨c, hc, beq_iff_eq.mpr hname⟩)
    refine .node ?_ ?_
    · rw [List.map_append]
      exact names.append (List.nodup_singleton _) (List.disjoint_singleton.mpr hfresh)
    · intro c hc
      rcases List.mem_append.mp hc with hold | hlast
      · exact below c hold
      · rw [List.mem_singleton.mp hlast]
        exact distinct_leaf child

/-- **Putting in a path keeps names distinct.** -/
theorem distinct_insert (path : List String) {t : PackageTree} (h : Distinct t) :
    Distinct (t.insert path) := by
  induction path generalizing t with
  | nil => exact h
  | cons first rest ih =>
    obtain ⟨names, below⟩ :=
      (distinct_ensureChild h ⟨first, some (kindAt rest.isEmpty first)⟩).children
    refine .node ?_ ?_
    · -- the child that the rest goes into keeps its name
      rw [map_replaceChild (name_insert rest)]
      exact names
    · intro c hc
      rcases mem_replaceChild hc with hold | ⟨d, hd, rfl⟩
      · exact below c hold
      · exact ih (below d hd)

theorem distinct_build (cwd base : String) (paths : List String) {t : PackageTree} (h : Distinct t) :
    Distinct (t.build cwd base paths) := by
  unfold build
  induction paths generalizing t with
  | nil => exact h
  | cons path rest ih =>
    rw [List.foldl_cons]
    exact ih (distinct_insert (partsBelow cwd base path) h)

/-- A name leads to the one child that has it. -/
theorem Distinct.child?_eq_some_iff {t c : PackageTree} {name : String} (h : Distinct t) :
    t.child? name = some c ↔ c ∈ t.children ∧ c.name = name := by
  have hsound : ∀ d, t.child? name = some d → d ∈ t.children ∧ d.name = name := by
    intro d hd
    unfold child? at hd
    have hname := List.find?_some hd
    exact ⟨List.mem_of_find?_eq_some hd, eq_of_beq hname⟩
  constructor
  · exact hsound c
  · rintro ⟨hc, hname⟩
    cases hfound : t.child? name with
    | none => exact absurd (beq_iff_eq.mpr hname) (List.find?_eq_none.mp hfound c hc)
    | some d =>
      -- two children of one name would be one
      obtain ⟨hd, hdname⟩ := hsound d hfound
      rw [List.inj_on_of_nodup_map h.children.1 hd hc (hdname.trans hname.symm)]

/-! ## Places -/

/-- The package at the end of names. -/
def value? (t : PackageTree) (place : List String) : Option Package :=
  (t.descend? place).map value

theorem value?_nil (t : PackageTree) : t.value? [] = some t.value := rfl

theorem descend?_cons (t : PackageTree) (name : String) (place : List String) :
    t.descend? (name :: place) = (t.child? name).bind (·.descend? place) := by
  rw [descend?]
  cases t.child? name <;> rfl

theorem value?_cons (t : PackageTree) (name : String) (place : List String) :
    t.value? (name :: place) = (t.child? name).bind (·.value? place) := by
  unfold value?
  rw [descend?_cons, Option.map_bind]
  rfl

/-- What a path makes of a place along it. -/
def along (path place : List String) : Package :=
  let name := place.getLast?.getD ""
  ⟨name, some (kindAt (decide (place = path)) name)⟩

/-- What a path makes of a place, if it leads through it. -/
def along? (place path : List String) : Option Package :=
  if place <+: path then some (along path place) else none

theorem along_singleton (first : String) (rest : List String) :
    along (first :: rest) [first] = ⟨first, some (kindAt rest.isEmpty first)⟩ := by
  cases rest <;> simp [along]

theorem along?_cons (name first : String) (place rest : List String) (hplace : place ≠ []) :
    along? (name :: place) (first :: rest) = if name = first then along? place rest else none := by
  unfold along? along
  by_cases hname : name = first
  · subst hname
    rw [List.getLast?_cons_of_ne_nil hplace]
    simp [List.cons_prefix_cons]
  · simp [List.cons_prefix_cons, hname]

/-- **Putting in a path makes what was missing along it, and changes nothing that was there.** -/
theorem value?_insert (path place : List String) (t : PackageTree) :
    (t.insert path).value? place = (t.value? place).or (along? place path) := by
  -- the path leads one step down, where the rest of it is put into a child
  induction path generalizing place t with
  | nil =>
    cases place with
    | nil => rfl
    | cons name place => simp [insert, along?]
  | cons first rest ih =>
    cases place with
    | nil => rw [value?_nil, value?_nil, value_insert]; rfl
    | cons name place =>
      rw [value?_cons, value?_cons, child?_insert]
      by_cases hname : name = first
      · subst hname
        rw [if_pos rfl, Option.bind_some, ih]
        cases t.child? name with
        | some c =>
          cases place with
          | nil => rfl
          | cons next place => rw [along?_cons _ _ _ _ (List.cons_ne_nil next place), if_pos rfl]; rfl
        | none =>
          cases place with
          | nil =>
            -- the child is new, and is what the path makes of it
            have hmade : along? [name] (name :: rest) = some (along (name :: rest) [name]) :=
              if_pos (List.cons_prefix_cons.mpr ⟨rfl, List.nil_prefix⟩)
            rw [hmade, along_singleton]
            rfl
          | cons next place => rw [along?_cons _ _ _ _ (List.cons_ne_nil next place), if_pos rfl]; rfl
      · rw [if_neg hname]
        simp [along?, List.cons_prefix_cons, hname]

/-- **A package is what the first path through it makes of it.** -/
theorem value?_build (cwd base : String) (paths : List String) (t : PackageTree) (place : List String) :
    (t.build cwd base paths).value? place
      = (t.value? place).or ((paths.map (partsBelow cwd base)).findSome? (along? place)) := by
  unfold build
  induction paths generalizing t with
  | nil => simp
  | cons path rest ih =>
    rw [List.foldl_cons, ih, value?_insert, Option.or_assoc, List.map_cons, List.findSome?_cons]
    cases along? place (partsBelow cwd base path) <;> rfl

end ClassAtlas.PackageTree
