import ClassAtlas.Proofs.GraphLaws
import Mathlib.Logic.Relation

/-!
# Descendants are what can be reached

The walk behind `descendants` notes every name that a relation leads to, also one that it has seen before, and
walks on from a name only the first time. Two facts make it exact. It notes nothing outside of a set that
holds the start and is closed under relations (`closure_subset`), and what leads on from a seen name is noted
or still to do (`Collects`), so nothing is missing when nothing is left to do.

The name itself is seen from the start but not noted, and the walk may or may not come back to it. It is among
its own descendants iff it lies on a cycle.

The walk behind `ancestors` is the same one along relations backwards. It starts elsewhere and cuts elsewhere,
but both walks are exact, so they agree on every pair of names (`mem_reachedFrom_opposite`).
-/

namespace ClassAtlas.ClassGraph

/-! ## Arrows -/

/-- There is a relation from one name to the other, of whatever kind. -/
def Arrow (g : ClassGraph) (a b : String) : Prop :=
  ∃ r ∈ g.relations, r.source = a ∧ r.target = b

/-- The name lies on a cycle: a path of one or more relations leads back to it. -/
def OnCycle (g : ClassGraph) (name : String) : Prop :=
  Relation.TransGen g.Arrow name name

/-- One step along `next`. -/
def Along (next : String → List String) (a b : String) : Prop :=
  b ∈ next a

theorem mem_targets_iff {g : ClassGraph} {a b : String} : b ∈ g.targets a ↔ g.Arrow a b := by
  unfold targets outgoing Arrow
  rw [List.mem_map]
  constructor
  · intro ⟨r, hr, htarget⟩
    rw [List.mem_filter, decide_eq_true_eq] at hr
    exact ⟨r, hr.1, hr.2, htarget⟩
  · intro ⟨r, hr, hsource, htarget⟩
    exact ⟨r, List.mem_filter.mpr ⟨hr, decide_eq_true hsource⟩, htarget⟩

theorem along_targets (g : ClassGraph) : Along g.targets = g.Arrow := by
  funext a b
  exact propext mem_targets_iff

theorem mem_endpoints_iff {g : ClassGraph} {a : String} :
    a ∈ g.endpoints ↔ ∃ r ∈ g.relations, a = r.source ∨ a = r.target := by
  unfold endpoints
  rw [List.mem_eraseDups, List.mem_flatMap]
  simp only [List.mem_cons, List.not_mem_nil, or_false]

/-- No relation leaves a name that is no end of a relation. -/
theorem targets_eq_nil {g : ClassGraph} {a : String} (h : a ∉ g.endpoints) : g.targets a = [] := by
  apply List.eq_nil_iff_forall_not_mem.mpr
  intro b hb
  obtain ⟨r, hr, hsource, -⟩ := mem_targets_iff.mp hb
  exact h (mem_endpoints_iff.mpr ⟨r, hr, Or.inl hsource.symm⟩)

/-! ## What a walk notes -/

section

variable {next : String → List String} {unseen todo found rest : List String} {a : String}

theorem mem_insertName {x : String} : x ∈ insertName a found ↔ x = a ∨ x ∈ found :=
  Ordered.mem_insert

/-- **The walk notes nothing outside of a closed set.** -/
theorem closure_subset {P : String → Prop} (hclosed : ∀ x, P x → ∀ y ∈ next x, P y)
    (htodo : ∀ x ∈ todo, P x) (hfound : ∀ x ∈ found, P x) :
    ∀ x ∈ closure next unseen todo found, P x := by
  have hnoted : ∀ {a : String} {found : List String}, P a → (∀ x ∈ found, P x) →
      ∀ x ∈ insertName a found, P x := by
    intro a found ha hfound x hx
    rcases mem_insertName.mp hx with rfl | hx
    · exact ha
    · exact hfound x hx
  induction unseen, todo, found using closure.induct next with
  | case1 unseen found => rwa [closure]
  | case2 unseen found a rest hunseen ih =>
    rw [closure, if_pos hunseen]
    have ha := htodo a List.mem_cons_self
    refine ih ?_ (hnoted ha hfound)
    intro x hx
    rcases List.mem_append.mp hx with hx | hx
    · exact hclosed a ha x hx
    · exact htodo x (List.mem_cons_of_mem a hx)
  | case3 unseen found a rest hseen ih =>
    rw [closure, if_neg hseen]
    exact ih (fun x hx => htodo x (List.mem_cons_of_mem a hx)) (hnoted (htodo a List.mem_cons_self) hfound)

theorem nodup_closure (h : found.Nodup) : (closure next unseen todo found).Nodup := by
  induction unseen, todo, found using closure.induct next with
  | case1 unseen found => rwa [closure]
  | case2 unseen found a rest hunseen ih =>
    rw [closure, if_pos hunseen]
    exact ih (Ordered.nodup_insert h)
  | case3 unseen found a rest hseen ih =>
    rw [closure, if_neg hseen]
    exact ih (Ordered.nodup_insert h)

/-- What leads on from a seen name is noted or still to do, and what is noted is seen. -/
structure Collects (next : String → List String) (unseen todo found : List String) : Prop where
  followed : ∀ a, a ∉ unseen → ∀ b ∈ next a, b ∈ found ∨ b ∈ todo
  seen : ∀ b ∈ found, b ∉ unseen

theorem Collects.enter (h : Collects next unseen (a :: rest) found) :
    Collects next (without unseen a) (next a ++ rest) (insertName a found) where
  followed := by
    intro x hx b hb
    by_cases hxa : x = a
    · rw [hxa] at hb
      exact Or.inr (List.mem_append_left rest hb)
    · have hseen : x ∉ unseen := fun hmem => hx (mem_without.mpr ⟨hmem, hxa⟩)
      rcases h.followed x hseen b hb with hfound | htodo
      · exact Or.inl (mem_insertName.mpr (Or.inr hfound))
      · rcases List.mem_cons.mp htodo with hba | hrest
        · exact Or.inl (mem_insertName.mpr (Or.inl hba))
        · exact Or.inr (List.mem_append_right _ hrest)
  seen := by
    intro b hb hmem
    obtain ⟨hunseen, hba⟩ := mem_without.mp hmem
    rcases mem_insertName.mp hb with he | hfound
    · exact hba he
    · exact h.seen b hfound hunseen

theorem Collects.skip (hseen : a ∉ unseen) (h : Collects next unseen (a :: rest) found) :
    Collects next unseen rest (insertName a found) where
  followed := by
    intro x hx b hb
    rcases h.followed x hx b hb with hfound | htodo
    · exact Or.inl (mem_insertName.mpr (Or.inr hfound))
    · rcases List.mem_cons.mp htodo with hba | hrest
      · exact Or.inl (mem_insertName.mpr (Or.inl hba))
      · exact Or.inr hrest
  seen := by
    intro b hb
    rcases mem_insertName.mp hb with rfl | hfound
    · exact hseen
    · exact h.seen b hfound

/-- **The walk keeps the invariant to its end**, and what was seen at the start is seen then. -/
theorem Collects.closure (h : Collects next unseen todo found) :
    ∃ left, (∀ x ∈ left, x ∈ unseen) ∧ Collects next left [] (closure next unseen todo found) := by
  induction unseen, todo, found using closure.induct next with
  | case1 unseen found =>
    rw [ClassGraph.closure]
    exact ⟨unseen, fun x hx => hx, h⟩
  | case2 unseen found a rest hunseen ih =>
    rw [ClassGraph.closure, if_pos hunseen]
    obtain ⟨left, hleft, hend⟩ := ih h.enter
    exact ⟨left, fun x hx => (mem_without.mp (hleft x hx)).1, hend⟩
  | case3 unseen found a rest hseen ih =>
    rw [ClassGraph.closure, if_neg hseen]
    exact ih (h.skip hseen)

/-- When nothing is left to do, all that can be reached from a seen name is noted. -/
theorem Collects.mem_of_transGen (h : Collects next unseen [] found) (ha : a ∉ unseen) {t : String}
    (ht : Relation.TransGen (Along next) a t) : t ∈ found := by
  have hnext : ∀ x, x ∉ unseen → ∀ y ∈ next x, y ∈ found := by
    intro x hx y hy
    exact (h.followed x hx y hy).resolve_right List.not_mem_nil
  induction ht with
  | single hstep => exact hnext a ha _ hstep
  | tail _ hstep ih => exact hnext _ (h.seen _ ih) _ hstep

end

/-! ## Descendants and ancestors -/

/-- What a walk from a name notes is what can be reached from it. -/
theorem mem_reachedFrom_iff {g : ClassGraph} {next : String → List String}
    (hnext : ∀ a, a ∉ g.endpoints → next a = []) {name t : String} :
    t ∈ g.reachedFrom next name ↔ Relation.TransGen (Along next) name t := by
  unfold reachedFrom
  constructor
  · exact closure_subset (fun x hx y hy => Relation.TransGen.tail hx hy)
      (fun x hx => Relation.TransGen.single hx) (fun x hx => absurd hx List.not_mem_nil) t
  · intro ht
    have hstart : Collects next (without g.endpoints name) (next name) [] := by
      refine ⟨?_, fun b hb => absurd hb List.not_mem_nil⟩
      intro a ha b hb
      by_cases hname : a = name
      · rw [hname] at hb
        exact Or.inr hb
      · -- nothing leads on from a name that is no end of a relation
        have hoff : a ∉ g.endpoints := fun hmem => ha (mem_without.mpr ⟨hmem, hname⟩)
        rw [hnext a hoff] at hb
        exact absurd hb List.not_mem_nil
    obtain ⟨left, hleft, hend⟩ := hstart.closure
    have hname : name ∉ left := fun hmem => (mem_without.mp (hleft name hmem)).2 rfl
    exact hend.mem_of_transGen hname ht

/--
**The descendants of a name are what can be reached from it by one or more relations.**

This holds for every graph, with cycles or without, and also if its relations join names of which no class is
there. Each descendant is listed once, and the name itself is one iff it lies on a cycle.
-/
theorem descendants_iff_reachable (g : ClassGraph) (name : String) :
    (g.descendants name).Nodup
      ∧ (∀ t, t ∈ g.descendants name ↔ Relation.TransGen g.Arrow name t)
      ∧ (name ∈ g.descendants name ↔ g.OnCycle name) := by
  have hreach : ∀ t, t ∈ g.descendants name ↔ Relation.TransGen g.Arrow name t := by
    intro t
    rw [← along_targets]
    exact mem_reachedFrom_iff fun a ha => targets_eq_nil ha
  exact ⟨nodup_closure List.nodup_nil, hreach, hreach name⟩

theorem mem_sources_iff {g : ClassGraph} {a b : String} : a ∈ g.sources b ↔ g.Arrow a b := by
  unfold sources incoming Arrow
  rw [List.mem_map]
  constructor
  · intro ⟨r, hr, hsource⟩
    rw [List.mem_filter, decide_eq_true_eq] at hr
    exact ⟨r, hr.1, hsource, hr.2⟩
  · intro ⟨r, hr, hsource, htarget⟩
    exact ⟨r, List.mem_filter.mpr ⟨hr, decide_eq_true htarget⟩, hsource⟩

/-- No relation leads to a name that is no end of a relation. -/
theorem sources_eq_nil {g : ClassGraph} {b : String} (h : b ∉ g.endpoints) : g.sources b = [] := by
  apply List.eq_nil_iff_forall_not_mem.mpr
  intro a ha
  obtain ⟨r, hr, -, htarget⟩ := mem_sources_iff.mp ha
  exact h (mem_endpoints_iff.mpr ⟨r, hr, Or.inr htarget.symm⟩)

/-- **Two walks along opposite steps agree**: one comes from `a` to `b` iff the other comes from `b` to `a`. -/
theorem mem_reachedFrom_opposite {g : ClassGraph} {next back : String → List String}
    (hopposite : ∀ a b, b ∈ next a ↔ a ∈ back b) (hnext : ∀ a, a ∉ g.endpoints → next a = [])
    (hback : ∀ a, a ∉ g.endpoints → back a = []) {a b : String} :
    b ∈ g.reachedFrom next a ↔ a ∈ g.reachedFrom back b := by
  have hswap : Along back = Function.swap (Along next) := by
    funext x y
    exact propext (hopposite y x).symm
  rw [mem_reachedFrom_iff hnext, mem_reachedFrom_iff hback, hswap]
  exact Relation.transGen_swap.symm

/--
**Ancestors and descendants are dual.**

This holds for every graph and all names, whether or not they lie on cycles and whether or not there are classes
of these names. Both sides say that a path of one or more relations leads from the one name to the other.
-/
theorem descendants_dual_ancestors (g : ClassGraph) (a b : String) :
    (b ∈ g.descendants a ↔ a ∈ g.ancestors b)
      ∧ (a ∈ g.ancestors b ↔ Relation.TransGen g.Arrow a b) := by
  have hdual : b ∈ g.descendants a ↔ a ∈ g.ancestors b := by
    refine mem_reachedFrom_opposite ?_ (fun _ => targets_eq_nil) (fun _ => sources_eq_nil)
    intro x y
    rw [mem_targets_iff, mem_sources_iff]
  have hreach : b ∈ g.descendants a ↔ Relation.TransGen g.Arrow a b := by
    rw [← along_targets]
    exact mem_reachedFrom_iff fun _ => targets_eq_nil
  exact ⟨hdual, hdual.symm.trans hreach⟩

end ClassAtlas.ClassGraph
