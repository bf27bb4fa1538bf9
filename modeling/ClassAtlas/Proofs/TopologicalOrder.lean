import ClassAtlas.Proofs.Cycles
import Mathlib.Data.List.Basic

/-!
# Topological orders

The walk that makes an order has no stack: it passes by a name that it has seen, without asking whether it
is inside of it. That is right because it runs only after the search for a cycle, and the search is exact.
With no cycle in reach, a name that the walk is inside of never comes up again (`Orderly.cycle`). So when a
name is left, all that it leads to is done, and stands further back in the list.
-/

namespace ClassAtlas.ClassGraph

section

variable {next : String → List String} {all roots unseen order : List String} {todo rest : List Step}
  {a : String}

/-- The list holds what is done, each name once; every name of it can be reached, and stands in front of
what it leads to. -/
structure Lists (next : String → List String) (all roots unseen : List String) (todo : List Step)
    (order : List String) : Prop where
  distinct : order.Nodup
  done : ∀ x, x ∈ order ↔ x ∈ all ∧ Done unseen todo x
  reached : ∀ x ∈ order, Reached next roots x
  forward : ∀ x ∈ order, ∀ b ∈ next x, b ∈ order ∧ order.idxOf x < order.idxOf b

theorem Lists.congr {unseen' : List String} {todo' : List Step} (h : Lists next all roots unseen todo order)
    (hdone : ∀ x, Done unseen' todo' x ↔ Done unseen todo x) : Lists next all roots unseen' todo' order where
  distinct := h.distinct
  done := fun x => (h.done x).trans (and_congr_right fun _ => (hdone x).symm)
  reached := h.reached
  forward := h.forward

/-- **A name that is left goes in front of all that it leads to.** -/
theorem Lists.leave (h : Lists next all roots unseen (.leave a :: rest) order)
    (horderly : Orderly next roots unseen (.leave a :: rest)) (hall : ∀ x, Reached next roots x → x ∈ all) :
    Lists next all roots unseen rest (a :: order) := by
  have hreached : Reached next roots a := horderly.reached (.leave a) List.mem_cons_self
  have hnew : a ∉ order := by
    intro ha
    exact ((h.done a).mp ha).2.2 List.mem_cons_self
  have hlater : ∀ b ∈ order, (a :: order).idxOf b = order.idxOf b + 1 := by
    intro b hb
    exact List.idxOf_cons_ne order fun he => hnew (he ▸ hb)
  refine ⟨List.nodup_cons.mpr ⟨hnew, h.distinct⟩, ?_, ?_, ?_⟩
  · intro x
    rw [List.mem_cons, horderly.done_left_iff, h.done]
    constructor
    · intro hx
      rcases hx with hxa | ⟨hx, hdone⟩
      · exact ⟨hxa ▸ hall a hreached, Or.inr hxa⟩
      · exact ⟨hx, Or.inl hdone⟩
    · intro ⟨hx, hdone⟩
      exact hdone.symm.imp_right fun hdone => ⟨hx, hdone⟩
  · intro x hx
    rcases List.mem_cons.mp hx with rfl | hx
    · exact hreached
    · exact h.reached x hx
  · intro x hx b hb
    rcases List.mem_cons.mp hx with hxa | hx
    · rw [hxa] at hb ⊢
      have hlisted : b ∈ order := (h.done b).mpr ⟨hall b (hreached.step hb), horderly.next_done b hb⟩
      refine ⟨List.mem_cons_of_mem a hlisted, ?_⟩
      rw [hlater b hlisted, List.idxOf_cons_self]
      omega
    · obtain ⟨hlisted, hbefore⟩ := h.forward x hx b hb
      refine ⟨List.mem_cons_of_mem a hlisted, ?_⟩
      rw [hlater x hx, hlater b hlisted]
      omega

/-- **A walk with no cycle in reach keeps the list in order to its end.** -/
theorem Lists.leavingOrder (h : Lists next all roots unseen todo order)
    (horderly : Orderly next roots unseen todo) (hall : ∀ x, Reached next roots x → x ∈ all)
    (hacyclic : ∀ x, Reached next roots x → ¬ Relation.TransGen (Along next) x x) :
    ∃ left, Orderly next roots left []
      ∧ Lists next all roots left [] (leavingOrder next unseen todo order) := by
  induction unseen, todo, order using leavingOrder.induct next with
  | case1 unseen order =>
    rw [ClassGraph.leavingOrder]
    exact ⟨unseen, horderly, h⟩
  | case2 unseen order a rest ih =>
    rw [ClassGraph.leavingOrder]
    exact ih (h.leave horderly hall) horderly.leave
  | case3 unseen order a rest hunseen ih =>
    rw [ClassGraph.leavingOrder, if_pos hunseen]
    exact ih (h.congr fun x => done_entered_iff hunseen) (horderly.enter hunseen)
  | case4 unseen order a rest hseen ih =>
    rw [ClassGraph.leavingOrder, if_neg hseen]
    -- the walk cannot be inside of a name that it comes to again
    have hleft : .leave a ∉ rest := by
      intro hinside
      exact hacyclic a (horderly.reached (.enter a) List.mem_cons_self) (horderly.cycle hinside)
    exact ih (h.congr fun x => ⟨done_enter_of_done, done_of_enter⟩) (horderly.skip hseen hleft)

end

/-! ## Class graphs -/

/-- Every name that can be reached from a class is met by the walks. -/
theorem mem_vertices_of_reachable {g : ClassGraph} {v : String} (h : g.Reachable v) : v ∈ g.vertices := by
  obtain ⟨a, ha, hpath⟩ := h
  cases hpath with
  | refl => exact mem_vertices_iff.mpr (Or.inl ha)
  | tail _ hstep =>
    obtain ⟨r, hr, -, htarget⟩ := hstep
    exact mem_vertices_iff.mpr (Or.inr (mem_endpoints_iff.mpr ⟨r, hr, Or.inr htarget.symm⟩))

/-- Where both classes of every relation are there, nothing but classes can be reached. -/
theorem reachable_iff_mem_names {g : ClassGraph} (hends : ∀ r ∈ g.relations, g.Knows r) {v : String} :
    g.Reachable v ↔ v ∈ g.names := by
  constructor
  · intro ⟨a, ha, hpath⟩
    cases hpath with
    | refl => exact ha
    | tail _ hstep =>
      obtain ⟨r, hr, -, htarget⟩ := hstep
      exact htarget ▸ (hends r hr).2
  · intro hv
    exact ⟨v, hv, Relation.ReflTransGen.refl⟩

theorem lists_start (g : ClassGraph) :
    Lists g.targets g.vertices g.names g.vertices (g.names.map .enter) [] where
  distinct := List.nodup_nil
  done := fun _ => ⟨fun hx => absurd hx List.not_mem_nil, fun hx => absurd hx.1 hx.2.1⟩
  reached := fun _ hx => absurd hx List.not_mem_nil
  forward := fun _ hx => absurd hx List.not_mem_nil

/-- The order of a graph without a cycle in reach. -/
theorem lists_of_not_hasCycle {g : ClassGraph} (h : g.hasCycle = false) :
    ∃ left, Orderly g.targets g.names left []
      ∧ Lists g.targets g.vertices g.names left []
        (leavingOrder g.targets g.vertices (g.names.map .enter) []) := by
  refine (lists_start g).leavingOrder (orderly_start g) ?_ ?_
  · intro x hx
    exact mem_vertices_of_reachable (reached_iff_reachable.mp hx)
  · intro x hx hcycle
    rw [along_targets] at hcycle
    have hfound : g.hasCycle = true := hasCycle_iff.mpr ⟨x, reached_iff_reachable.mp hx, hcycle⟩
    rw [h] at hfound
    exact absurd hfound (by simp)

/--
**The topological order is one, and there is one unless a cycle can be reached.**

It lists what can be reached from the classes by any number of relations, each name once; that is the classes
themselves if both classes of every relation are there. Every relation that leaves a name of the list leads to
one that stands further back.
-/
theorem topologicalOrder_lists_forward (g : ClassGraph) :
    (g.topologicalOrder = none ↔ g.hasCycle = true)
      ∧ ∀ order, g.topologicalOrder = some order →
        order.Nodup
          ∧ (∀ v, v ∈ order ↔ ∃ a ∈ g.names, Relation.ReflTransGen g.Arrow a v)
          ∧ ((∀ r ∈ g.relations, g.Knows r) → ∀ v, v ∈ order ↔ v ∈ g.names)
          ∧ ∀ r ∈ g.relations, r.source ∈ order →
            r.target ∈ order ∧ order.idxOf r.source < order.idxOf r.target := by
  unfold topologicalOrder
  cases hcycle : g.hasCycle with
  | true => simp
  | false =>
    refine ⟨by simp, ?_⟩
    intro order horder
    rw [if_neg (by simp), Option.some.injEq] at horder
    obtain ⟨left, horderly, hlists⟩ := lists_of_not_hasCycle hcycle
    rw [horder] at hlists
    have hreach : ∀ v, v ∈ order ↔ g.Reachable v := by
      intro v
      rw [← reached_iff_reachable]
      refine ⟨hlists.reached v, fun hv => ?_⟩
      have hvertex := mem_vertices_of_reachable (reached_iff_reachable.mp hv)
      exact (hlists.done v).mpr ⟨hvertex, horderly.done_of_reached hv⟩
    refine ⟨hlists.distinct, hreach, ?_, ?_⟩
    · intro hends v
      exact (hreach v).trans (reachable_iff_mem_names hends)
    · intro r hr hsource
      exact hlists.forward r.source hsource r.target (mem_targets_iff.mpr ⟨r, hr, rfl, rfl⟩)

/-- Four classes: the last one leads to two others, and these lead to the first one. -/
def diamond : ClassGraph where
  nodes := [{ name := "Base" }, { name := "Left" }, { name := "Right" }, { name := "Top" }]
  relations := [⟨"Left", "Base", .inheritance⟩, ⟨"Right", "Base", .inheritance⟩,
    ⟨"Top", "Left", .composition⟩, ⟨"Top", "Left", .dependency⟩, ⟨"Top", "Right", .composition⟩]

-- names of which no class is there are listed as well
example : { diamond with nodes := [{ name := "Top" }] }.topologicalOrder
    = some ["Top", "Right", "Left", "Base"] := by cbv

theorem diamond_order :
    (∀ r ∈ diamond.relations, diamond.Knows r)
      ∧ ∃ order, diamond.topologicalOrder = some order
        ∧ order = ["Top", "Right", "Left", "Base"]
        ∧ order.Nodup
        ∧ (∀ v, v ∈ order ↔ v ∈ diamond.names)
        ∧ ∀ r ∈ diamond.relations, order.idxOf r.source < order.idxOf r.target := by
  have hends : ∀ r ∈ diamond.relations, diamond.Knows r := by simp [diamond, Knows, names]
  have horder : diamond.topologicalOrder = some ["Top", "Right", "Left", "Base"] := by cbv
  obtain ⟨hdistinct, -, hclasses, hforward⟩ := (topologicalOrder_lists_forward diamond).2 _ horder
  refine ⟨hends, _, horder, rfl, hdistinct, hclasses hends, ?_⟩
  intro r hr
  exact (hforward r hr ((hclasses hends _).mpr (hends r hr).1)).2

end ClassAtlas.ClassGraph
