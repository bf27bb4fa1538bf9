import ClassAtlas.ClassGraph.Edit

/-!
# Laws of class graphs

A class graph is seen through three views: the names of its classes in order, the class under each
name, and the members of its relation list. Here each operation is described once through these views.
With names that do not repeat, the first two views together determine the classes (`nodes_ext`), so
graphs can be compared without looking at how they were made.
-/

namespace ClassAtlas.ClassGraph

variable {g h : ClassGraph} {node : ClassNode} {name other : String} {r x : Relation}

/-! ## Names -/

/-- A name arrives: at the end, unless it is there. -/
def arrive (names : List String) (name : String) : List String :=
  if name ∈ names then names else names ++ [name]

theorem mem_arrive {names : List String} : other ∈ arrive names name ↔ other = name ∨ other ∈ names := by
  unfold arrive
  split
  · rename_i h
    exact ⟨Or.inr, fun ho => ho.elim (fun e => e ▸ h) id⟩
  · rw [List.mem_append, List.mem_singleton]
    exact or_comm

theorem nodup_arrive {names : List String} (hn : names.Nodup) : (arrive names name).Nodup := by
  unfold arrive
  split
  · exact hn
  · rename_i h
    rw [List.nodup_append]
    refine ⟨hn, List.pairwise_singleton _ name, ?_⟩
    intro a ha b hb he
    rw [List.mem_singleton] at hb
    exact h (hb ▸ he ▸ ha)

theorem arrive_of_mem {names : List String} (h : name ∈ names) : arrive names name = names :=
  if_pos h

@[simp] theorem hasNode_iff : g.hasNode name = true ↔ name ∈ g.names := by
  unfold hasNode
  rw [List.contains_iff_mem]

theorem putNode_names (node : ClassNode) (nodes : List ClassNode) :
    (putNode node nodes).map (·.name) = arrive (nodes.map (·.name)) node.name := by
  induction nodes with
  | nil => rfl
  | cons n rest ih =>
    by_cases h : n.name = node.name
    · rw [putNode, if_pos h, List.map_cons, List.map_cons, h, arrive_of_mem List.mem_cons_self]
    · rw [putNode, if_neg h, List.map_cons, ih, List.map_cons]
      unfold arrive
      have hmem : node.name ∈ n.name :: rest.map (·.name) ↔ node.name ∈ rest.map (·.name) := by
        rw [List.mem_cons]
        exact ⟨fun hm => hm.resolve_left (Ne.symm h), Or.inr⟩
      by_cases hr : node.name ∈ rest.map (·.name)
      · rw [if_pos hr, if_pos (hmem.mpr hr)]
      · rw [if_neg hr, if_neg (fun hm => hr (hmem.mp hm)), List.cons_append]

theorem names_addNode (g : ClassGraph) (node : ClassNode) :
    (g.addNode node).names = arrive g.names node.name :=
  putNode_names node g.nodes

theorem mem_names_addNode : name ∈ (g.addNode node).names ↔ name = node.name ∨ name ∈ g.names := by
  rw [names_addNode, mem_arrive]

@[simp] theorem relations_addNode (g : ClassGraph) (node : ClassNode) :
    (g.addNode node).relations = g.relations := rfl

/-- Changing a class under its name changes no names. -/
theorem names_modifyNode {f : ClassNode → ClassNode} (g : ClassGraph) (name : String)
    (hf : ∀ n, n.name = name → (f n).name = n.name) : (g.modifyNode name f).names = g.names := by
  unfold modifyNode names
  rw [List.map_map]
  refine List.map_congr_left fun n _ => ?_
  rw [Function.comp_apply]
  split
  · rename_i h
    exact hf n h
  · rfl

@[simp] theorem relations_modifyNode (g : ClassGraph) (name : String) (f : ClassNode → ClassNode) :
    (g.modifyNode name f).relations = g.relations := rfl

@[simp] theorem names_addRelation (g : ClassGraph) (r : Relation) : (g.addRelation r).names = g.names := by
  unfold addRelation
  split <;> rfl

@[simp] theorem nodes_addRelation (g : ClassGraph) (r : Relation) : (g.addRelation r).nodes = g.nodes := by
  unfold addRelation
  split <;> rfl

/-! ## The class under a name -/

theorem node?_eq_none_iff : g.node? name = none ↔ name ∉ g.names := by
  unfold node? names
  rw [List.find?_eq_none, List.mem_map]
  constructor
  · rintro h ⟨n, hn, he⟩
    exact h n hn (beq_iff_eq.mpr he)
  · intro h n hn he
    exact h ⟨n, hn, beq_iff_eq.mp he⟩

theorem name_of_node? (hn : g.node? name = some node) : node.name = name := by
  unfold node? at hn
  have hp := List.find?_some hn
  exact beq_iff_eq.mp hp

theorem find?_cons_named {n : ClassNode} (h : n.name = name) (nodes : List ClassNode) :
    (n :: nodes).find? (·.name == name) = some n :=
  List.find?_cons_of_pos (beq_iff_eq.mpr h)

theorem find?_cons_other {n : ClassNode} (h : n.name ≠ name) (nodes : List ClassNode) :
    (n :: nodes).find? (·.name == name) = nodes.find? (·.name == name) :=
  List.find?_cons_of_neg fun hb => h (beq_iff_eq.mp hb)

theorem putNode_find? (node : ClassNode) (nodes : List ClassNode) (name : String) :
    (putNode node nodes).find? (·.name == name)
      = if node.name = name then some node else nodes.find? (·.name == name) := by
  induction nodes with
  | nil =>
    by_cases h : node.name = name
    · rw [if_pos h, putNode, find?_cons_named h]
    · rw [if_neg h, putNode, find?_cons_other h]
  | cons n rest ih =>
    by_cases hn : n.name = node.name
    · rw [putNode, if_pos hn]
      by_cases h : node.name = name
      · rw [if_pos h, find?_cons_named h]
      · rw [if_neg h, find?_cons_other h, find?_cons_other (hn ▸ h)]
    · rw [putNode, if_neg hn]
      by_cases h : n.name = name
      · rw [find?_cons_named h, find?_cons_named h, if_neg fun e => hn (h.trans e.symm)]
      · rw [find?_cons_other h, find?_cons_other h, ih]

theorem node?_addNode (g : ClassGraph) (node : ClassNode) (name : String) :
    (g.addNode node).node? name = if node.name = name then some node else g.node? name :=
  putNode_find? node g.nodes name

theorem node?_modifyNode {f : ClassNode → ClassNode} (g : ClassGraph) (name other : String)
    (hf : ∀ n, n.name = name → (f n).name = n.name) :
    (g.modifyNode name f).node? other
      = if name = other then (g.node? other).map f else g.node? other := by
  unfold modifyNode node?
  dsimp only
  induction g.nodes with
  | nil => split <;> rfl
  | cons n rest ih =>
    rw [List.map_cons]
    by_cases hn : n.name = name
    · rw [if_pos hn]
      by_cases ho : n.name = other
      · rw [find?_cons_named ((hf n hn).trans ho), find?_cons_named ho, if_pos (hn.symm.trans ho)]
        rfl
      · rw [find?_cons_other fun e => ho ((hf n hn).symm.trans e), find?_cons_other ho, ih]
    · rw [if_neg hn]
      by_cases ho : n.name = other
      · rw [find?_cons_named ho, find?_cons_named ho, if_neg fun e => hn (ho.trans e.symm)]
      · rw [find?_cons_other ho, find?_cons_other ho, ih]

theorem find?_eq_none_of_not_mem {nodes : List ClassNode} (h : name ∉ nodes.map (·.name)) :
    nodes.find? (·.name == name) = none := by
  rw [List.find?_eq_none]
  intro n hn hb
  exact h (List.mem_map.mpr ⟨n, hn, beq_iff_eq.mp hb⟩)

/-- **Names and the classes under them determine the list of classes.** -/
theorem nodes_ext (hnames : g.names = h.names) (hnodup : g.names.Nodup)
    (hnode : ∀ name, g.node? name = h.node? name) : g.nodes = h.nodes := by
  unfold names at hnames hnodup
  unfold node? at hnode
  revert hnames hnodup hnode
  generalize g.nodes = l
  generalize h.nodes = m
  intro hnames hnodup hnode
  induction l generalizing m with
  | nil => exact (List.map_eq_nil_iff.mp hnames.symm).symm
  | cons n l ih =>
    cases m with
    | nil => exact absurd hnames (by simp)
    | cons p m =>
      rw [List.map_cons, List.map_cons] at hnames
      injection hnames with hname hrest
      rw [List.map_cons, List.nodup_cons] at hnodup
      have hhead : n = p := by
        have hn := hnode n.name
        rw [find?_cons_named rfl, find?_cons_named hname.symm] at hn
        exact Option.some.inj hn
      have htail : l = m := by
        refine ih m hrest hnodup.2 fun name => ?_
        by_cases he : n.name = name
        · -- the head's name occurs in neither rest
          rw [find?_eq_none_of_not_mem (he ▸ hnodup.1),
            find?_eq_none_of_not_mem (he ▸ hrest ▸ hnodup.1)]
        · have hn := hnode name
          rwa [find?_cons_other he, find?_cons_other (hname ▸ he)] at hn
      rw [hhead, htail]

/-! ## Relations -/

/-- Both classes of a relation are there. -/
def Knows (g : ClassGraph) (r : Relation) : Prop :=
  r.source ∈ g.names ∧ r.target ∈ g.names

theorem addRelation_of_knows (h : g.Knows r) : g.addRelation r = g.insertRelation r := by
  unfold addRelation
  rw [if_pos]
  rw [Bool.and_eq_true, hasNode_iff, hasNode_iff]
  exact h

theorem addRelation_of_not_knows (h : ¬ g.Knows r) : g.addRelation r = g := by
  unfold addRelation
  rw [if_neg]
  rw [Bool.and_eq_true, hasNode_iff, hasNode_iff]
  exact h

theorem mem_relations_addRelation :
    x ∈ (g.addRelation r).relations ↔ x ∈ g.relations ∨ (x = r ∧ g.Knows r) := by
  by_cases h : g.Knows r
  · rw [addRelation_of_knows h, insertRelation, Ordered.mem_insert]
    exact ⟨fun hx => hx.elim (fun e => Or.inr ⟨e, h⟩) Or.inl,
      fun hx => hx.elim Or.inr fun e => Or.inl e.1⟩
  · rw [addRelation_of_not_knows h]
    exact ⟨Or.inl, fun hx => hx.elim id fun e => absurd e.2 h⟩

theorem addRelation_of_mem (h : r ∈ g.relations) : g.addRelation r = g := by
  by_cases hk : g.Knows r
  · rw [addRelation_of_knows hk, insertRelation, Ordered.insert, if_pos h]
  · exact addRelation_of_not_knows hk

theorem removeRelation_of_not_mem (h : r ∉ g.relations) : g.removeRelation r = g := by
  have hkept : g.relations.filter (· ≠ r) = g.relations :=
    List.filter_eq_self.mpr fun s hs => decide_eq_true fun he => h (he ▸ hs)
  unfold removeRelation
  rw [hkept]

/-! ## What is told

Removing a class, adding a relation and removing one each tell whether they changed the graph. -/

theorem hasNodeThenRemove_fst_iff :
    (g.hasNodeThenRemove name).1 = true ↔ (g.hasNodeThenRemove name).2 ≠ g := by
  show g.hasNode name = true ↔ g.removeNode name ≠ g
  constructor
  · intro hthere hsame
    have hmem : name ∈ (g.removeNode name).names := by
      rw [hsame]
      exact hasNode_iff.mp hthere
    rw [removeNode, if_pos hthere] at hmem
    obtain ⟨n, hn, hname⟩ := List.mem_map.mp hmem
    exact of_decide_eq_true (List.mem_filter.mp hn).2 hname
  · intro hchanged
    exact Classical.byContradiction fun hgone => hchanged (if_neg hgone)

theorem acceptsThenAdd_fst_iff : (g.acceptsThenAdd r).1 = true ↔ (g.acceptsThenAdd r).2 ≠ g := by
  have haccepts : g.accepts r = true ↔ g.Knows r ∧ r ∉ g.relations := by
    simp [accepts, Knows]
  show g.accepts r = true ↔ g.addRelation r ≠ g
  rw [haccepts]
  constructor
  · rintro ⟨hknown, hnew⟩ hsame
    have hmem : r ∈ (g.addRelation r).relations := mem_relations_addRelation.mpr (Or.inr ⟨rfl, hknown⟩)
    exact hnew (hsame ▸ hmem)
  · intro hchanged
    exact ⟨Classical.byContradiction fun hunknown => hchanged (addRelation_of_not_knows hunknown),
      fun hmem => hchanged (addRelation_of_mem hmem)⟩

theorem hasRelationThenRemove_fst_iff :
    (g.hasRelationThenRemove r).1 = true ↔ (g.hasRelationThenRemove r).2 ≠ g := by
  show g.relations.contains r = true ↔ g.removeRelation r ≠ g
  rw [List.contains_iff_mem]
  constructor
  · intro hmem hsame
    rw [← hsame] at hmem
    exact of_decide_eq_true (List.mem_filter.mp hmem).2 rfl
  · intro hchanged
    exact Classical.byContradiction fun hnew => hchanged (removeRelation_of_not_mem hnew)

end ClassAtlas.ClassGraph
