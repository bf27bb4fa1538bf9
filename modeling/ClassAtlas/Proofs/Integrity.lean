import ClassAtlas.Proofs.Replay

/-!
# Referential integrity

A relation never outlives its classes, no two classes share a name, and no relation is there twice. All
three hold in every graph that the program can make: by adding and removing classes and relations, by
editing classes, and by visits, also those that a fault ends half way.

The invariant is `Integrity`. A visit is covered without a look at any of its rules, since it replays
steps and each step is a graph operation (`integrity_apply`).
-/

namespace ClassAtlas.Proofs

open ClassAtlas Analysis ClassGraph

/-- The invariant of class graphs. -/
structure Integrity (g : ClassGraph) : Prop where
  /-- The classes of every relation are there. -/
  ends : ∀ r ∈ g.relations, g.Knows r
  /-- No two classes share a name. -/
  keys : g.names.Nodup
  /-- No relation is there twice. -/
  once : g.relations.Nodup

theorem integrity_empty : Integrity ClassGraph.empty :=
  ⟨fun _ h => absurd h List.not_mem_nil, List.Pairwise.nil, List.Pairwise.nil⟩

/-! ## Graph operations -/

theorem integrity_addNode {g : ClassGraph} (h : Integrity g) (node : ClassNode) :
    Integrity (g.addNode node) := by
  refine ⟨fun r hr => ?_, ?_, h.once⟩
  · obtain ⟨hs, ht⟩ := h.ends r hr
    exact ⟨mem_names_addNode.mpr (Or.inr hs), mem_names_addNode.mpr (Or.inr ht)⟩
  · rw [names_addNode]
    exact nodup_arrive h.keys

theorem integrity_modifyNode {g : ClassGraph} (h : Integrity g) {name : String}
    {f : ClassNode → ClassNode} (hf : ∀ n, n.name = name → (f n).name = n.name) :
    Integrity (g.modifyNode name f) := by
  have hnames := names_modifyNode g name hf
  refine ⟨fun r hr => ?_, hnames ▸ h.keys, h.once⟩
  unfold Knows
  rw [hnames]
  exact h.ends r hr

theorem names_filter (g : ClassGraph) (name : String) :
    (g.nodes.filter (·.name ≠ name)).map (·.name) = g.names.filter (· ≠ name) := by
  unfold names
  rw [List.filter_map]
  rfl

theorem integrity_removeNode {g : ClassGraph} (h : Integrity g) (name : String) :
    Integrity (g.removeNode name) := by
  unfold removeNode
  split
  · refine ⟨fun r hr => ?_, ?_, h.once.filter _⟩
    · -- a relation that stays has neither end at the class that goes
      obtain ⟨hmem, hkeep⟩ := List.mem_filter.mp hr
      simp only [Bool.and_eq_true, decide_eq_true_eq] at hkeep
      obtain ⟨hs, ht⟩ := h.ends r hmem
      unfold Knows ClassGraph.names
      rw [names_filter]
      exact ⟨List.mem_filter.mpr ⟨hs, decide_eq_true hkeep.1⟩,
        List.mem_filter.mpr ⟨ht, decide_eq_true hkeep.2⟩⟩
    · unfold ClassGraph.names
      rw [names_filter]
      exact h.keys.filter _
  · exact h

theorem integrity_addRelation {g : ClassGraph} (h : Integrity g) (r : Relation) :
    Integrity (g.addRelation r) := by
  by_cases hk : g.Knows r
  · refine ⟨fun q hq => ?_, ?_, ?_⟩
    · unfold Knows
      rw [names_addRelation]
      rcases mem_relations_addRelation.mp hq with hq | ⟨rfl, -⟩
      · exact h.ends q hq
      · exact hk
    · rw [names_addRelation]
      exact h.keys
    · rw [addRelation_of_knows hk]
      exact Ordered.nodup_insert h.once
  · rw [addRelation_of_not_knows hk]
    exact h

theorem integrity_removeRelation {g : ClassGraph} (h : Integrity g) (r : Relation) :
    Integrity (g.removeRelation r) :=
  ⟨fun q hq => h.ends q (List.mem_filter.mp hq).1, h.keys, h.once.filter _⟩

/-- An edit that keeps the name of the class keeps the invariant, and one that fails changes
nothing. -/
theorem integrity_edit {g : ClassGraph} (h : Integrity g) {name : String}
    {f : ClassNode → Except Fault ClassNode} (hf : ∀ n m, f n = .ok m → m.name = n.name) :
    ∀ {g' : ClassGraph}, g.edit name f = .ok g' → Integrity g' := by
  intro g' hedit
  obtain ⟨old, hold, hedit⟩ := bind_eq_ok hedit
  obtain ⟨new, hnew, hedit⟩ := bind_eq_ok hedit
  have hname : old.name = name := by
    unfold knownNode at hold
    split at hold
    · rename_i n hn
      injection hold with hold
      exact hold ▸ name_of_node? hn
    · exact absurd hold (by simp)
  injection hedit with hedit
  rw [← hedit]
  exact integrity_modifyNode h fun n hn => (hf old new hnew).trans (hname.trans hn.symm)

/-! ## Visits -/

/-- **Every step keeps the invariant.** -/
theorem integrity_apply {st : Analysis} (h : Integrity st.graph) (s : Step) :
    Integrity (s.apply st).graph := by
  cases s with
  | addClass node => exact integrity_addNode h node
  | addAttribute name member => exact integrity_modifyNode h fun n _ => rfl
  | addFunction name function => exact integrity_modifyNode h fun n _ => rfl
  | relate r => exact integrity_addRelation h r
  | compose call r =>
    simp only [Step.apply]
    split
    · exact h
    · exact integrity_addRelation h r
  | depend call r =>
    simp only [Step.apply]
    split
    · exact h
    · exact integrity_addRelation h r

theorem integrity_replay {st : Analysis} (h : Integrity st.graph) (steps : List Step) :
    Integrity (replay steps st).graph := by
  induction steps generalizing st with
  | nil => exact h
  | cons s steps ih => exact ih (integrity_apply h s)

/-- A visit keeps the invariant, whether or not it ends in a fault. -/
theorem integrity_visit {st : Analysis} (h : Integrity st.graph) (config : Document) (o : Outline) :
    Integrity (visit config o st).1.graph := by
  obtain ⟨printed, hvisit⟩ := visit_eq_replay config o st
  rw [hvisit]
  exact integrity_replay h _

/-! ## Runs -/

/-- What can be done to a class graph. -/
inductive Operation where
  | addNode (node : ClassNode)
  | removeNode (name : String)
  | addRelation (r : Relation)
  | removeRelation (r : Relation)
  | addAttribute (name member : String)
  | addFunction (name : String) (function : Method)
  | setEnum (name : String)
  | setAbstract (name : String)
  /-- A visit by a visitor in any state: in any class, or in none, and with any calls remembered. A
  visitor may still be in a class that was replaced since; what it adds there is lost, and the graph is
  the one after this operation and a further `addNode`. -/
  | visit (config : Document) (o : Outline) (current : Option String) (composed : List Nat)

/-- The graph after an edit; one that failed changed nothing. -/
def afterEdit (g : ClassGraph) : Except Fault ClassGraph → ClassGraph
  | .ok g' => g'
  | .error _ => g

/-- What an operation does. -/
def Operation.apply (g : ClassGraph) : Operation → ClassGraph
  | .addNode node => g.addNode node
  | .removeNode name => g.removeNode name
  | .addRelation r => g.addRelation r
  | .removeRelation r => g.removeRelation r
  | .addAttribute name member => afterEdit g (g.edit name (ClassNode.withAttribute member))
  | .addFunction name function => afterEdit g (g.edit name (ClassNode.withFunction function))
  | .setEnum name => afterEdit g (g.edit name (ClassNode.withKind .enumeration))
  | .setAbstract name => afterEdit g (g.edit name (ClassNode.withKind .abstract))
  | .visit config o current composed =>
    (Analysis.visit config o { graph := g, current := current, composed := composed }).1.graph

/-- The graph after operations on the empty one. -/
def run (operations : List Operation) : ClassGraph :=
  operations.foldl Operation.apply ClassGraph.empty

theorem integrity_afterEdit {g : ClassGraph} (h : Integrity g) {name : String}
    {f : ClassNode → Except Fault ClassNode} (hf : ∀ n m, f n = .ok m → m.name = n.name) :
    Integrity (afterEdit g (g.edit name f)) := by
  cases hedit : g.edit name f with
  | error fault => exact h
  | ok g' => exact integrity_edit h hf hedit

/-! Edits keep the name of the class. -/

theorem name_of_withAttribute {member : String} {n m : ClassNode}
    (h : ClassNode.withAttribute member n = .ok m) : m.name = n.name := by
  unfold ClassNode.withAttribute at h
  split at h
  · injection h with h
    rw [← h]
    rfl
  · exact absurd h (by simp)

theorem name_of_withFunction {function : Method} {n m : ClassNode}
    (h : ClassNode.withFunction function n = .ok m) : m.name = n.name := by
  unfold ClassNode.withFunction at h
  split at h
  · injection h with h
    rw [← h]
    rfl
  · exact absurd h (by simp)

theorem name_of_withKind {kind : ClassKind} {n m : ClassNode} (h : ClassNode.withKind kind n = .ok m) :
    m.name = n.name := by
  injection h with h
  rw [← h]

/-- **Every operation keeps the invariant.** -/
theorem integrity_step {g : ClassGraph} (h : Integrity g) (op : Operation) :
    Integrity (op.apply g) := by
  cases op with
  | addNode node => exact integrity_addNode h node
  | removeNode name => exact integrity_removeNode h name
  | addRelation r => exact integrity_addRelation h r
  | removeRelation r => exact integrity_removeRelation h r
  | addAttribute name member => exact integrity_afterEdit h fun n m => name_of_withAttribute
  | addFunction name function => exact integrity_afterEdit h fun n m => name_of_withFunction
  | setEnum name => exact integrity_afterEdit h fun n m => name_of_withKind
  | setAbstract name => exact integrity_afterEdit h fun n m => name_of_withKind
  | visit config o current composed =>
    have hst : Integrity ({ graph := g, current := current, composed := composed } : Analysis).graph := h
    exact integrity_visit hst config o

theorem integrity_run (operations : List Operation) : Integrity (run operations) := by
  have hrun : ∀ g : ClassGraph, Integrity g → Integrity (operations.foldl Operation.apply g) := by
    induction operations with
    | nil => intro g h; exact h
    | cons op operations ih => intro g h; exact ih (op.apply g) (integrity_step h op)
  exact hrun ClassGraph.empty integrity_empty

/--
**Referential integrity, in every graph that a run can reach.**

Relations join classes that are there; under every name there is exactly one class, and it has that
name; no relation is there twice.
-/
theorem run_references_intact (operations : List Operation) :
    (∀ r ∈ (run operations).relations,
        r.source ∈ (run operations).names ∧ r.target ∈ (run operations).names)
      ∧ (run operations).names.Nodup
      ∧ (∀ name ∈ (run operations).names,
        ∃ node, (run operations).node? name = some node ∧ node.name = name)
      ∧ (run operations).relations.Nodup := by
  have h := integrity_run operations
  refine ⟨h.ends, h.keys, ?_, h.once⟩
  intro name hname
  cases hnode : (run operations).node? name with
  | none => exact absurd hname (node?_eq_none_iff.mp hnode)
  | some node => exact ⟨node, rfl, name_of_node? hnode⟩

end ClassAtlas.Proofs
