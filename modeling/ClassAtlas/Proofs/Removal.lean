import ClassAtlas.Proofs.Integrity

/-!
# Removing a class undoes what was attached to it

A class arrives, relations from and to it come and go, and it is removed again. Whatever was done in between,
the graph is then the one from before, with its classes and relations in their old order.

The invariant is `Attached`: the new class stands behind the old ones, and without the relations that touch it
the relations are the old ones. Adding or removing a relation that touches the class cannot be seen in what is
left without such relations, whether or not the graph takes it. So each step keeps the invariant
(`Attached.apply`).
-/

namespace ClassAtlas.Proofs

open ClassAtlas ClassGraph

/-! ## Relations that touch a class -/

/-- The relation comes from the class or leads to it. -/
def Touches (name : String) (r : Relation) : Prop :=
  r.source = name ∨ r.target = name

instance (name : String) : DecidablePred (Touches name) :=
  fun _ => inferInstanceAs (Decidable (_ ∨ _))

/-- The operation adds or removes a relation that touches the class. -/
inductive Operation.Attaches (name : String) : Operation → Prop
  | add {r : Relation} (h : Touches name r) : Attaches name (.addRelation r)
  | remove {r : Relation} (h : Touches name r) : Attaches name (.removeRelation r)

/-- The relations that do not touch a class. -/
def untouched (name : String) (relations : List Relation) : List Relation :=
  relations.filter fun r => ¬ Touches name r

theorem untouched_insert {name : String} {r : Relation} (hr : Touches name r) (relations : List Relation) :
    untouched name (Ordered.insert Relation.before r relations) = untouched name relations :=
  Ordered.filter_insert (by simpa using hr) relations

theorem untouched_remove {name : String} {r : Relation} (hr : Touches name r) (relations : List Relation) :
    untouched name (relations.filter (· ≠ r)) = untouched name relations := by
  unfold untouched
  rw [List.filter_filter]
  refine List.filter_congr fun q _ => ?_
  -- a relation that does not touch the class is not the one that goes
  by_cases hq : Touches name q
  · simp [hq]
  · have hne : q ≠ r := fun he => hq (he ▸ hr)
    simp [hq, hne]

/-- Nothing touches a class that is not there. -/
theorem untouched_of_new {g : ClassGraph} (hends : ∀ r ∈ g.relations, g.Knows r) {name : String}
    (hnew : name ∉ g.names) : untouched name g.relations = g.relations := by
  refine List.filter_eq_self.mpr fun r hr => decide_eq_true ?_
  intro htouch
  obtain ⟨hsource, htarget⟩ := hends r hr
  rcases htouch with rfl | rfl
  · exact hnew hsource
  · exact hnew htarget

/-! ## Classes -/

/-- A class with a new name is put at the end. -/
theorem putNode_of_new {n : ClassNode} {nodes : List ClassNode} (hnew : n.name ∉ nodes.map (·.name)) :
    putNode n nodes = nodes ++ [n] := by
  induction nodes with
  | nil => rfl
  | cons m rest ih =>
    rw [List.map_cons, List.mem_cons, not_or] at hnew
    rw [putNode, if_neg (Ne.symm hnew.1), ih hnew.2, List.cons_append]

theorem filter_append_of_new {n : ClassNode} {nodes : List ClassNode} (hnew : n.name ∉ nodes.map (·.name)) :
    (nodes ++ [n]).filter (·.name ≠ n.name) = nodes := by
  have hkeep : nodes.filter (·.name ≠ n.name) = nodes := by
    refine List.filter_eq_self.mpr fun m hm => decide_eq_true ?_
    intro he
    exact hnew (List.mem_map.mpr ⟨m, hm, he⟩)
  rw [List.filter_append, hkeep]
  simp

/-! ## Steps and runs -/

/-- A graph that comes from another one by a new class and by relations that touch it. -/
structure Attached (g : ClassGraph) (n : ClassNode) (s : ClassGraph) : Prop where
  /-- The new class stands behind the old ones. -/
  nodes : s.nodes = g.nodes ++ [n]
  /-- The relations that do not touch it are the old ones. -/
  relations : untouched n.name s.relations = g.relations

section

variable {g s : ClassGraph} {n : ClassNode}

theorem attached_addNode (hends : ∀ r ∈ g.relations, g.Knows r) (hnew : n.name ∉ g.names) :
    Attached g n (g.addNode n) :=
  ⟨putNode_of_new hnew, untouched_of_new hends hnew⟩

/-- **Every step keeps the invariant**, also one that the graph refuses. -/
theorem Attached.apply (h : Attached g n s) {op : Operation} (hop : op.Attaches n.name) :
    Attached g n (op.apply s) := by
  cases hop with
  | @add r hr =>
    show Attached g n (s.addRelation r)
    by_cases hknows : s.Knows r
    · rw [addRelation_of_knows hknows]
      exact ⟨h.nodes, (untouched_insert hr s.relations).trans h.relations⟩
    · rw [addRelation_of_not_knows hknows]
      exact h
  | @remove r hr => exact ⟨h.nodes, (untouched_remove hr s.relations).trans h.relations⟩

theorem Attached.run (h : Attached g n s) {operations : List Operation}
    (hops : ∀ op ∈ operations, op.Attaches n.name) : Attached g n (operations.foldl Operation.apply s) := by
  induction operations generalizing s with
  | nil => exact h
  | cons op rest ih =>
    have hstep := h.apply (hops op List.mem_cons_self)
    exact ih hstep fun other hother => hops other (List.mem_cons_of_mem op hother)

/-- **Removing the class gives the old graph back.** -/
theorem Attached.remove (h : Attached g n s) (hnew : n.name ∉ g.names) :
    s.hasNodeThenRemove n.name = (true, g) := by
  have hthere : s.hasNode n.name = true := by
    rw [hasNode_iff, names, h.nodes, List.map_append]
    exact List.mem_append_right _ List.mem_cons_self
  have hnodes : s.nodes.filter (·.name ≠ n.name) = g.nodes := by
    rw [h.nodes]
    exact filter_append_of_new hnew
  have hrelations : (s.relations.filter fun r => r.source ≠ n.name && r.target ≠ n.name) = g.relations := by
    rw [← h.relations]
    exact List.filter_congr fun r _ => by simp [Touches]
  rw [hasNodeThenRemove, removeNode, hthere, if_pos rfl, hnodes, hrelations]

end

theorem hasNodeThenRemove_of_new {g : ClassGraph} {name : String} (hnew : name ∉ g.names) :
    g.hasNodeThenRemove name = (false, g) := by
  have hgone : g.hasNode name = false := Bool.eq_false_iff.mpr (mt hasNode_iff.mp hnew)
  rw [hasNodeThenRemove, removeNode, hgone]
  rfl

/--
**Removing a class undoes everything that was attached to it.**

Let all relations of a graph join classes that are there, and let a class arrive under a new name. Then let
relations that come from it or lead to it be added and removed in any order: to itself, of any kind, and also to
names of which no class is there. Removing the class finds it and gives back the graph from before, and removing
it once more finds nothing and changes nothing.
-/
theorem removal_undoes_attachments (g : ClassGraph) (n : ClassNode) (operations : List Operation)
    (hends : ∀ r ∈ g.relations, g.Knows r) (hnew : n.name ∉ g.names)
    (hops : ∀ op ∈ operations, op.Attaches n.name) :
    (operations.foldl Operation.apply (g.addNode n)).hasNodeThenRemove n.name = (true, g)
      ∧ g.hasNodeThenRemove n.name = (false, g) :=
  ⟨((attached_addNode hends hnew).run hops).remove hnew, hasNodeThenRemove_of_new hnew⟩

/-- A class that inherits from another one. -/
def pier : ClassGraph :=
  { nodes := [{ name := "Boat" }, { name := "Ferry" }]
    relations := [⟨"Ferry", "Boat", .inheritance⟩] }

/-- A relation of a class to itself, relations in both directions, one to a name that is not there, and one
that goes again. -/
def mooring : List Operation :=
  [.addRelation ⟨"Rope", "Rope", .association⟩, .addRelation ⟨"Boat", "Rope", .composition⟩,
    .addRelation ⟨"Rope", "Anchor", .dependency⟩, .addRelation ⟨"Rope", "Ferry", .aggregation⟩,
    .removeRelation ⟨"Boat", "Rope", .composition⟩]

/-- The graph with a further class that all these are about. -/
def moored : ClassGraph :=
  mooring.foldl Operation.apply (pier.addNode { name := "Rope" })

theorem mooring_undone :
    (∀ r ∈ pier.relations, pier.Knows r) ∧ "Rope" ∉ pier.names
      ∧ (∀ op ∈ mooring, op.Attaches "Rope")
      ∧ moored.relations = [⟨"Ferry", "Boat", .inheritance⟩, ⟨"Rope", "Ferry", .aggregation⟩,
        ⟨"Rope", "Rope", .association⟩]
      ∧ moored.hasNodeThenRemove "Rope" = (true, pier) ∧ pier.hasNodeThenRemove "Rope" = (false, pier) := by
  have hends : ∀ r ∈ pier.relations, pier.Knows r := by
    intro r hr
    rw [List.mem_singleton.mp hr]
    exact ⟨by decide, by decide⟩
  have hnew : "Rope" ∉ pier.names := by decide
  have hops : ∀ op ∈ mooring, op.Attaches "Rope" := by
    intro op hop
    simp only [mooring, List.mem_cons, List.not_mem_nil, or_false] at hop
    rcases hop with rfl | rfl | rfl | rfl | rfl
    · exact .add (by decide)
    · exact .add (by decide)
    · exact .add (by decide)
    · exact .add (by decide)
    · exact .remove (by decide)
  have hundone := removal_undoes_attachments pier { name := "Rope" } mooring hends hnew hops
  exact ⟨hends, hnew, hops, by decide, hundone⟩

end ClassAtlas.Proofs
