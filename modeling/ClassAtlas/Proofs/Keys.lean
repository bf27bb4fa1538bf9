import ClassAtlas.Keyed
import ClassAtlas.Proofs.Integrity
import ClassAtlas.Proofs.TreeGrowth

/-!
# A key is the name of what it leads to

Class graphs and package trees are used without the keys of their dictionaries. Here each operation by key is
compared with the one by name: on a graph or a tree whose keys are the names, both do the same and give the same
answer (`applyKeyed_eq`, `createAt_keyed`). All starts with the empty dictionary, so in every graph and in every
tree that can be reached the keys are the names (`keys_are_names`, `child_keys_are_names`). What an operation on a
graph answers is whether it changed the graph (`answer_tells_change`).
-/

namespace ClassAtlas

/-! ## Lists as dictionaries -/

namespace Dictionary

variable {α β : Type} {key : β → String} {value : β → α} {l : List β} {k : String}

/-- The dictionary of a list, with a key and a value for each element. -/
def under (key : β → String) (value : β → α) (l : List β) : Dictionary α :=
  l.map fun b => (key b, value b)

theorem get?_under (key : β → String) (value : β → α) (l : List β) (k : String) :
    (under key value l).get? k = (l.find? (key · == k)).map value := by
  unfold get? under
  induction l with
  | nil => rfl
  | cons b rest ih =>
    rw [List.map_cons, List.lookup_cons, List.find?_cons, ih, BEq.comm]
    cases key b == k with
    | true => rfl
    | false => rfl

theorem has_under (key : β → String) (value : β → α) (l : List β) (k : String) :
    (under key value l).has k = (l.find? (key · == k)).isSome := by
  rw [has, get?_under, Option.isSome_map]

/-- What is put under a new key stands at the end. -/
theorem put_under_of_new (h : l.find? (key · == k) = none) (v : α) :
    put k v (under key value l) = under key value l ++ [(k, v)] := by
  unfold under
  induction l with
  | nil => rfl
  | cons b rest ih =>
    rw [List.find?_cons] at h
    cases hb : key b == k with
    | true =>
      rw [hb] at h
      exact absurd h (by simp)
    | false =>
      rw [hb] at h
      rw [List.map_cons, put, if_neg (by simpa using hb), ih h, List.cons_append]

theorem remove_under (key : β → String) (value : β → α) (l : List β) (k : String) :
    (under key value l).remove k = under key value (l.filter (key · ≠ k)) := by
  unfold remove under
  rw [List.filter_map]
  rfl

end Dictionary

/-! ## Class graphs -/

namespace ClassGraph

variable {g : ClassGraph} {name : String}

/-- The graph with each class under its name. -/
def keyed (g : ClassGraph) : KeyedGraph :=
  { nodes := Dictionary.under (·.name) id g.nodes, relations := g.relations }

theorem view_keyed (g : ClassGraph) : g.keyed.view = g := by
  have hnodes : (Dictionary.under (·.name) id g.nodes).map (·.2) = g.nodes := by
    unfold Dictionary.under
    rw [List.map_map]
    exact List.map_id g.nodes
  unfold KeyedGraph.view keyed
  rw [hnodes]

theorem get?_keyed (g : ClassGraph) (name : String) : g.keyed.nodes.get? name = g.node? name :=
  (Dictionary.get?_under _ _ g.nodes name).trans Option.map_id'

theorem has_keyed (g : ClassGraph) (name : String) : g.keyed.nodes.has name = g.hasNode name := by
  rw [Bool.eq_iff_iff, hasNode_iff, Dictionary.has, get?_keyed, Option.isSome_iff_ne_none, ne_eq,
    node?_eq_none_iff, not_not]

theorem put_under (node : ClassNode) (nodes : List ClassNode) :
    Dictionary.put node.name node (Dictionary.under (·.name) id nodes)
      = Dictionary.under (·.name) id (putNode node nodes) := by
  unfold Dictionary.under
  induction nodes with
  | nil => rfl
  | cons n rest ih =>
    rw [List.map_cons, Dictionary.put, putNode]
    by_cases h : n.name = node.name
    · rw [if_pos h, if_pos h, List.map_cons]
      exact congrArg (fun key => (key, node) :: _) h
    · rw [if_neg h, if_neg h, List.map_cons, ih]

theorem addNode_keyed (g : ClassGraph) (node : ClassNode) : g.keyed.addNode node = (g.addNode node).keyed :=
  congrArg (KeyedGraph.mk · g.relations) (put_under node g.nodes)

theorem removeNode_keyed (g : ClassGraph) (name : String) :
    g.keyed.removeNode name = ((g.hasNodeThenRemove name).1, (g.hasNodeThenRemove name).2.keyed) := by
  unfold KeyedGraph.removeNode hasNodeThenRemove removeNode
  rw [has_keyed]
  cases g.hasNode name with
  | false => rfl
  | true =>
    simp only [if_true, keyed, Dictionary.remove_under]

theorem addRelation_keyed (g : ClassGraph) (r : Relation) :
    g.keyed.addRelation r = ((g.acceptsThenAdd r).1, (g.acceptsThenAdd r).2.keyed) := by
  unfold KeyedGraph.addRelation acceptsThenAdd accepts
  rw [has_keyed, has_keyed]
  by_cases hknown : (g.hasNode r.source && g.hasNode r.target) = true
  · by_cases hmem : r ∈ g.relations
    · -- the relation is there already, and adding it once more changes nothing
      rw [addRelation_of_mem hmem]
      simp [hknown, hmem, keyed]
    · rw [addRelation, if_pos hknown, if_pos hknown]
      simp [hknown, hmem, keyed, KeyedGraph.insertRelation, insertRelation]
  · rw [addRelation, if_neg hknown, if_neg hknown]
    simp [hknown]

theorem removeRelation_keyed (g : ClassGraph) (r : Relation) :
    g.keyed.removeRelation r = ((g.hasRelationThenRemove r).1, (g.hasRelationThenRemove r).2.keyed) := by
  by_cases hmem : r ∈ g.relations
  · simp [KeyedGraph.removeRelation, hasRelationThenRemove, hasRelation, removeRelation, keyed, hmem]
  · have hsame := removeRelation_of_not_mem hmem
    simp [KeyedGraph.removeRelation, hasRelationThenRemove, hasRelation, hsame, keyed, hmem]

/-- Under each key there is one class, so changing that one changes all of its name. -/
theorem change_under {f : ClassNode → ClassNode} (hf : ∀ n, n.name = name → (f n).name = n.name)
    {nodes : List ClassNode} (hnodes : (nodes.map (·.name)).Nodup) :
    Dictionary.change name f (Dictionary.under (·.name) id nodes)
      = Dictionary.under (·.name) id (nodes.map fun n => if n.name = name then f n else n) := by
  unfold Dictionary.under
  induction nodes with
  | nil => rfl
  | cons n rest ih =>
    rw [List.map_cons, List.nodup_cons] at hnodes
    rw [List.map_cons, Dictionary.change, List.map_cons, List.map_cons]
    by_cases h : n.name = name
    · have hrest : (rest.map fun n => if n.name = name then f n else n) = rest := by
        rw [List.map_congr_left, List.map_id]
        intro m hm
        exact if_neg fun he => hnodes.1 (List.mem_map.mpr ⟨m, hm, he.trans h.symm⟩)
      rw [if_pos h, if_pos h, hrest]
      exact congrArg (fun key => (key, f n) :: _) (hf n h).symm
    · rw [if_neg h, if_neg h, ih hnodes.2]

theorem modifyNode_keyed (hkeys : g.names.Nodup) {f : ClassNode → ClassNode}
    (hf : ∀ n, n.name = name → (f n).name = n.name) :
    g.keyed.modifyNode name f = (g.modifyNode name f).keyed :=
  congrArg (KeyedGraph.mk · g.relations) (change_under hf hkeys)

theorem edit_keyed (hkeys : g.names.Nodup) {f : ClassNode → Except Fault ClassNode}
    (hf : ∀ n m, f n = .ok m → m.name = n.name) : g.keyed.edit name f = (g.edit name f).map keyed := by
  unfold KeyedGraph.edit edit knownNode
  rw [get?_keyed]
  cases hnode : g.node? name with
  | none => rfl
  | some node =>
    cases hmade : f node with
    | error fault =>
      simp only [Proofs.ok_bind, hmade]
      rfl
    | ok made =>
      have hname : made.name = name := (hf node made hmade).trans (name_of_node? hnode)
      simp only [Proofs.ok_bind, hmade]
      exact congrArg Except.ok (modifyNode_keyed hkeys fun n hn => hname.trans hn.symm)

end ClassGraph

/-! ## Operations on class graphs -/

namespace Proofs

open Analysis ClassGraph

variable {g : ClassGraph}

/-- What an operation tells: removing a class, adding and removing a relation each tell whether they did it, and an
edit or a visit can end in a fault. -/
def Operation.answer (g : ClassGraph) : Operation → Except Fault (Option Bool)
  | .addNode _ => .ok none
  | .removeNode name => .ok (some (g.hasNodeThenRemove name).1)
  | .addRelation r => .ok (some (g.acceptsThenAdd r).1)
  | .removeRelation r => .ok (some (g.hasRelationThenRemove r).1)
  | .addAttribute name member => (g.edit name (ClassNode.withAttribute member)).map fun _ => none
  | .addFunction name function => (g.edit name (ClassNode.withFunction function)).map fun _ => none
  | .setEnum name => (g.edit name (ClassNode.withKind .enumeration)).map fun _ => none
  | .setAbstract name => (g.edit name (ClassNode.withKind .abstract)).map fun _ => none
  | .visit config o current composed =>
    match (Analysis.visit config o { graph := g, current := current, composed := composed }).2 with
    | some fault => .error fault
    | none => .ok none

/-- **What an operation tells is whether it changed the graph.** -/
theorem answer_tells_change {op : Operation} {told : Bool} (h : op.answer g = .ok (some told)) :
    told = true ↔ op.apply g ≠ g := by
  -- an edit tells nothing but its fault
  have hedit : ∀ result : Except Fault ClassGraph, (result.map fun _ => none) ≠ .ok (some told) := by
    intro result he
    cases result with
    | error fault => cases he
    | ok g' => cases he
  cases op with
  | addNode node => cases h
  | removeNode name =>
    cases h
    exact hasNodeThenRemove_fst_iff
  | addRelation r =>
    cases h
    exact acceptsThenAdd_fst_iff
  | removeRelation r =>
    cases h
    exact hasRelationThenRemove_fst_iff
  | addAttribute name member => exact absurd h (hedit _)
  | addFunction name function => exact absurd h (hedit _)
  | setEnum name => exact absurd h (hedit _)
  | setAbstract name => exact absurd h (hedit _)
  | visit config o current composed =>
    rw [Operation.answer] at h
    split at h
    · cases h
    · cases h

/-- What a step does to classes under keys and to the remembered calls. -/
def Step.applyKeyed (st : KeyedGraph × List Nat) : Step → KeyedGraph × List Nat
  | .addClass node => (st.1.addNode node, st.2)
  | .addAttribute name member => (st.1.modifyNode name (·.addAttribute member), st.2)
  | .addFunction name function => (st.1.modifyNode name (·.addFunction { name := function }), st.2)
  | .relate r => ((st.1.addRelation r).2, st.2)
  | .compose call r => if st.2.contains call then st else ((st.1.addRelation r).2, call :: st.2)
  | .depend call r => if st.2.contains call then st else ((st.1.addRelation r).2, st.2)

/-- An answer with the graph that it leaves. -/
def told (result : Bool × KeyedGraph) : Except Fault (Option Bool) × KeyedGraph :=
  (.ok (some result.1), result.2)

/-- The end of an edit; one that failed changed nothing. -/
def edited (k : KeyedGraph) : Except Fault KeyedGraph → Except Fault (Option Bool) × KeyedGraph
  | .ok k' => (.ok none, k')
  | .error fault => (.error fault, k)

/-- What an operation tells and does where classes are under keys. -/
def Operation.applyKeyed (k : KeyedGraph) : Operation → Except Fault (Option Bool) × KeyedGraph
  | .addNode node => (.ok none, k.addNode node)
  | .removeNode name => told (k.removeNode name)
  | .addRelation r => told (k.addRelation r)
  | .removeRelation r => told (k.removeRelation r)
  | .addAttribute name member => edited k (k.edit name (ClassNode.withAttribute member))
  | .addFunction name function => edited k (k.edit name (ClassNode.withFunction function))
  | .setEnum name => edited k (k.edit name (ClassNode.withKind .enumeration))
  | .setAbstract name => edited k (k.edit name (ClassNode.withKind .abstract))
  | .visit config o current composed =>
    (match (trace config o current).fault with
      | some fault => .error fault
      | none => .ok none,
      ((trace config o current).steps.foldl Step.applyKeyed (k, composed)).1)

theorem step_applyKeyed {st : Analysis} (h : Integrity st.graph) (s : Step) :
    s.applyKeyed (st.graph.keyed, st.composed) = ((s.apply st).graph.keyed, (s.apply st).composed) := by
  cases s with
  | addClass node => exact congrArg (·, st.composed) (addNode_keyed st.graph node)
  | addAttribute name member => exact congrArg (·, st.composed) (modifyNode_keyed h.keys fun _ _ => rfl)
  | addFunction name function => exact congrArg (·, st.composed) (modifyNode_keyed h.keys fun _ _ => rfl)
  | relate r =>
    rw [Step.applyKeyed, addRelation_keyed]
    rfl
  | compose call r =>
    rw [Step.applyKeyed, addRelation_keyed, Step.apply]
    split <;> rfl
  | depend call r =>
    rw [Step.applyKeyed, addRelation_keyed, Step.apply]
    split <;> rfl

theorem replay_keyed {st : Analysis} (h : Integrity st.graph) (steps : List Step) :
    steps.foldl Step.applyKeyed (st.graph.keyed, st.composed)
      = ((replay steps st).graph.keyed, (replay steps st).composed) := by
  induction steps generalizing st with
  | nil => rfl
  | cons s steps ih =>
    rw [List.foldl_cons, step_applyKeyed h, replay_cons]
    exact ih (integrity_apply h s)

theorem edited_keyed (h : Integrity g) {name : String} {f : ClassNode → Except Fault ClassNode}
    (hf : ∀ n m, f n = .ok m → m.name = n.name) : edited g.keyed (g.keyed.edit name f)
      = ((g.edit name f).map fun _ => none, (afterEdit g (g.edit name f)).keyed) := by
  rw [edit_keyed h.keys hf]
  cases g.edit name f with
  | error fault => rfl
  | ok g' => rfl

/-- **Under keys that are the names, an operation tells the same and does the same.** -/
theorem applyKeyed_eq (h : Integrity g) (op : Operation) :
    op.applyKeyed g.keyed = (op.answer g, (op.apply g).keyed) := by
  cases op with
  | addNode node => exact congrArg (Except.ok none, ·) (addNode_keyed g node)
  | removeNode name => exact congrArg told (removeNode_keyed g name)
  | addRelation r => exact congrArg told (addRelation_keyed g r)
  | removeRelation r => exact congrArg told (removeRelation_keyed g r)
  | addAttribute name member => exact edited_keyed h fun n m => name_of_withAttribute
  | addFunction name function => exact edited_keyed h fun n m => name_of_withFunction
  | setEnum name => exact edited_keyed h fun n m => name_of_withKind
  | setAbstract name => exact edited_keyed h fun n m => name_of_withKind
  | visit config o current composed =>
    obtain ⟨printed, hvisit⟩ :=
      visit_eq_replay config o { graph := g, current := current, composed := composed }
    have hst : Integrity ({ graph := g, current := current, composed := composed } : Analysis).graph := h
    have hsteps := replay_keyed hst (trace config o current).steps
    simp only [Operation.applyKeyed, Operation.answer, Operation.apply]
    rw [hvisit, hsteps]
    rfl

/-- What operations leave of the empty dictionary. -/
def keyedRun (operations : List Operation) : KeyedGraph :=
  operations.foldl (fun k op => (op.applyKeyed k).2) {}

theorem keyedRun_eq (operations : List Operation) : keyedRun operations = (run operations).keyed := by
  have hrun : ∀ g : ClassGraph, Integrity g → operations.foldl (fun k op => (op.applyKeyed k).2) g.keyed
      = (operations.foldl Operation.apply g).keyed := by
    induction operations with
    | nil => intro g _; rfl
    | cons op operations ih =>
      intro g h
      rw [List.foldl_cons, List.foldl_cons, applyKeyed_eq h]
      exact ih (op.apply g) (integrity_step h op)
  exact hrun ClassGraph.empty integrity_empty

/-- **In every graph that a run can reach the keys are the names, each of them once,** and whatever is done next
tells what it tells without keys. -/
theorem keys_are_names (operations : List Operation) :
    keyedRun operations = (run operations).keyed ∧ (keyedRun operations).view = run operations
      ∧ (∀ entry ∈ (keyedRun operations).nodes, entry.1 = entry.2.name)
      ∧ ((keyedRun operations).nodes.map (·.1)).Nodup
      ∧ ∀ op : Operation, (op.applyKeyed (keyedRun operations)).1 = op.answer (run operations) := by
  have h := integrity_run operations
  rw [keyedRun_eq]
  refine ⟨rfl, view_keyed (run operations), ?_, ?_, fun op => congrArg (·.1) (applyKeyed_eq h op)⟩
  · intro entry hentry
    obtain ⟨node, -, rfl⟩ := List.mem_map.mp hentry
    rfl
  · unfold keyed Dictionary.under
    rw [List.map_map]
    exact h.keys

end Proofs

/-! ## Package trees -/

namespace PackageTree

mutual

/-- The tree with each child under its name. -/
def keyed : PackageTree → KeyedTree
  | .node value children => .node value (keyedAll children)

/-- The trees of a list, each under its name. -/
def keyedAll : List PackageTree → Dictionary KeyedTree
  | [] => []
  | t :: rest => (t.name, keyed t) :: keyedAll rest

end

theorem keyedAll_eq (ts : List PackageTree) : keyedAll ts = Dictionary.under name keyed ts := by
  induction ts with
  | nil => rfl
  | cons t rest ih =>
    rw [keyedAll, ih]
    rfl

theorem value_keyed (t : PackageTree) : t.keyed.value = t.value := by
  cases t
  rfl

theorem children_keyed (t : PackageTree) : t.keyed.children = Dictionary.under name keyed t.children := by
  cases t with
  | node value children => exact keyedAll_eq children

theorem keyed_eq (t : PackageTree) : t.keyed = .node t.value (Dictionary.under name keyed t.children) := by
  cases t with
  | node value children => exact congrArg (KeyedTree.node value) (keyedAll_eq children)

theorem child?_keyed (t : PackageTree) (key : String) : t.keyed.child? key = (t.child? key).map keyed := by
  rw [KeyedTree.child?, children_keyed]
  exact Dictionary.get?_under name keyed t.children key

theorem reach_keyed (t : PackageTree) (operation : String) (place : List String) :
    t.keyed.reach operation place = (t.reach operation place).map keyed := by
  induction place generalizing t with
  | nil => rfl
  | cons key rest ih =>
    rw [KeyedTree.reach, reach, child?_keyed]
    cases t.child? key with
    | none => rfl
    | some child => exact ih child

theorem getAt_keyed (t : PackageTree) (place : List String) (key : String) :
    t.keyed.getAt place key = (t.getAt place key).map (Option.map keyed) := by
  unfold KeyedTree.getAt getAt
  rw [reach_keyed]
  cases t.reach "get_child" place with
  | error fault => rfl
  | ok parent => exact congrArg Except.ok (child?_keyed parent key)

theorem put_keyed {t : PackageTree} {child : Package} (h : t.child? child.name = none) :
    t.keyed.put child.name child = (t.push child).keyed := by
  have hpush : Dictionary.under name keyed (t.children ++ [leaf child])
      = Dictionary.under name keyed t.children ++ [(child.name, KeyedTree.leaf child)] := by
    unfold Dictionary.under
    rw [List.map_append]
    rfl
  rw [KeyedTree.put, children_keyed, value_keyed, Dictionary.put_under_of_new h, ← hpush, keyed_eq]
  rfl

theorem change_keyed {f : PackageTree → PackageTree} {fk : KeyedTree → KeyedTree} {key : String}
    {ts : List PackageTree} {c : PackageTree} (hc : ts.find? (·.name == key) = some c)
    (hf : fk c.keyed = (f c).keyed) (hname : (f c).name = c.name) :
    Dictionary.change key fk (Dictionary.under name keyed ts)
      = Dictionary.under name keyed (replaceChild key f ts) := by
  unfold Dictionary.under
  induction ts with
  | nil => rfl
  | cons t rest ih =>
    rw [List.map_cons, Dictionary.change, replaceChild]
    by_cases ht : t.name = key
    · have hsame : t = c := by simpa [ht] using hc
      rw [if_pos ht, if_pos ht, List.map_cons, hsame, hf, hname]
    · rw [if_neg ht, if_neg ht, List.map_cons, ih (by simpa [ht] using hc)]

theorem modifyAt_keyed {f : PackageTree → PackageTree} {fk : KeyedTree → KeyedTree} {t u : PackageTree}
    {place : List String} (hu : t.descend? place = some u) (hf : fk u.keyed = (f u).keyed)
    (hname : (f u).name = u.name) : t.keyed.modifyAt fk place = (t.modifyAt f place).keyed := by
  induction place generalizing t with
  | nil =>
    cases hu
    exact hf
  | cons key rest ih =>
    obtain ⟨c, hc, hbelow⟩ := descend?_cons_eq_some_iff.mp hu
    have hkept : (c.modifyAt f rest).name = c.name := by
      cases rest with
      | nil =>
        cases hbelow
        exact hname
      | cons next rest => rfl
    rw [KeyedTree.modifyAt, modifyAt, keyed_eq (.node _ _), value_keyed, children_keyed]
    exact congrArg (KeyedTree.node t.value) (change_keyed hc (ih hbelow) hkept)

section

variable {key : String} {child : Except Fault Package}

theorem addAt_keyed (hname : ∀ p, child = .ok p → p.name = key) (t : PackageTree) (place : List String) :
    t.keyed.addAt place key child = (t.addAt place key child).map keyed := by
  unfold KeyedTree.addAt addAt
  rw [reach_keyed]
  cases hreach : t.reach "_add_child" place with
  | error fault => rfl
  | ok parent =>
    have hhas : parent.keyed.children.has key = (parent.child? key).isSome := by
      rw [children_keyed]
      exact Dictionary.has_under name keyed parent.children key
    simp only [Except.map, Proofs.ok_bind, hhas]
    cases hchild : parent.child? key with
    | some found => rfl
    | none =>
      cases child with
      | error fault => rfl
      | ok p =>
        obtain rfl := hname p rfl
        exact congrArg Except.ok (modifyAt_keyed (descend?_of_reach hreach) (put_keyed hchild) rfl)

/-- The child that was added is the one that is found. -/
theorem getAt_of_addAt (hname : ∀ p, child = .ok p → p.name = key) {t t' : PackageTree} {place : List String}
    (h : t.addAt place key child = .ok t') : ∃ p, child = .ok p ∧ t'.getAt place key = .ok (some (leaf p)) := by
  obtain ⟨parent, hreach, hadded⟩ := Proofs.bind_eq_ok h
  split at hadded
  · cases hadded
  · rename_i hnew
    obtain ⟨p, hp, hmade⟩ := Proofs.bind_eq_ok hadded
    injection hmade with hmade
    obtain rfl := hname p hp
    have hplace : t'.descend? place = some (parent.push p) := by
      have hpush : ∀ u : PackageTree, (u.push p).name = u.name := fun _ => rfl
      rw [← hmade, descend?_modifyAt hpush, descend?_of_reach hreach]
      rfl
    have hfound : (parent.push p).child? p.name = some (leaf p) := by
      have hchild := child?_ensureChild parent p p.name
      rwa [ensureChild, if_neg hnew, if_pos rfl, Option.not_isSome_iff_eq_none.mp hnew] at hchild
    refine ⟨p, hp, ?_⟩
    unfold getAt
    rw [reach_of_descend? hplace, Proofs.ok_bind, hfound]
    rfl

/-- **Asking for a child under a key finds what asking for its name finds,** and adds the same where it is
missing. -/
theorem createAt_keyed (hname : ∀ p, child = .ok p → p.name = key) (t : PackageTree) (place : List String) :
    t.keyed.createAt place key child
      = (t.createAt place key child).map fun made => (made.1.keyed, made.2.map keyed) := by
  unfold KeyedTree.createAt createAt
  rw [reach_keyed]
  cases hreach : t.reach "create_child" place with
  | error fault => rfl
  | ok parent =>
    simp only [Except.map, Proofs.ok_bind, child?_keyed]
    cases hchild : parent.child? key with
    | some found => rfl
    | none =>
      simp only [Option.map_none]
      rw [addAt_keyed hname]
      cases hadd : t.addAt place key child with
      | error fault => rfl
      | ok t' =>
        -- the child is asked for again, and this time it is there
        obtain ⟨p, rfl, hget⟩ := getAt_of_addAt hname hadd
        simp only [Except.map, Proofs.ok_bind, getAt_keyed, hget]
        rfl

end

theorem createAlong_keyed (t : PackageTree) (place path : List String) :
    t.keyed.createAlong place path = (t.createAlong place path).map keyed := by
  induction path generalizing t place with
  | nil => rfl
  | cons key rest ih =>
    rw [KeyedTree.createAlong, createAlong, createAt_keyed fun p hp => by cases hp; rfl]
    cases t.createAt place key (.ok ⟨key, some (kindAt rest.isEmpty key)⟩) with
    | error fault => rfl
    | ok made => exact ih made.1 (place ++ [key])

theorem foldlM_keyed {β : Type} {step : PackageTree → β → Except Fault PackageTree}
    {stepKeyed : KeyedTree → β → Except Fault KeyedTree} (h : ∀ t b, stepKeyed t.keyed b = (step t b).map keyed)
    (l : List β) (t : PackageTree) : l.foldlM stepKeyed t.keyed = (l.foldlM step t).map keyed := by
  induction l generalizing t with
  | nil => rfl
  | cons b rest ih =>
    rw [List.foldlM_cons, List.foldlM_cons, h]
    cases step t b with
    | error fault => rfl
    | ok t' => exact ih t'

/-- **Building by keys builds what building by names does.** -/
theorem createAll_keyed (cwd base : String) (paths : List String) (t : PackageTree) :
    t.keyed.createAll cwd base paths = (t.createAll cwd base paths).map keyed := by
  refine foldlM_keyed ?_ paths t
  intro t path
  exact createAlong_keyed t [] (partsBelow cwd base path)

end PackageTree

/-- In every package of the tree the keys of the children are their names, each of them once. -/
inductive KeyedTree.Named : KeyedTree → Prop
  | node {value : Package} {children : Dictionary KeyedTree}
      (names : ∀ entry ∈ children, entry.1 = entry.2.value.name) (keys : (children.map (·.1)).Nodup)
      (below : ∀ entry ∈ children, Named entry.2) : Named (.node value children)

namespace PackageTree

theorem named_keyed {t : PackageTree} (h : Distinct t) : t.keyed.Named := by
  induction h with
  | @node value children names below ih =>
    rw [keyed_eq]
    refine .node ?_ ?_ ?_
    · intro entry hentry
      obtain ⟨c, -, rfl⟩ := List.mem_map.mp hentry
      exact (congrArg Package.name (value_keyed c)).symm
    · unfold Dictionary.under
      rw [List.map_map]
      exact names
    · intro entry hentry
      obtain ⟨c, hc, rfl⟩ := List.mem_map.mp hentry
      exact ih c hc

/-- **In every tree that was built the keys are the names,** and it is the tree that is built without keys. -/
theorem child_keys_are_names (name : String) (buildings : List Building) :
    ∃ t, buildings.foldlM (fun t b => b.run t) (root name) = .ok t
      ∧ buildings.foldlM (fun k b => k.createAll b.cwd b.base b.paths) (KeyedTree.leaf ⟨name, some packageWord⟩)
        = .ok t.keyed
      ∧ t.keyed.Named := by
  obtain ⟨t, hbuilt, hdistinct⟩ := exists_distinct_of_runs buildings (distinct_leaf ⟨name, some packageWord⟩)
  refine ⟨t, hbuilt, ?_, named_keyed hdistinct⟩
  have hkeyed : buildings.foldlM (fun k b => k.createAll b.cwd b.base b.paths) (root name).keyed
      = (buildings.foldlM (fun t (b : Building) => b.run t) (root name)).map keyed :=
    foldlM_keyed (fun t b => createAll_keyed b.cwd b.base b.paths t) buildings (root name)
  exact hkeyed.trans (congrArg (Except.map keyed) hbuilt)

end PackageTree

end ClassAtlas
