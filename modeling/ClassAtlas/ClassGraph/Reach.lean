import ClassAtlas.ClassGraph.Basic

/-!
# Reachability, cycles and orders

What can be reached along relations, forwards and backwards; whether a cycle can be reached; and an
order in which every relation points forwards. All walks go as deep as they can before they come back,
and keep a list of the names not yet seen, which shrinks whenever a name is entered for the first time.
-/

namespace ClassAtlas.ClassGraph

/-! ## Walks -/

/-- The names that stay unseen when one of them is entered. -/
def without (unseen : List String) (name : String) : List String :=
  unseen.filter (· ≠ name)

theorem mem_without {unseen : List String} {name other : String} :
    other ∈ without unseen name ↔ other ∈ unseen ∧ other ≠ name := by
  unfold without
  rw [List.mem_filter, decide_eq_true_eq]

theorem length_without_lt {unseen : List String} {name : String} (h : name ∈ unseen) :
    (without unseen name).length < unseen.length :=
  List.length_filter_lt_length_iff_exists.mpr ⟨name, h, by simp⟩

/-- Notes all names that a walk along `next` comes to. A name is noted before it is asked whether it was
seen; the walk goes on from it only if it was not. -/
def closure (next : String → List String) (unseen todo found : List String) : List String :=
  match todo with
  | [] => found
  | a :: rest =>
    if a ∈ unseen then closure next (without unseen a) (next a ++ rest) (insertName a found)
    else closure next unseen rest (insertName a found)
termination_by (unseen.length, todo.length)
decreasing_by
  · rename_i h
    exact Prod.Lex.left _ _ (length_without_lt h)
  · exact Prod.Lex.right _ (by simp)

/-- One step of a walk that comes back: entering a name, or leaving it after all that follows. -/
inductive Step where
  | enter (name : String)
  | leave (name : String)

/-- Walks along `next` until it comes to a name that it is inside of. The names that were entered and not
yet left are on the stack. -/
def findsCycle (next : String → List String) (unseen : List String) (todo : List Step)
    (stack : List String) : Bool :=
  match todo with
  | [] => false
  | .leave a :: rest => findsCycle next unseen rest (stack.erase a)
  | .enter a :: rest =>
    if a ∈ unseen then
      findsCycle next (without unseen a) ((next a).map .enter ++ .leave a :: rest) (a :: stack)
    else if a ∈ stack then true
    else findsCycle next unseen rest stack
termination_by (unseen.length, todo.length)
decreasing_by
  · exact Prod.Lex.right _ (by simp)
  · rename_i h
    exact Prod.Lex.left _ _ (length_without_lt h)
  · exact Prod.Lex.right _ (by simp)

/-- Walks along `next` and lists the names in the order opposite to that in which they are left. -/
def leavingOrder (next : String → List String) (unseen : List String) (todo : List Step)
    (order : List String) : List String :=
  match todo with
  | [] => order
  | .leave a :: rest => leavingOrder next unseen rest (a :: order)
  | .enter a :: rest =>
    if a ∈ unseen then
      leavingOrder next (without unseen a) ((next a).map .enter ++ .leave a :: rest) order
    else leavingOrder next unseen rest order
termination_by (unseen.length, todo.length)
decreasing_by
  · exact Prod.Lex.right _ (by simp)
  · rename_i h
    exact Prod.Lex.left _ _ (length_without_lt h)
  · exact Prod.Lex.right _ (by simp)

/-! ## Descendants and ancestors -/

/-- The names at the ends of relations, each once. -/
def endpoints (g : ClassGraph) : List String :=
  (g.relations.flatMap fun r => [r.source, r.target]).eraseDups

/-- The names that the relations from a name lead to. -/
def targets (g : ClassGraph) (name : String) : List String :=
  (g.outgoing name).map (·.target)

/-- The names that the relations to a name come from. -/
def sources (g : ClassGraph) (name : String) : List String :=
  (g.incoming name).map (·.source)

/-- All that a walk from a name comes to after one or more steps along `next`, sorted. The name itself is
seen from the start. -/
def reachedFrom (g : ClassGraph) (next : String → List String) (name : String) : List String :=
  closure next (without g.endpoints name) (next name) []

/-- All that can be reached by one or more relations. -/
def descendants (g : ClassGraph) (name : String) : List String :=
  g.reachedFrom g.targets name

/-- All from which the name can be reached by one or more relations. -/
def ancestors (g : ClassGraph) (name : String) : List String :=
  g.reachedFrom g.sources name

/-! ## Cycles and orders -/

/-- All names that the walks from the classes may meet, each once. -/
def vertices (g : ClassGraph) : List String :=
  (g.names ++ g.endpoints).eraseDups

/-- Can a cycle be reached from a class? -/
def hasCycle (g : ClassGraph) : Bool :=
  findsCycle g.targets g.vertices (g.names.map .enter) []

/-- An order of the reachable names in which relations point forwards; none if there is a cycle. -/
def topologicalOrder (g : ClassGraph) : Option (List String) :=
  if g.hasCycle then none
  else some (leavingOrder g.targets g.vertices (g.names.map .enter) [])

end ClassAtlas.ClassGraph
