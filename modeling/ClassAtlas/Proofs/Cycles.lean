import ClassAtlas.Proofs.Reachability

/-!
# Cycles are found

A walk that comes back enters names and leaves them again. A name is *done* when it was seen and need not
be left any more. The invariant of such walks is `Orderly`:

* what is still to be left encloses what comes before it, so that there is a path to all of it;
* what leads on from a name is done, or comes up before the name is left;
* what leads on from a name that is done is done.

Each of the three kinds of steps keeps it. A walk that comes to a name which it is inside of has therefore
found a cycle. If it never does, the names that are done grow one by one, and a name that becomes done leads
only to names that were done before it, so that no cycle goes through it.
-/

namespace ClassAtlas.ClassGraph

/-! ## Steps -/

/-- The name that a step enters or leaves. -/
def Step.name : Step → String
  | .enter a => a
  | .leave a => a

/-- The names that are still to be left, the innermost first. -/
def opened : List Step → List String
  | [] => []
  | .enter _ :: rest => opened rest
  | .leave a :: rest => a :: opened rest

theorem mem_opened_iff {todo : List Step} {a : String} : a ∈ opened todo ↔ .leave a ∈ todo := by
  induction todo with
  | nil => simp [opened]
  | cons s rest ih =>
    cases s with
    | enter b => simp [opened, ih]
    | leave b => simp [opened, ih]

theorem opened_enters (names : List String) (todo : List Step) :
    opened (names.map .enter ++ todo) = opened todo := by
  induction names with
  | nil => rfl
  | cons a rest ih => exact ih

theorem leave_not_mem_enters {names : List String} {a : String} : Step.leave a ∉ names.map Step.enter := by
  intro h
  obtain ⟨b, -, hb⟩ := List.mem_map.mp h
  exact absurd hb (by simp)

/-- The name was seen, and is not to be left any more. -/
def Done (unseen : List String) (todo : List Step) (a : String) : Prop :=
  a ∉ unseen ∧ .leave a ∉ todo

/-- The name can be reached from one of the roots. -/
def Reached (next : String → List String) (roots : List String) (a : String) : Prop :=
  ∃ root ∈ roots, Relation.ReflTransGen (Along next) root a

theorem Reached.step {next : String → List String} {roots : List String} {a b : String}
    (h : Reached next roots a) (hb : b ∈ next a) : Reached next roots b := by
  obtain ⟨root, hroot, hpath⟩ := h
  exact ⟨root, hroot, hpath.tail hb⟩

/-- A step in front of one that leaves a name is another one, and a path leads to it from that name. -/
def Step.Inside (next : String → List String) (s t : Step) : Prop :=
  ∀ a, t = .leave a → s ≠ .leave a ∧ Relation.TransGen (Along next) a s.name

/-- Steps that only enter names are inside of nothing among them. -/
theorem pairwise_enters (next : String → List String) (names : List String) :
    (names.map Step.enter).Pairwise (Step.Inside next) := by
  refine List.pairwise_map.mpr (List.pairwise_of_forall_mem_list ?_)
  intro a _ b _ c hc
  exact absurd hc (by simp)

/-- Starting with names that are dealt with, what leads on from a name is dealt with before the name is left,
and all roots are in the end. A step deals with its name. -/
def Provided (next : String → List String) (roots : List String) : List Step → (String → Prop) → Prop
  | [], dealt => ∀ root ∈ roots, dealt root
  | .enter a :: rest, dealt => Provided next roots rest fun x => dealt x ∨ x = a
  | .leave a :: rest, dealt => (∀ b ∈ next a, dealt b) ∧ Provided next roots rest fun x => dealt x ∨ x = a

section

variable {next : String → List String} {roots : List String}

theorem Provided.mono {todo : List Step} {dealt more : String → Prop} (hmore : ∀ x, dealt x → more x)
    (h : Provided next roots todo dealt) : Provided next roots todo more := by
  induction todo generalizing dealt more with
  | nil => exact fun root hroot => hmore root (h root hroot)
  | cons s rest ih =>
    have hname : ∀ a x, dealt x ∨ x = a → more x ∨ x = a := fun a x hx => hx.imp_left (hmore x)
    cases s with
    | enter a => exact ih (hname a) h
    | leave a => exact ⟨fun b hb => hmore b (h.1 b hb), ih (hname a) h.2⟩

/-- Names that are entered next may be counted as dealt with. -/
theorem provided_enters {names : List String} {todo : List Step} {dealt : String → Prop}
    (h : Provided next roots todo fun x => dealt x ∨ x ∈ names) :
    Provided next roots (names.map .enter ++ todo) dealt := by
  induction names generalizing dealt with
  | nil => exact h.mono fun x hx => hx.resolve_right List.not_mem_nil
  | cons a rest ih =>
    have hrest : Provided next roots todo fun x => (dealt x ∨ x = a) ∨ x ∈ rest := by
      refine h.mono fun x hx => ?_
      rw [List.mem_cons] at hx
      exact or_assoc.mpr hx
    exact ih hrest

end

/-! ## Orderly walks -/

/-- The invariant of walks that come back. -/
structure Orderly (next : String → List String) (roots unseen : List String) (todo : List Step) : Prop where
  /-- What is to be left was seen. -/
  entered : ∀ a, .leave a ∈ todo → a ∉ unseen
  /-- All that is to do can be reached from the roots. -/
  reached : ∀ s ∈ todo, Reached next roots s.name
  /-- What is to be left encloses what comes before it. -/
  nested : todo.Pairwise (Step.Inside next)
  /-- What leads on from a name is done, or comes up before the name is left. -/
  provided : Provided next roots todo (Done unseen todo)
  /-- What leads on from a name that is done is done. -/
  closed : ∀ a, Done unseen todo a → ∀ b ∈ next a, Done unseen todo b

section

variable {next : String → List String} {roots unseen : List String} {rest : List Step} {a x : String}

theorem done_of_enter (h : Done unseen (.enter a :: rest) x) : Done unseen rest x :=
  ⟨h.1, fun hx => h.2 (List.mem_cons_of_mem _ hx)⟩

theorem done_enter_of_done (h : Done unseen rest x) : Done unseen (.enter a :: rest) x := by
  refine ⟨h.1, fun hx => ?_⟩
  rcases List.mem_cons.mp hx with he | hx
  · exact absurd he (by simp)
  · exact h.2 hx

/-- Entering a name for the first time makes none done, and undoes none. -/
theorem done_entered_iff (ha : a ∈ unseen) :
    Done (without unseen a) ((next a).map .enter ++ .leave a :: rest) x
      ↔ Done unseen (.enter a :: rest) x := by
  constructor
  · intro ⟨hseen, hleave⟩
    have hxa : x ≠ a := by
      intro he
      exact hleave (List.mem_append_right _ (he ▸ List.mem_cons_self))
    refine done_enter_of_done ⟨fun hx => hseen (mem_without.mpr ⟨hx, hxa⟩), fun hx => ?_⟩
    exact hleave (List.mem_append_right _ (List.mem_cons_of_mem _ hx))
  · intro h
    have hxa : x ≠ a := fun he => h.1 (he ▸ ha)
    refine ⟨fun hx => h.1 (mem_without.mp hx).1, fun hx => ?_⟩
    rcases List.mem_append.mp hx with hx | hx
    · exact leave_not_mem_enters hx
    · rcases List.mem_cons.mp hx with he | hx
      · exact hxa (Step.leave.inj he)
      · exact h.2 (List.mem_cons_of_mem _ hx)

/-- A name that is to be left next is not to be left again. -/
theorem Orderly.leave_not_mem (h : Orderly next roots unseen (.leave a :: rest)) : .leave a ∉ rest := by
  intro hrest
  have hinside := (List.pairwise_cons.mp h.nested).1 (.leave a) hrest
  exact (hinside a rfl).1 rfl

/-- A name that is left is done, and nothing else becomes done. -/
theorem Orderly.done_left_iff (h : Orderly next roots unseen (.leave a :: rest)) :
    Done unseen rest x ↔ Done unseen (.leave a :: rest) x ∨ x = a := by
  constructor
  · intro hx
    by_cases hxa : x = a
    · exact Or.inr hxa
    · refine Or.inl ⟨hx.1, fun hmem => ?_⟩
      rcases List.mem_cons.mp hmem with he | hmem
      · exact hxa (Step.leave.inj he)
      · exact hx.2 hmem
  · intro hx
    rcases hx with hx | hxa
    · exact ⟨hx.1, fun hmem => hx.2 (List.mem_cons_of_mem _ hmem)⟩
    · rw [hxa]
      exact ⟨h.entered a List.mem_cons_self, h.leave_not_mem⟩

/-- What leads on from a name that is to be left next is done. -/
theorem Orderly.next_done (h : Orderly next roots unseen (.leave a :: rest)) :
    ∀ b ∈ next a, Done unseen (.leave a :: rest) b :=
  h.provided.1

/-- A name that the walk is inside of and comes to again lies on a cycle. -/
theorem Orderly.cycle (h : Orderly next roots unseen (.enter a :: rest)) (hinside : .leave a ∈ rest) :
    Relation.TransGen (Along next) a a :=
  ((List.pairwise_cons.mp h.nested).1 (.leave a) hinside a rfl).2

/-! ## What a step preserves -/

/-- **Leaving a name keeps the invariant.** -/
theorem Orderly.leave (h : Orderly next roots unseen (.leave a :: rest)) :
    Orderly next roots unseen rest where
  entered := fun b hb => h.entered b (List.mem_cons_of_mem _ hb)
  reached := fun s hs => h.reached s (List.mem_cons_of_mem _ hs)
  nested := (List.pairwise_cons.mp h.nested).2
  provided := h.provided.2.mono fun _ hx => h.done_left_iff.mpr hx
  closed := by
    intro x hx b hb
    have hold : Done unseen (.leave a :: rest) b := by
      rcases h.done_left_iff.mp hx with hx | hxa
      · exact h.closed x hx b hb
      · rw [hxa] at hb
        exact h.next_done b hb
    exact h.done_left_iff.mpr (Or.inl hold)

/-- **Passing by a name that is done keeps the invariant.** -/
theorem Orderly.skip (h : Orderly next roots unseen (.enter a :: rest)) (ha : a ∉ unseen)
    (hleft : .leave a ∉ rest) : Orderly next roots unseen rest where
  entered := fun b hb => h.entered b (List.mem_cons_of_mem _ hb)
  reached := fun s hs => h.reached s (List.mem_cons_of_mem _ hs)
  nested := (List.pairwise_cons.mp h.nested).2
  provided := by
    have hrest : Provided next roots rest fun x => Done unseen (.enter a :: rest) x ∨ x = a := h.provided
    refine hrest.mono fun x hx => ?_
    rcases hx with hx | hxa
    · exact done_of_enter hx
    · rw [hxa]
      exact ⟨ha, hleft⟩
  closed := fun x hx b hb => done_of_enter (h.closed x (done_enter_of_done hx) b hb)

/-- **Entering a name for the first time keeps the invariant.** -/
theorem Orderly.enter (h : Orderly next roots unseen (.enter a :: rest)) (ha : a ∈ unseen) :
    Orderly next roots (without unseen a) ((next a).map .enter ++ .leave a :: rest) where
  entered := by
    intro b hb hmem
    obtain ⟨hunseen, hba⟩ := mem_without.mp hmem
    rcases List.mem_append.mp hb with hb | hb
    · exact leave_not_mem_enters hb
    · rcases List.mem_cons.mp hb with he | hb
      · exact hba (Step.leave.inj he)
      · exact h.entered b (List.mem_cons_of_mem _ hb) hunseen
  reached := by
    have hreached : Reached next roots a := h.reached (.enter a) List.mem_cons_self
    intro s hs
    rcases List.mem_append.mp hs with hs | hs
    · obtain ⟨b, hb, rfl⟩ := List.mem_map.mp hs
      exact hreached.step hb
    · rcases List.mem_cons.mp hs with rfl | hs
      · exact hreached
      · exact h.reached s (List.mem_cons_of_mem _ hs)
  nested := by
    obtain ⟨hfirst, hrest⟩ := List.pairwise_cons.mp h.nested
    -- whatever encloses `a` was entered before it, and leads to `a` and on to what follows
    have hleave : ∀ t ∈ rest, Step.Inside next (.leave a) t := by
      intro t ht c hc
      refine ⟨fun he => ?_, (hfirst t ht c hc).2⟩
      have hca : c = a := (Step.leave.inj he).symm
      exact h.entered a (List.mem_cons_of_mem _ (hca ▸ hc ▸ ht)) ha
    have henter : ∀ s ∈ (next a).map Step.enter, ∀ t ∈ Step.leave a :: rest, Step.Inside next s t := by
      intro s hs t ht c hc
      obtain ⟨b, hb, rfl⟩ := List.mem_map.mp hs
      refine ⟨by simp, ?_⟩
      rcases List.mem_cons.mp ht with rfl | ht
      · rw [← Step.leave.inj hc]
        exact Relation.TransGen.single hb
      · exact Relation.TransGen.tail (hfirst t ht c hc).2 hb
    exact List.pairwise_append.mpr
      ⟨pairwise_enters next (next a), List.pairwise_cons.mpr ⟨hleave, hrest⟩, henter⟩
  provided := by
    have hrest : Provided next roots rest fun x => Done unseen (.enter a :: rest) x ∨ x = a := h.provided
    refine provided_enters ⟨fun b hb => Or.inr hb, hrest.mono fun x hx => ?_⟩
    rcases hx with hx | hxa
    · exact Or.inl (Or.inl ((done_entered_iff ha).mpr hx))
    · exact Or.inr hxa
  closed := by
    intro x hx b hb
    exact (done_entered_iff ha).mpr (h.closed x ((done_entered_iff ha).mp hx) b hb)

/-- Paths from names that are done stay among them. -/
theorem Orderly.done_of_path {todo : List Step} (h : Orderly next roots unseen todo) {y : String}
    (hx : Done unseen todo x) (hpath : Relation.ReflTransGen (Along next) x y) : Done unseen todo y := by
  induction hpath with
  | refl => exact hx
  | tail _ hstep ih => exact h.closed _ ih _ hstep

/-- When nothing is left to do, all that can be reached is done. -/
theorem Orderly.done_of_reached (h : Orderly next roots unseen []) (hx : Reached next roots x) :
    Done unseen [] x := by
  obtain ⟨root, hroot, hpath⟩ := hx
  exact h.done_of_path (h.provided root hroot) hpath

/-! ## The search for a cycle -/

/-- No cycle goes through a name that is done. -/
def Clean (next : String → List String) (unseen : List String) (todo : List Step) : Prop :=
  ∀ a, Done unseen todo a → ¬ Relation.TransGen (Along next) a a

/-- **A name that becomes done lies on no cycle**: it leads only to names that were done before it. -/
theorem Orderly.clean_leave (h : Orderly next roots unseen (.leave a :: rest))
    (hclean : Clean next unseen (.leave a :: rest)) : Clean next unseen rest := by
  intro x hx hcycle
  rcases h.done_left_iff.mp hx with hx | hxa
  · exact hclean x hx hcycle
  · rw [hxa] at hcycle
    obtain ⟨b, hb, hback⟩ := Relation.TransGen.head'_iff.mp hcycle
    have hdone := h.done_of_path (h.next_done b hb) hback
    exact hdone.2 List.mem_cons_self

/-- **The search finds a cycle iff one can be reached from the roots.** -/
theorem Orderly.findsCycle_iff {todo : List Step} (h : Orderly next roots unseen todo)
    (hclean : Clean next unseen todo) :
    findsCycle next unseen todo (opened todo) = true
      ↔ ∃ x, Reached next roots x ∧ Relation.TransGen (Along next) x x := by
  generalize hstack : opened todo = stack
  induction unseen, todo, stack using findsCycle.induct next with
  | case1 unseen stack =>
    rw [findsCycle]
    refine ⟨fun hfalse => absurd hfalse (by simp), fun hcycle => ?_⟩
    obtain ⟨x, hx, hpath⟩ := hcycle
    exact absurd hpath (hclean x (h.done_of_reached hx))
  | case2 unseen stack a rest ih =>
    rw [findsCycle]
    refine ih h.leave (h.clean_leave hclean) ?_
    rw [← hstack, opened, List.erase_cons_head]
  | case3 unseen stack a rest hunseen ih =>
    rw [findsCycle, if_pos hunseen]
    refine ih (h.enter hunseen) (fun x hx => hclean x ((done_entered_iff hunseen).mp hx)) ?_
    rw [opened_enters, opened, ← hstack, opened]
  | case4 unseen stack a rest hseen hinside =>
    rw [findsCycle, if_neg hseen, if_pos hinside]
    rw [← hstack, opened, mem_opened_iff] at hinside
    exact ⟨fun _ => ⟨a, h.reached (.enter a) List.mem_cons_self, h.cycle hinside⟩, fun _ => rfl⟩
  | case5 unseen stack a rest hseen houtside ih =>
    rw [findsCycle, if_neg hseen, if_neg houtside]
    rw [← hstack, opened, mem_opened_iff] at houtside
    exact ih (h.skip hseen houtside) (fun x hx => hclean x (done_enter_of_done hx)) hstack

end

/-! ## Class graphs -/

theorem mem_vertices_iff {g : ClassGraph} {a : String} : a ∈ g.vertices ↔ a ∈ g.names ∨ a ∈ g.endpoints := by
  unfold vertices
  rw [List.mem_eraseDups, List.mem_append]

theorem targets_eq_nil_of_not_vertex {g : ClassGraph} {a : String} (h : a ∉ g.vertices) : g.targets a = [] :=
  targets_eq_nil fun hmem => h (mem_vertices_iff.mpr (Or.inr hmem))

/-- A walk from all classes is orderly at its start. -/
theorem orderly_start (g : ClassGraph) :
    Orderly g.targets g.names g.vertices (g.names.map .enter) where
  entered := fun a ha => absurd ha leave_not_mem_enters
  reached := by
    intro s hs
    obtain ⟨a, ha, rfl⟩ := List.mem_map.mp hs
    exact ⟨a, ha, Relation.ReflTransGen.refl⟩
  nested := pairwise_enters g.targets g.names
  provided := by
    rw [← List.append_nil (g.names.map Step.enter)]
    exact provided_enters fun root hroot => Or.inr hroot
  closed := by
    intro a ha b hb
    rw [targets_eq_nil_of_not_vertex ha.1] at hb
    exact absurd hb List.not_mem_nil

theorem clean_start (g : ClassGraph) : Clean g.targets g.vertices (g.names.map .enter) := by
  intro a ha hcycle
  obtain ⟨b, hb, -⟩ := Relation.TransGen.head'_iff.mp hcycle
  have hb : b ∈ g.targets a := hb
  rw [targets_eq_nil_of_not_vertex ha.1] at hb
  exact absurd hb List.not_mem_nil

/-- Some class leads to the name by any number of relations. -/
def Reachable (g : ClassGraph) (name : String) : Prop :=
  ∃ a ∈ g.names, Relation.ReflTransGen g.Arrow a name

theorem reached_iff_reachable {g : ClassGraph} {a : String} :
    Reached g.targets g.names a ↔ g.Reachable a := by
  unfold Reached Reachable
  rw [along_targets]

theorem hasCycle_iff {g : ClassGraph} : g.hasCycle = true ↔ ∃ v, g.Reachable v ∧ g.OnCycle v := by
  have hfound := (orderly_start g).findsCycle_iff (clean_start g)
  have hstack : opened (g.names.map Step.enter) = [] := by
    rw [← List.append_nil (g.names.map Step.enter), opened_enters, opened]
  rw [hstack] at hfound
  refine hfound.trans (exists_congr fun v => ?_)
  rw [reached_iff_reachable, along_targets]
  rfl

/-- Where the source of every relation is a class, every name on a cycle can be reached. -/
theorem reachable_of_onCycle {g : ClassGraph} (hends : ∀ r ∈ g.relations, g.Knows r) {v : String}
    (hv : g.OnCycle v) : g.Reachable v := by
  obtain ⟨b, ⟨r, hr, hsource, -⟩, -⟩ := Relation.TransGen.head'_iff.mp hv
  exact ⟨v, hsource ▸ (hends r hr).1, Relation.ReflTransGen.refl⟩

/--
**A graph has a cycle, in the eyes of the search, iff a name on a cycle can be reached from a class.**

If both classes of every relation are there, that is the case iff there is a cycle at all. The order of the
classes and that of the relations make no difference.
-/
theorem hasCycle_iff_cycle_reachable (g : ClassGraph) :
    (g.hasCycle = true ↔ ∃ a ∈ g.names, ∃ v, Relation.ReflTransGen g.Arrow a v ∧ g.OnCycle v)
      ∧ ((∀ r ∈ g.relations, g.Knows r) → (g.hasCycle = true ↔ ∃ v, g.OnCycle v))
      ∧ ∀ g' : ClassGraph, (∀ name, name ∈ g'.names ↔ name ∈ g.names) →
        (∀ r, r ∈ g'.relations ↔ r ∈ g.relations) → g'.hasCycle = g.hasCycle := by
  refine ⟨?_, ?_, ?_⟩
  · rw [hasCycle_iff]
    constructor
    · intro ⟨v, ⟨a, ha, hpath⟩, hcycle⟩
      exact ⟨a, ha, v, hpath, hcycle⟩
    · intro ⟨a, ha, v, hpath, hcycle⟩
      exact ⟨v, ⟨a, ha, hpath⟩, hcycle⟩
  · intro hends
    rw [hasCycle_iff]
    constructor
    · intro ⟨v, _, hcycle⟩
      exact ⟨v, hcycle⟩
    · intro ⟨v, hcycle⟩
      exact ⟨v, reachable_of_onCycle hends hcycle, hcycle⟩
  · intro g' hnames hrelations
    -- both searches are exact, and they look for the same
    have harrow : g'.Arrow = g.Arrow := by
      funext a b
      unfold Arrow
      simp only [hrelations]
    rw [Bool.eq_iff_iff, hasCycle_iff, hasCycle_iff]
    unfold Reachable OnCycle
    simp only [harrow, hnames]

/-- A graph in which one class leads to a cycle of two others. -/
def relay : ClassGraph where
  nodes := [{ name := "Start" }, { name := "Left" }, { name := "Right" }]
  relations := [⟨"Left", "Right", .composition⟩, ⟨"Right", "Left", .dependency⟩,
    ⟨"Start", "Left", .inheritance⟩]

/-- The same graph with its classes and its relations the other way round. -/
def relayBackwards : ClassGraph where
  nodes := relay.nodes.reverse
  relations := relay.relations.reverse

theorem relay_cycle_found :
    (∀ r ∈ relay.relations, relay.Knows r) ∧ relay.OnCycle "Left" ∧ relay.hasCycle = true
      ∧ relayBackwards.hasCycle = true ∧ { relay with nodes := [] }.hasCycle = false := by
  have hends : ∀ r ∈ relay.relations, relay.Knows r := by simp [relay, Knows, names]
  have hthere : relay.Arrow "Left" "Right" := ⟨⟨"Left", "Right", .composition⟩, by simp [relay], rfl, rfl⟩
  have hback : relay.Arrow "Right" "Left" := ⟨⟨"Right", "Left", .dependency⟩, by simp [relay], rfl, rfl⟩
  have hcycle : relay.OnCycle "Left" := (Relation.TransGen.single hthere).tail hback
  obtain ⟨-, hintact, hsame⟩ := hasCycle_iff_cycle_reachable relay
  have hfound : relay.hasCycle = true := (hintact hends).mpr ⟨"Left", hcycle⟩
  have hturned := hsame relayBackwards (by simp [relayBackwards, names]) (by simp [relayBackwards])
  refine ⟨hends, hcycle, hfound, hturned.trans hfound, ?_⟩
  -- without classes the cycle is still there, but nothing leads to it
  apply Bool.eq_false_iff.mpr
  intro hlost
  obtain ⟨a, ha, -⟩ := (hasCycle_iff_cycle_reachable { relay with nodes := [] }).1.mp hlost
  exact absurd ha List.not_mem_nil

end ClassAtlas.ClassGraph
