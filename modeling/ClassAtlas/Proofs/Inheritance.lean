import ClassAtlas.Proofs.Attempts

/-!
# Inheritance

A class is related to its bases when it is entered, before it is there itself, so in the first pass these
relations are mostly refused; the second pass finds all of them. Nothing else makes an inheritance: what
the members of a class state is a composition, or a dependency for the parameters of `__init__`.

`inheritance_iff_base` is the outcome. A class inherits from another iff a visible definition of its name
lists the other's name among its bases and the other is there.
-/

namespace ClassAtlas.Proofs

open ClassAtlas Analysis Outline Source

/-! ## Bases -/

/-- The step that states an inheritance. -/
def inherits (child base : String) : Step :=
  .relate ⟨child, base, .inheritance⟩

theorem inherits_mem_enterSteps {node : ClassNode} {bases : List String} {child base : String} :
    inherits child base ∈ enterSteps node bases ↔ node.name = child ∧ base ∈ bases := by
  unfold inherits enterSteps
  rw [List.mem_append, List.mem_map, List.mem_singleton]
  constructor
  · rintro (⟨b, hb, he⟩ | he)
    · injection he with he
      injection he with hchild hbase _
      exact ⟨hchild, hbase ▸ hb⟩
    · exact absurd he (by simp)
  · rintro ⟨rfl, hb⟩
    exact Or.inl ⟨base, hb, rfl⟩

/-- Inside of its body, a class states relations of other kinds only. -/
theorem inherits_not_inside {name child base : String} {kinds : List RelationKind} {asked : Nat → Prop}
    (hkinds : RelationKind.inheritance ∉ kinds) : ¬ (inherits child base).Inside name kinds asked :=
  fun h => hkinds h.kind_mem

theorem inherits_not_mem_memberTrace {current : Option String} {steps : String → List Step}
    {child base : String} (h : ∀ name, inherits child base ∉ steps name) :
    inherits child base ∉ (memberTrace current steps).steps := by
  intro hs
  cases current with
  | none => exact absurd hs (by simp [memberTrace])
  | some name => exact h name hs

mutual

/-- **A visit without a fault states the inheritances of the visible classes, and no others.** -/
theorem inherits_mem_trace (config : Document) {child base : String} :
    ∀ (o : Outline) (current : Option String), (trace config o current).fault = none →
      (inherits child base ∈ (trace config o current).steps ↔
        ∃ c ∈ visibleOutline (leavesOut config) o, c.name = child ∧ base ∈ c.bases)
  | .classDef name decorators bases calls body, current, hfault => by
      rw [trace] at hfault ⊢
      rw [visibleOutline]
      match hopen : opening config name decorators bases with
      | .error fault => rw [hopen] at hfault; exact absurd hfault (by simp [classTrace])
      | .ok none =>
        rw [leavesOut_of_opening hopen]
        simp [classTrace]
      | .ok (some node) =>
        rw [hopen] at hfault
        rw [leavesOut_of_opening hopen]
        have hbody : inherits child base ∈ (traceAll config body (some node.name)).steps ↔ _ :=
          inherits_mem_traceAll config body (some node.name) hfault
        show inherits child base ∈ enterSteps node bases ++ _ ↔
          ∃ c ∈ (⟨name, decorators, bases, body⟩ :: _ : List ClassOutline), _
        rw [List.mem_append, inherits_mem_enterSteps, opening_name hopen, List.exists_mem_cons_iff,
          ← opening_name hopen, hbody]
  | .function name types calls body, current, _ => by
      refine iff_of_false (inherits_not_mem_memberTrace fun owner hs => ?_) (by simp [visibleOutline])
      rcases List.mem_cons.mp hs with he | hs
      · exact absurd he (by simp [inherits])
      · have hinside := @inside_functionSteps owner (fun _ => True) name types calls body fun _ _ => trivial
        exact inherits_not_inside (by simp) (hinside _ hs)
  | .assign targets value calls, current, _ => by
      refine iff_of_false (inherits_not_mem_memberTrace fun owner hs => ?_) (by simp [visibleOutline])
      have hinside : (inherits child base).Inside owner [] fun _ => True :=
        inside_assignSteps (fun _ _ => trivial) hs
      exact inherits_not_inside List.not_mem_nil hinside
  | .annAssign target types calls, current, _ => by
      refine iff_of_false (inherits_not_mem_memberTrace fun owner hs => ?_) (by simp [visibleOutline])
      have hinside : (inherits child base).Inside owner [.composition] fun _ => True := inside_annotateSteps hs
      exact inherits_not_inside (by simp) hinside
  | .other calls body, current, hfault => inherits_mem_traceAll config body current hfault

theorem inherits_mem_traceAll (config : Document) {child base : String} :
    ∀ (outlines : List Outline) (current : Option String),
      (traceAll config outlines current).fault = none →
      (inherits child base ∈ (traceAll config outlines current).steps ↔
        ∃ c ∈ visibleOutlines (leavesOut config) outlines, c.name = child ∧ base ∈ c.bases)
  | [], current, _ => by simp [traceAll, visibleOutlines]
  | o :: rest, current, hfault => by
      have hfirst := sound_of_traceAll_cons hfault
      rw [traceAll, Trace.andThen_of_done hfirst] at hfault ⊢
      rw [visibleOutlines, List.mem_append, inherits_mem_trace config o current hfirst,
        inherits_mem_traceAll config rest _ hfault]
      simp only [List.mem_append, or_and_right, exists_or]

end

/-- A plain name among expressions. -/
theorem mem_filterMap_nameOf? {name : String} {es : List Expr} :
    name ∈ es.filterMap nameOf? ↔ Expr.name name ∈ es := by
  rw [List.mem_filterMap]
  constructor
  · rintro ⟨e, he, hname⟩
    cases e with
    | name id => exact Option.some.inj hname ▸ he
    | _ => exact absurd hname (by simp [nameOf?])
  · intro he
    exact ⟨_, he, rfl⟩

/-- A statement states the inheritances of its visible definitions. -/
theorem inherits_mem_stmtSteps {config : Document} {s : Stmt} (h : Sound config s) {child base : String} :
    inherits child base ∈ stmtSteps config s ↔
      ∃ d ∈ visible (leavesOut config) s, d.name = child ∧ Expr.name base ∈ d.bases := by
  have hof := visibleOutline_of (leavesOut config) s 0
  rw [stmtSteps, topSteps, inherits_mem_trace config (outlineOf s) none h]
  constructor
  · rintro ⟨c, hc, hname, hbase⟩
    obtain ⟨d, hd, n, rfl⟩ := exists_of_mem_forall₂ hof hc
    exact ⟨d, hd, hname, mem_filterMap_nameOf?.mp hbase⟩
  · rintro ⟨d, hd, hname, hbase⟩
    obtain ⟨c, hc, n, rfl⟩ := exists_of_mem_forall₂ hof.flip hd
    exact ⟨_, hc, hname, mem_filterMap_nameOf?.mpr hbase⟩

/-- A statement attempts an inheritance only by stating it. -/
theorem attempts_inheritance_iff {config : Document} {s : Stmt} {child base : String} :
    Attempts (stmtSteps config s) ⟨child, base, .inheritance⟩
      ↔ inherits child base ∈ stmtSteps config s := by
  refine ⟨fun h => ?_, Or.inl⟩
  rcases h with hstated | ⟨call, hasked, -⟩
  · exact hstated
  · obtain ⟨_, _, hby, -⟩ := by_stmtSteps hasked (by simp)
    exact absurd hby.2.1 (by simp)

/--
**A class inherits from another iff it lists it among its bases and the other is there.**

Let no visit end in a fault. Then, after two passes, there is an inheritance from one name to another iff
some visible definition of the first name, wherever it stands and whether or not it is the last one of
that name, has the second as a plain name among its bases, and there is a class of the second name.
-/
theorem inheritance_iff_base (config : Document) (modules : List (List Stmt))
    (hran : (twoPasses config modules).2 = none) (child base : String) :
    ⟨child, base, .inheritance⟩ ∈ (twoPasses config modules).1.graph.relations ↔
      (∃ d ∈ visibleAll (leavesOut config) modules.flatten, d.name = child ∧ Expr.name base ∈ d.bases)
        ∧ base ∈ (twoPasses config modules).1.graph.names := by
  have hsound := (twoPasses_sound_iff config modules).mp hran
  rw [mem_relations_iff_attempts hsound (by simp), and_comm]
  refine and_congr_left fun _ => ?_
  constructor
  · rintro ⟨s, hs, hattempts⟩
    obtain ⟨d, hd, hnames⟩ :=
      (inherits_mem_stmtSteps (hsound s hs)).mp (attempts_inheritance_iff.mp hattempts)
    exact ⟨d, mem_visibleAll.mpr ⟨s, hs, hd⟩, hnames⟩
  · rintro ⟨d, hd, hnames⟩
    obtain ⟨s, hs, hd⟩ := mem_visibleAll.mp hd
    exact ⟨s, hs, attempts_inheritance_iff.mpr
      ((inherits_mem_stmtSteps (hsound s hs)).mpr ⟨d, hd, hnames⟩)⟩

/-- A class that stands before its base and has an exception as another, with a class inside that is
derived from it. -/
def earlyLeaf : ClassDefinition :=
  ⟨"Leaf", [.name "Root", .name "OwnError"], [], [.classDef "Inner" [.name "Leaf"] [] [.pass] []], []⟩

/-- A later class of the same name; one of its bases is no plain name. -/
def laterLeaf : ClassDefinition :=
  ⟨"Leaf", [.member (.name "base") "Root", .name "Inner"], [], [.pass], []⟩

/-- Both, an exception that is left out, and the base. -/
def scatteredFamily : List (List Stmt) :=
  [[earlyLeaf.stmt],
    [.classDef "OwnError" [.name "Root"] [] [.classDef "Detail" [.name "Root"] [] [.pass] []] [],
      .classDef "Root" [] [] [.pass] [], laterLeaf.stmt]]

theorem scatteredFamily_inheritance :
    (twoPasses errorsLeftOut scatteredFamily).2 = none
      ∧ ⟨"Leaf", "Root", .inheritance⟩ ∈ (twoPasses errorsLeftOut scatteredFamily).1.graph.relations
      ∧ ⟨"Leaf", "Inner", .inheritance⟩ ∈ (twoPasses errorsLeftOut scatteredFamily).1.graph.relations
      ∧ ⟨"Leaf", "OwnError", .inheritance⟩ ∉ (twoPasses errorsLeftOut scatteredFamily).1.graph.relations := by
  have hran : (twoPasses errorsLeftOut scatteredFamily).2 = none := by decide +kernel
  have hiff := inheritance_iff_base errorsLeftOut scatteredFamily hran "Leaf"
  have hvisible : visibleAll (leavesOut errorsLeftOut) scatteredFamily.flatten
      = [earlyLeaf, ⟨"Inner", [.name "Leaf"], [], [.pass], []⟩, ⟨"Root", [], [], [.pass], []⟩,
        laterLeaf] := by rfl
  have hnames : (twoPasses errorsLeftOut scatteredFamily).1.graph.names = ["Leaf", "Inner", "Root"] := by
    decide +kernel
  rw [hvisible, hnames] at hiff
  refine ⟨hran, (hiff "Root").mpr ⟨⟨earlyLeaf, by simp, rfl, by simp [earlyLeaf]⟩, by simp⟩,
    (hiff "Inner").mpr ⟨⟨laterLeaf, by simp, rfl, by simp [laterLeaf]⟩, by simp⟩, fun h => ?_⟩
  exact absurd ((hiff "OwnError").mp h).2 (by simp)

end ClassAtlas.Proofs
