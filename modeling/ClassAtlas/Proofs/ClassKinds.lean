import ClassAtlas.Proofs.InnerClasses

/-!
# What kind a class is of

A definition decides the kind of its class by itself: a decorator comes before the name, and the name before
the bases, of which the first special one counts (`ClassDefinition.kind`). Everything that is visited later,
the body of the class included, adds to classes but leaves their kinds alone. The only way for a class to
become of another kind is that a visible definition of its name takes its place, wherever that stands, also
inside of the class itself.

So the kinds that arrive under a name are those of the visible definitions of the name, in order
(`givesKinds_traceAll`), and the last one of them stays (`foldl_touch_kind`).
-/

namespace ClassAtlas

/-- The kind of the class of this name. -/
def ClassGraph.kind? (g : ClassGraph) (name : String) : Option ClassKind :=
  (g.node? name).map (·.kind)

namespace Proofs

open ClassAtlas Analysis ClassGraph Outline Source Text

/-! ## Precedence -/

/-- The name matches the pattern for exceptions. -/
def namesException (config : Document) (name : String) : Bool :=
  match config.find? "exception.name" with
  | some (.text pattern) => Glob.accepts pattern name
  | _ => false

/-- The kind of a class that inherits from a special class. -/
def specialKind? (base : String) : Option ClassKind :=
  if base = "Enum" then some .enumeration else if base = "ABC" then some .abstract else none

/-- The kind that a definition gives its class. Only bases that are plain names count. -/
def ClassDefinition.kind (config : Document) (d : ClassDefinition) : ClassKind :=
  if some "dataclass" ∈ d.decorators.map Expr.text? then .dataclass
  else if namesException config d.name then .exception
  else (d.bases.findSome? fun base => (nameOf? base).bind specialKind?).getD .plain

/-- The kind that an outline gives its class. -/
def ClassOutline.kind (config : Document) (c : ClassOutline) : ClassKind :=
  if some "dataclass" ∈ c.decorators then .dataclass
  else if namesException config c.name then .exception
  else (c.bases.findSome? specialKind?).getD .plain

theorem kind_outline (config : Document) (d : ClassDefinition) : d.outline.kind config = d.kind config := by
  have hbases : (d.bases.filterMap nameOf?).findSome? specialKind?
      = d.bases.findSome? fun base => (nameOf? base).bind specialKind? := by
    rw [← List.head?_filterMap, List.filterMap_filterMap, List.head?_filterMap]
  unfold ClassOutline.kind ClassDefinition.kind
  simp only [ClassDefinition.outline, hbases]

/-- **Of the bases the first special one counts**, and only if nothing else decided before. -/
theorem foldl_kindFromBase (kind : ClassKind) (bases : List String) :
    bases.foldl kindFromBase kind
      = if kind = .plain then (bases.findSome? specialKind?).getD .plain else kind := by
  induction bases generalizing kind with
  | nil =>
    split
    · assumption
    · rfl
  | cons base rest ih =>
    rw [List.foldl_cons, ih, List.findSome?_cons]
    by_cases hkind : kind = .plain
    · rw [if_pos hkind]
      by_cases henum : base = "Enum"
      · simp [kindFromBase, specialKind?, hkind, henum]
      · by_cases habc : base = "ABC"
        · simp [kindFromBase, specialKind?, hkind, habc]
        · simp [kindFromBase, specialKind?, hkind, henum, habc]
    · simp [kindFromBase, hkind]

theorem eq_map_of_decoratorTexts {decorators : List (Option String)} {texts : List String}
    (h : decoratorTexts decorators = .ok texts) : decorators = texts.map some := by
  unfold decoratorTexts at h
  induction decorators generalizing texts with
  | nil => rw [← Except.ok.inj h]; rfl
  | cons t rest ih =>
    rw [List.mapM_cons] at h
    obtain ⟨text, htext, hrest⟩ := bind_eq_ok h
    obtain ⟨more, hmore, hwhole⟩ := bind_eq_ok hrest
    rw [ih hmore, ← Except.ok.inj hwhole]
    cases t with
    | none => exact absurd htext (by simp)
    | some t => rw [Except.ok.inj htext]; rfl

/-- The pattern of the rules is the one that the configuration names. -/
theorem pattern_of_rulesOf {config : Document} {rules : ClassRules} (h : rulesOf config = .ok rules) :
    config.find? "exception.name" = some rules.pattern := by
  obtain ⟨pattern, hpattern, h⟩ := bind_eq_ok h
  obtain ⟨types, -, h⟩ := bind_eq_ok h
  obtain ⟨skips, -, h⟩ := bind_eq_ok h
  injection h with h
  rw [← h]
  exact follow?_of_entry hpattern

/-- What decorators and name say about the kind. -/
theorem kindOf_eq {config : Document} {rules : ClassRules} {name : String} {texts : List String}
    {kind : ClassKind} (hrules : rulesOf config = .ok rules) (h : kindOf rules name texts = .ok kind) :
    kind = if "dataclass" ∈ texts then .dataclass
      else if namesException config name then .exception else .plain := by
  unfold kindOf at h
  by_cases hdata : "dataclass" ∈ texts
  · rw [if_pos (by simpa using hdata)] at h
    rw [if_pos hdata]
    exact (Except.ok.inj h).symm
  · rw [if_neg (by simpa using hdata)] at h
    rw [if_neg hdata]
    obtain ⟨found, hfound, h⟩ := bind_eq_ok h
    have hnames : namesException config name = found := by
      unfold namesException
      rw [pattern_of_rulesOf hrules]
      -- only a text can be matched at all
      cases hpattern : rules.pattern with
      | text pattern =>
        rw [hpattern] at hfound
        exact Except.ok.inj hfound
      | _ => rw [hpattern] at hfound; exact absurd hfound (by simp [Config.matchesName])
    rw [hnames]
    exact (Except.ok.inj h).symm

/-- **A class that is opened is of the kind that its definition gives it.** -/
theorem opening_kind {config : Document} {c : ClassOutline} {node : ClassNode}
    (h : opening config c.name c.decorators c.bases = .ok (some node)) : node.kind = c.kind config := by
  obtain ⟨rules, hrules, hmade⟩ := classNode_of_opening h
  obtain ⟨texts, kind, htexts, hkind, rfl⟩ := eq_of_classNode hmade
  have hdata : some "dataclass" ∈ c.decorators ↔ "dataclass" ∈ texts := by
    rw [eq_map_of_decoratorTexts htexts]
    simp
  show c.bases.foldl kindFromBase kind = _
  rw [foldl_kindFromBase, kindOf_eq hrules hkind, ClassOutline.kind]
  simp only [hdata]
  by_cases hmem : "dataclass" ∈ texts
  · simp [hmem]
  · by_cases hnames : namesException config c.name = true
    · simp [hmem, hnames]
    · simp [hmem, hnames]

/-! ## Steps -/

/-- The kind that a step gives to the class of this name. -/
def Step.kindFor? (name : String) : Step → Option ClassKind
  | .addClass node => if node.name = name then some node.kind else none
  | _ => none

/-- The kinds that steps give to the class of this name, in order. -/
def kindsFor (name : String) (steps : List Step) : List ClassKind :=
  steps.filterMap (Step.kindFor? name)

theorem kindsFor_append (name : String) (steps more : List Step) :
    kindsFor name (steps ++ more) = kindsFor name steps ++ kindsFor name more :=
  List.filterMap_append

theorem kindsFor_cons (name : String) (s : Step) (steps : List Step) :
    kindsFor name (s :: steps) = (s.kindFor? name).toList ++ kindsFor name steps := by
  unfold kindsFor
  rw [List.filterMap_cons]
  cases s.kindFor? name <;> rfl

theorem kindsFor_eq_nil {name : String} {steps : List Step} (h : arrivals steps = []) :
    kindsFor name steps = [] := by
  refine List.filterMap_eq_nil_iff.mpr fun s hs => ?_
  have hnone := List.filterMap_eq_nil_iff.mp h s hs
  cases s with
  | addClass node => exact absurd hnone (by simp [Step.arrival?])
  | _ => rfl

/-- A step leaves the kind of a class alone, unless a class of its name arrives. -/
theorem touch_kind (s : Step) (name : String) (node : Option ClassNode) :
    (s.touch name node).map (·.kind) = (s.kindFor? name).or (node.map (·.kind)) := by
  cases s with
  | addClass new =>
    by_cases hname : new.name = name
    · simp [Step.touch, Step.kindFor?, hname]
    · simp [Step.touch, Step.kindFor?, hname]
  | addAttribute owner member =>
    by_cases howner : owner = name
    · cases node <;> simp [Step.touch, Step.kindFor?, howner, ClassNode.addAttribute]
    · simp [Step.touch, Step.kindFor?, howner]
  | addFunction owner function =>
    by_cases howner : owner = name
    · cases node <;> simp [Step.touch, Step.kindFor?, howner, ClassNode.addFunction]
    · simp [Step.touch, Step.kindFor?, howner]
  | _ => rfl

/-- **Of the kinds that steps give to a class the last one stays.** -/
theorem foldl_touch_kind (steps : List Step) (name : String) (node : Option ClassNode) :
    (steps.foldl (Step.touch name) node).map (·.kind)
      = (kindsFor name steps).getLast?.or (node.map (·.kind)) := by
  induction steps generalizing node with
  | nil => rfl
  | cons s rest ih =>
    have hown : (s.kindFor? name).toList.getLast? = s.kindFor? name := by cases s.kindFor? name <;> rfl
    rw [List.foldl_cons, ih, touch_kind, kindsFor_cons, List.getLast?_append, hown, Option.or_assoc]

theorem kindsFor_enterSteps (name : String) (node : ClassNode) (bases : List String) :
    kindsFor name (enterSteps node bases) = if node.name = name then [node.kind] else [] := by
  have hbases : kindsFor name (bases.map fun base => Step.relate ⟨node.name, base, .inheritance⟩) = [] := by
    rw [kindsFor, List.filterMap_map]
    exact List.filterMap_eq_nil_iff.mpr fun base _ => rfl
  rw [enterSteps, kindsFor_append, hbases, List.nil_append, kindsFor_cons, Step.kindFor?]
  split <;> rfl

/-! ## Visits -/

/-- The kinds that classes of this name are of. -/
def kindsOf (config : Document) (name : String) (cs : List ClassOutline) : List ClassKind :=
  (cs.filter (·.name = name)).map (·.kind config)

theorem kindsOf_append (config : Document) (name : String) (cs more : List ClassOutline) :
    kindsOf config name (cs ++ more) = kindsOf config name cs ++ kindsOf config name more := by
  rw [kindsOf, List.filter_append, List.map_append]
  rfl

/-- A visit gives these kinds to the class of this name, or the first of them if it ends in a fault. -/
structure GivesKinds (name : String) (t : Trace) (kinds : List ClassKind) : Prop where
  upTo : kindsFor name t.steps <+: kinds
  all : t.fault = none → kindsFor name t.steps = kinds

theorem givesKinds_of_eq {name : String} {t : Trace} {kinds : List ClassKind}
    (h : kindsFor name t.steps = kinds) : GivesKinds name t kinds :=
  ⟨h ▸ List.prefix_rfl, fun _ => h⟩

mutual

/-- **The kinds that arrive under a name are those of the visible definitions of the name.** -/
theorem givesKinds_trace (config : Document) (name : String) : ∀ (o : Outline) (current : Option String),
    properOutline o → GivesKinds name (trace config o current)
      (kindsOf config name (visibleOutline (leavesOut config) o))
  | .classDef defined decorators bases calls body, current, hproper => by
      rw [trace, visibleOutline]
      match hopen : opening config defined decorators bases with
      | .error fault => exact ⟨List.nil_prefix, fun h => absurd h (by simp [classTrace])⟩
      | .ok none =>
        rw [leavesOut_of_opening hopen]
        exact givesKinds_of_eq rfl
      | .ok (some node) =>
        rw [leavesOut_of_opening hopen]
        have hname : node.name = defined := opening_name hopen
        have hkind : node.kind = ClassOutline.kind config ⟨defined, decorators, bases, body⟩ :=
          opening_kind hopen
        have henter : kindsFor name (enterSteps node bases)
            = kindsOf config name [⟨defined, decorators, bases, body⟩] := by
          rw [kindsFor_enterSteps, hname, hkind]
          by_cases hsame : defined = name
          · simp [kindsOf, hsame]
          · simp [kindsOf, hsame]
        obtain ⟨hupTo, hall⟩ := givesKinds_traceAll config name body (some node.name) hproper
        show GivesKinds name ⟨enterSteps node bases ++ _, _, _⟩
          (kindsOf config name
            ([⟨defined, decorators, bases, body⟩] ++ visibleOutlines (leavesOut config) body))
        rw [kindsOf_append, ← henter]
        constructor
        · rw [kindsFor_append]
          exact (List.prefix_append_right_inj _).mpr hupTo
        · intro hfault
          rw [kindsFor_append]
          exact congrArg _ (hall hfault)
  | .function _ types calls body, current, hproper =>
      givesKinds_of_eq (kindsFor_eq_nil
        (arrivals_memberTrace fun _ _ hs => by_functionSteps hproper id_mem_ids hs))
  | .assign targets value calls, current, hproper =>
      givesKinds_of_eq (kindsFor_eq_nil (arrivals_memberTrace fun _ _ hs =>
        by_assignSteps (fun call hc => List.mem_map_of_mem (hproper call hc)) hs))
  | .annAssign target types calls, current, _ =>
      givesKinds_of_eq (kindsFor_eq_nil
        (arrivals_memberTrace fun owner s hs => (by_annotateSteps hs : s.By owner [])))
  | .other calls body, current, hproper => givesKinds_traceAll config name body current hproper

theorem givesKinds_traceAll (config : Document) (name : String) :
    ∀ (outlines : List Outline) (current : Option String), properOutlines outlines →
      GivesKinds name (traceAll config outlines current)
        (kindsOf config name (visibleOutlines (leavesOut config) outlines))
  | [], _, _ => givesKinds_of_eq rfl
  | o :: rest, current, hproper => by
      obtain ⟨hupTo, hall⟩ := givesKinds_trace config name o current hproper.1
      rw [traceAll, visibleOutlines, kindsOf_append]
      cases hfirst : (trace config o current).fault with
      | some fault =>
        rw [Trace.andThen_of_fault hfirst]
        exact ⟨hupTo.trans (List.prefix_append _ _), fun h => absurd (hfirst.symm.trans h) (by simp)⟩
      | none =>
        obtain ⟨hrest, hrestAll⟩ :=
          givesKinds_traceAll config name rest (trace config o current).current hproper.2
        rw [Trace.andThen_of_done hfirst, ← hall hfirst]
        constructor
        · rw [kindsFor_append]
          exact (List.prefix_append_right_inj _).mpr hrest
        · intro hfault
          rw [kindsFor_append]
          exact congrArg _ (hrestAll hfault)

end

/-! ## Visits of statements -/

/-- The kinds that visible definitions of this name give. -/
def kindsDefined (config : Document) (name : String) (ds : List ClassDefinition) : List ClassKind :=
  (ds.filter (·.name = name)).map (·.kind config)

theorem kindsOf_ofStmts (config : Document) (name : String) (n : Nat) (statements : List Stmt) :
    kindsOf config name (visibleOutlines (leavesOut config) (ofStmts n statements).1)
      = kindsDefined config name (visibleAll (leavesOut config) statements) := by
  -- neither name nor kind depends on the numbers of calls
  have hunnumbered : ∀ cs : List ClassOutline,
      kindsOf config name cs = kindsOf config name (cs.map (·.unnumbered)) := by
    intro cs
    rw [kindsOf, kindsOf, List.filter_map, List.map_map]
    rfl
  have hshown := visibleOutlines_ofStmtList (leavesOut config) statements n
  have hdefinitions : ∀ ds : List ClassDefinition,
      kindsOf config name (ds.map (·.outline.unnumbered)) = kindsDefined config name ds := by
    intro ds
    rw [kindsOf, kindsDefined, List.filter_map, List.map_map]
    exact List.map_congr_left fun d _ => kind_outline config d
  rw [hunnumbered, ← hdefinitions]
  exact congrArg _ hshown

theorem visitAll_kind? (config : Document) (outlines : List Outline) (st : Analysis) (name : String) :
    (visitAll config outlines st).1.graph.kind? name
      = (kindsFor name (traceAll config outlines st.current).steps).getLast?.or (st.graph.kind? name) := by
  unfold kind?
  rw [visitAll_node?, foldl_touch_kind]

/-- **Visits without a definition of a name leave the kind of its class alone**, also if they end in a
fault. -/
theorem kind?_of_no_namesake {config : Document} {statements : List Stmt} {name : String}
    (h : ∀ e ∈ visibleAll (leavesOut config) statements, e.name ≠ name) (n : Nat) (st : Analysis) :
    (visitAll config (ofStmts n statements).1 st).1.graph.kind? name = st.graph.kind? name := by
  have hnone : kindsDefined config name (visibleAll (leavesOut config) statements) = [] := by
    rw [kindsDefined, List.map_eq_nil_iff, List.filter_eq_nil_iff]
    intro e he
    simpa using h e he
  have hgives := givesKinds_traceAll config name _ st.current (proper_ofStmts n statements)
  rw [kindsOf_ofStmts, hnone] at hgives
  rw [visitAll_kind?, List.prefix_nil.mp hgives.upTo]
  rfl

/-- After visits without a fault the last definition of a name decides. -/
theorem kind?_of_sound {config : Document} {statements : List Stmt} {n : Nat} {st : Analysis}
    (h : (visitAll config (ofStmts n statements).1 st).2 = none) (name : String) :
    (visitAll config (ofStmts n statements).1 st).1.graph.kind? name
      = (kindsDefined config name (visibleAll (leavesOut config) statements)).getLast?.or
        (st.graph.kind? name) := by
  have hsound := (visitAll_snd config _ st).symm.trans h
  have hgives := givesKinds_traceAll config name _ st.current (proper_ofStmts n statements)
  rw [visitAll_kind?, hgives.all hsound, kindsOf_ofStmts]

/-- A definition whose visit ends in no fault becomes a class, unless it is left out. -/
theorem opening_of_sound {config : Document} {d : ClassDefinition} {n : Nat} {st : Analysis}
    (h : (visit config (ofStmt d.stmt n).1 st).2 = none) (hseen : leavesOut config d.name = false) :
    ∃ node, opening config d.outline.name d.outline.decorators d.outline.bases = .ok (some node) := by
  rw [visit_snd] at h
  have houtline : ∃ calls body, (ofStmt d.stmt n).1
      = .classDef d.outline.name d.outline.decorators d.outline.bases calls body := ⟨_, _, rfl⟩
  obtain ⟨calls, body, houtline⟩ := houtline
  rw [houtline, trace] at h
  match hopen : opening config d.outline.name d.outline.decorators d.outline.bases with
  | .error fault => rw [hopen] at h; exact absurd h (by simp [classTrace])
  | .ok none => exact absurd ((leavesOut_of_opening hopen).symm.trans hseen) (by simp)
  | .ok (some node) => exact ⟨node, rfl⟩

theorem visitAll_singleton (config : Document) (o : Outline) (st : Analysis) :
    visitAll config [o] st = visit config o st := by
  rw [visitAll]
  rcases visit config o st with ⟨after, fault⟩
  cases fault <;> rfl

/--
**A class is of the kind that its definition gives it.**

Let the visit of a definition that is not left out end in no fault, from whatever state it starts. The class
that it makes is of the kind that decorators, name and bases give it, in this order of precedence. Under its
name the class has that kind afterwards, unless a visible definition in its body has the same name; then the
last one of these decides. Later visits, whether or not they end in a fault, leave the kind alone if no
visible definition in them has the name.
-/
theorem class_kind_by_precedence (config : Document) (d : ClassDefinition) (n : Nat) (st : Analysis)
    (hran : (visit config (ofStmt d.stmt n).1 st).2 = none) (hseen : leavesOut config d.name = false) :
    (∃ node, (openClass config d.name (d.decorators.map Expr.text?) (d.bases.filterMap nameOf?)
        st.printed).1 = .ok (some node) ∧ node.kind = d.kind config)
      ∧ (visit config (ofStmt d.stmt n).1 st).1.graph.kind? d.name
        = (kindsDefined config d.name (d :: visibleAll (leavesOut config) d.body)).getLast?
      ∧ ((∀ e ∈ visibleAll (leavesOut config) d.body, e.name ≠ d.name) →
        (visit config (ofStmt d.stmt n).1 st).1.graph.kind? d.name = some (d.kind config))
      ∧ ∀ later m st', (∀ e ∈ visibleAll (leavesOut config) later, e.name ≠ d.name) →
        (visitAll config (ofStmts m later).1 st').1.graph.kind? d.name = st'.graph.kind? d.name := by
  have hvisible : visibleAll (leavesOut config) [d.stmt] = d :: visibleAll (leavesOut config) d.body := by
    simp [visibleAll, visible, ClassDefinition.stmt, hseen]
  have hsole : visitAll config (ofStmts n [d.stmt]).1 st = visit config (ofStmt d.stmt n).1 st :=
    visitAll_singleton config _ st
  have hkind : (visit config (ofStmt d.stmt n).1 st).1.graph.kind? d.name
      = (kindsDefined config d.name (d :: visibleAll (leavesOut config) d.body)).getLast? := by
    have hafter := kind?_of_sound (hsole ▸ hran) d.name
    rw [hsole, hvisible] at hafter
    rw [hafter]
    exact Option.or_of_isSome (by simp [kindsDefined])
  refine ⟨?_, hkind, fun halone => ?_, fun later m st' hlater => kind?_of_no_namesake hlater m st'⟩
  · obtain ⟨node, hopen⟩ := opening_of_sound hran hseen
    refine ⟨node, (gives_openClass config _ _ _ st.printed).trans hopen, ?_⟩
    rw [← kind_outline]
    exact opening_kind hopen
  · have hnone : (visibleAll (leavesOut config) d.body).filter (·.name = d.name) = [] :=
      List.filter_eq_nil_iff.mpr fun e he => by simpa using halone e he
    rw [hkind, kindsDefined, List.filter_cons_of_pos (by simp), hnone]
    rfl

/-- A class with a decorator that is called, a dotted base in front of plain ones, and another class
inside. -/
def palette : ClassDefinition :=
  ⟨"Palette", [.member (.name "abc") "ABC", .name "Base", .name "Enum", .name "ABC"], [],
    [.classDef "Shade" [.name "ABC"] [] [.pass] [], idleFunction "mix" false []],
    [.call (.name "dataclass") [] []]⟩

theorem palette_is_enumeration :
    (visit errorsLeftOut (ofStmt palette.stmt 0).1 {}).2 = none
      ∧ leavesOut errorsLeftOut palette.name = false
      ∧ (visit errorsLeftOut (ofStmt palette.stmt 0).1 {}).1.graph.kind? "Palette" = some .enumeration
      ∧ (visitAll errorsLeftOut (ofStmts 0 [library.stmt]).1
        (visit errorsLeftOut (ofStmt palette.stmt 0).1 {}).1).1.graph.kind? "Palette"
          = some .enumeration := by
  have hran : (visit errorsLeftOut (ofStmt palette.stmt 0).1 {}).2 = none :=
    Option.isNone_iff_eq_none.mp (by decide +kernel)
  have hseen : leavesOut errorsLeftOut palette.name = false := by decide +kernel
  obtain ⟨-, -, hown, hlater⟩ := class_kind_by_precedence errorsLeftOut palette 0 {} hran hseen
  have hkind : (visit errorsLeftOut (ofStmt palette.stmt 0).1 {}).1.graph.kind? "Palette"
      = some .enumeration := (hown (by decide +kernel)).trans (by decide +kernel)
  exact ⟨hran, hseen, hkind, (hlater [library.stmt] 0 _ (by decide +kernel)).trans hkind⟩

/-- A plain class with an enumeration of the same name inside. -/
def shape : ClassDefinition :=
  ⟨"Shape", [], [], [.classDef "Shape" [.name "Enum"] [] [.pass] []], []⟩

/-- **The class inside takes the place of the one around it**, which is not of the kind that its definition
gives it. -/
theorem inner_shape_decides_kind :
    (visit errorsLeftOut (ofStmt shape.stmt 0).1 {}).2 = none
      ∧ leavesOut errorsLeftOut shape.name = false
      ∧ shape.kind errorsLeftOut = .plain
      ∧ (visit errorsLeftOut (ofStmt shape.stmt 0).1 {}).1.graph.kind? shape.name = some .enumeration := by
  exact ⟨Option.isNone_iff_eq_none.mp (by decide +kernel), by decide +kernel, by decide +kernel,
    by decide +kernel⟩

end Proofs

end ClassAtlas
