import ClassAtlas.Proofs.Traces
import Mathlib.Data.List.Forall2

/-!
# The classes that an analysis sees

A class definition is *visible* if an analysis gets to it: it goes into every statement but a plain
function, and leaves out the classes that the configuration names, with all that is inside of them.
`visible` lists the visible definitions of a statement in the order in which they stand.

`visibleOutline` does the same for outlines, and `visibleOutline_of` says that the two agree one by one;
only the numbers of calls depend on where a definition stands. The classes that arrive in a trace are
exactly the visible ones (`arrivals_trace`).
-/

namespace ClassAtlas.Proofs

open ClassAtlas Analysis Outline Source

/-! ## Visible definitions -/

/-- A class definition. -/
structure ClassDefinition where
  name : String
  bases : List Expr
  keywords : List Keyword
  body : List Stmt
  decorators : List Expr

/-- The definition as a statement. -/
def ClassDefinition.stmt (d : ClassDefinition) : Stmt :=
  .classDef d.name d.bases d.keywords d.body d.decorators

mutual

/-- The visible class definitions of a statement, in order; classes of some names are left out. -/
def visible (leftOut : String → Bool) : Stmt → List ClassDefinition
  | .classDef name bases keywords body decorators =>
    if leftOut name then [] else ⟨name, bases, keywords, body, decorators⟩ :: visibleAll leftOut body
  | .functionDef isAsync _ _ body _ _ => if isAsync then visibleAll leftOut body else []
  | .forLoop _ _ _ body orElse => visibleAll leftOut body ++ visibleAll leftOut orElse
  | .whileLoop _ body orElse => visibleAll leftOut body ++ visibleAll leftOut orElse
  | .conditional _ body orElse => visibleAll leftOut body ++ visibleAll leftOut orElse
  | .withBlock _ _ body => visibleAll leftOut body
  | .matchBlock _ cases => visibleInCases leftOut cases
  | .tryBlock _ body handlers orElse final =>
    visibleAll leftOut body ++ visibleInHandlers leftOut handlers ++ visibleAll leftOut orElse
      ++ visibleAll leftOut final
  | _ => []

/-- The visible class definitions of statements. -/
def visibleAll (leftOut : String → Bool) : List Stmt → List ClassDefinition
  | [] => []
  | s :: rest => visible leftOut s ++ visibleAll leftOut rest

/-- The visible class definitions in the cases of a `match` statement. -/
def visibleInCases (leftOut : String → Bool) : List MatchCase → List ClassDefinition
  | [] => []
  | .mk _ _ body :: rest => visibleAll leftOut body ++ visibleInCases leftOut rest

/-- The visible class definitions in the handlers of a `try` statement. -/
def visibleInHandlers (leftOut : String → Bool) : List Handler → List ClassDefinition
  | [] => []
  | .mk _ body :: rest => visibleAll leftOut body ++ visibleInHandlers leftOut rest

end

theorem mem_visibleAll {leftOut : String → Bool} {statements : List Stmt} {d : ClassDefinition} :
    d ∈ visibleAll leftOut statements ↔ ∃ s ∈ statements, d ∈ visible leftOut s := by
  induction statements with
  | nil => simp [visibleAll]
  | cons s rest ih => rw [visibleAll, List.mem_append, ih, List.exists_mem_cons_iff]

/-! ## Visible outlines -/

/-- What an analysis needs of a class definition. -/
structure ClassOutline where
  name : String
  decorators : List (Option String)
  bases : List String
  body : List Outline

/-- The outline of a class definition. -/
def ClassDefinition.outline (d : ClassDefinition) : ClassOutline :=
  ⟨d.name, d.decorators.map Expr.text?, d.bases.filterMap nameOf?, (ofStmts 0 d.body).1⟩

/-- A class without the numbers of its calls. -/
def ClassOutline.unnumbered (c : ClassOutline) : ClassOutline :=
  { c with body := renumberOutlines (fun _ => 0) c.body }

mutual

/-- The visible classes of an outline, in order. -/
def visibleOutline (leftOut : String → Bool) : Outline → List ClassOutline
  | .classDef name decorators bases _ body =>
    if leftOut name then [] else ⟨name, decorators, bases, body⟩ :: visibleOutlines leftOut body
  | .other _ body => visibleOutlines leftOut body
  | .function .. | .assign .. | .annAssign .. => []

/-- The visible classes of several outlines. -/
def visibleOutlines (leftOut : String → Bool) : List Outline → List ClassOutline
  | [] => []
  | o :: rest => visibleOutline leftOut o ++ visibleOutlines leftOut rest

end

theorem visibleOutlines_append (leftOut : String → Bool) (os more : List Outline) :
    visibleOutlines leftOut (os ++ more) = visibleOutlines leftOut os ++ visibleOutlines leftOut more := by
  induction os with
  | nil => rfl
  | cons o os ih => rw [List.cons_append, visibleOutlines, visibleOutlines, ih, List.append_assoc]

/-- The class outlines the definition, with the calls of its body numbered from somewhere. -/
def ClassOutline.Of (c : ClassOutline) (d : ClassDefinition) : Prop :=
  ∃ n, c = ⟨d.name, d.decorators.map Expr.text?, d.bases.filterMap nameOf?, (ofStmts n d.body).1⟩

/-- The outlines depict these definitions one by one, from whatever number they start. -/
def Depicts (leftOut : String → Bool) (m : Numbering (List Outline)) (ds : List ClassDefinition) : Prop :=
  ∀ n, List.Forall₂ ClassOutline.Of (visibleOutlines leftOut (m n).1) ds

theorem Depicts.append {leftOut : String → Bool} {m k : Numbering (List Outline)}
    {ds es : List ClassDefinition} (hm : Depicts leftOut m ds) (hk : Depicts leftOut k es) :
    Depicts leftOut (do let a ← m; return a ++ (← k)) (ds ++ es) := by
  intro n
  show List.Forall₂ _ (visibleOutlines leftOut ((m n).1 ++ (k (m n).2).1)) _
  rw [visibleOutlines_append]
  exact List.rel_append (hm n) (hk _)

mutual

/-- **The visible classes of an outline are the visible definitions of the statement.** -/
theorem visibleOutline_of (leftOut : String → Bool) : ∀ (s : Stmt) (n : Nat),
    List.Forall₂ ClassOutline.Of (visibleOutline leftOut (ofStmt s n).1) (visible leftOut s)
  | .classDef name bases keywords body decorators, n => by
      show List.Forall₂ _ (visibleOutline leftOut (.classDef name (decorators.map Expr.text?)
        (bases.filterMap nameOf?) _ (ofStmtList body _).1)) _
      rw [visibleOutline, visible]
      split
      · exact List.Forall₂.nil
      · -- the body is numbered behind the calls in front of it
        exact List.Forall₂.cons ⟨_, rfl⟩ (depicts_ofStmtList leftOut body _)
  | .functionDef true name parameters body decorators returns, n => depicts_ofStmtList leftOut body _
  | .functionDef false name parameters body decorators returns, n => List.Forall₂.nil
  | .forLoop _ target source body orElse, n =>
      (depicts_ofStmtList leftOut body).append (depicts_ofStmtList leftOut orElse) _
  | .whileLoop test body orElse, n =>
      (depicts_ofStmtList leftOut body).append (depicts_ofStmtList leftOut orElse) _
  | .conditional test body orElse, n =>
      (depicts_ofStmtList leftOut body).append (depicts_ofStmtList leftOut orElse) _
  | .withBlock _ items body, n => depicts_ofStmtList leftOut body _
  | .matchBlock subject cases, n => depicts_ofCases leftOut cases _
  | .tryBlock _ body handlers orElse final, n =>
      (((depicts_ofStmtList leftOut body).append (depicts_ofHandlers leftOut handlers)).append
        (depicts_ofStmtList leftOut orElse)).append (depicts_ofStmtList leftOut final) _
  | .returnValue _, _ | .delete _, _ | .assign _ _, _ | .augAssign _ _ _, _ | .annAssign _ _ _, _
  | .raise _ _, _ | .assert _ _, _ | .importModules, _ | .importFrom, _ | .globalNames, _
  | .nonlocalNames, _ | .expr _, _ | .pass, _ | .breakLoop, _ | .continueLoop, _ => List.Forall₂.nil

theorem depicts_ofStmtList (leftOut : String → Bool) : ∀ ss : List Stmt,
    Depicts leftOut (ofStmtList ss) (visibleAll leftOut ss)
  | [], _ => List.Forall₂.nil
  | s :: rest, n => List.rel_append (visibleOutline_of leftOut s n) (depicts_ofStmtList leftOut rest _)

theorem depicts_ofCases (leftOut : String → Bool) : ∀ cs : List MatchCase,
    Depicts leftOut (ofCases cs) (visibleInCases leftOut cs)
  | [], _ => List.Forall₂.nil
  | .mk _ _ body :: rest, _ =>
      List.rel_append (depicts_ofStmtList leftOut body _) (depicts_ofCases leftOut rest _)

theorem depicts_ofHandlers (leftOut : String → Bool) : ∀ hs : List Handler,
    Depicts leftOut (ofHandlers hs) (visibleInHandlers leftOut hs)
  | [], _ => List.Forall₂.nil
  | .mk _ body :: rest, _ =>
      List.rel_append (depicts_ofStmtList leftOut body _) (depicts_ofHandlers leftOut rest _)

end

/-- What stands in one of two lists that are related one by one has a partner in the other. -/
theorem exists_of_mem_forall₂ {α β : Type} {R : α → β → Prop} {as : List α} {bs : List β} {a : α}
    (h : List.Forall₂ R as bs) (ha : a ∈ as) : ∃ b ∈ bs, R a b := by
  induction h with
  | nil => exact absurd ha (by simp)
  | cons hab _ ih =>
    rcases List.mem_cons.mp ha with rfl | ha
    · exact ⟨_, List.mem_cons_self, hab⟩
    · obtain ⟨b, hb, hr⟩ := ih ha
      exact ⟨b, List.mem_cons_of_mem _ hb, hr⟩

/-- The outlines show these definitions, from whatever number they start. -/
def Shows (leftOut : String → Bool) (m : Numbering (List Outline)) (ds : List ClassDefinition) : Prop :=
  ∀ n, (visibleOutlines leftOut (m n).1).map (·.unnumbered) = ds.map (·.outline.unnumbered)

/-- The body of a definition has the same outline from every number, but for the numbers. -/
theorem unnumbered_ofStmts (n : Nat) (statements : List Stmt) :
    renumberOutlines (fun _ => 0) (ofStmts n statements).1
      = renumberOutlines (fun _ => 0) (ofStmts 0 statements).1 := by
  have hmove := (consecutive_ofStmtList statements).result n
  show renumberOutlines _ (ofStmtList statements n).1 = renumberOutlines _ (ofStmtList statements 0).1
  rw [hmove]
  exact renumberOutlines_comp _ _ _

/-- Classes that outline definitions are theirs but for the numbers. -/
theorem unnumbered_of_forall₂ {cs : List ClassOutline} {ds : List ClassDefinition}
    (h : List.Forall₂ ClassOutline.Of cs ds) :
    cs.map (·.unnumbered) = ds.map (·.outline.unnumbered) := by
  induction h with
  | nil => rfl
  | cons hof _ ih =>
    obtain ⟨n, rfl⟩ := hof
    rw [List.map_cons, List.map_cons, ih]
    refine congrArg (· :: _) ?_
    simp only [ClassOutline.unnumbered, ClassDefinition.outline]
    exact congrArg _ (unnumbered_ofStmts n _)

theorem visibleOutline_ofStmt (leftOut : String → Bool) (s : Stmt) (n : Nat) :
    (visibleOutline leftOut (ofStmt s n).1).map (·.unnumbered)
      = (visible leftOut s).map (·.outline.unnumbered) :=
  unnumbered_of_forall₂ (visibleOutline_of leftOut s n)

theorem visibleOutlines_ofStmtList (leftOut : String → Bool) (ss : List Stmt) :
    Shows leftOut (ofStmtList ss) (visibleAll leftOut ss) :=
  fun n => unnumbered_of_forall₂ (depicts_ofStmtList leftOut ss n)

/-- The names of visible classes are those of visible definitions. -/
theorem visibleOutlines_names (leftOut : String → Bool) (statements : List Stmt) :
    (visibleOutlines leftOut (ofStmts 0 statements).1).map (·.name)
      = (visibleAll leftOut statements).map (·.name) := by
  have hshown := congrArg (List.map (·.name)) (visibleOutlines_ofStmtList leftOut statements 0)
  rw [List.map_map, List.map_map] at hshown
  exact hshown

mutual

theorem not_leftOut_visibleOutline {leftOut : String → Bool} {c : ClassOutline} : ∀ (o : Outline),
    c ∈ visibleOutline leftOut o → leftOut c.name = false
  | .classDef name decorators bases calls body, hc => by
      rw [visibleOutline] at hc
      split at hc
      · exact absurd hc (by simp)
      · rename_i hname
        rcases List.mem_cons.mp hc with rfl | hc
        · exact Bool.eq_false_iff.mpr hname
        · exact not_leftOut_visibleOutlines body hc
  | .other calls body, hc => not_leftOut_visibleOutlines body hc
  | .function .., hc => absurd hc (by simp [visibleOutline])
  | .assign .., hc => absurd hc (by simp [visibleOutline])
  | .annAssign .., hc => absurd hc (by simp [visibleOutline])

theorem not_leftOut_visibleOutlines {leftOut : String → Bool} {c : ClassOutline} :
    ∀ (outlines : List Outline), c ∈ visibleOutlines leftOut outlines → leftOut c.name = false
  | [], hc => absurd hc (by simp [visibleOutlines])
  | o :: rest, hc => by
      rcases List.mem_append.mp hc with hc | hc
      · exact not_leftOut_visibleOutline o hc
      · exact not_leftOut_visibleOutlines rest hc

end

/-- A class that is left out is not visible under its name. -/
theorem not_leftOut_of_visible {leftOut : String → Bool} {statements : List Stmt} {name : String}
    (h : name ∈ (visibleAll leftOut statements).map (·.name)) : leftOut name = false := by
  rw [← visibleOutlines_names, List.mem_map] at h
  obtain ⟨c, hc, rfl⟩ := h
  exact not_leftOut_visibleOutlines _ hc

/-! ## What arrives -/

/-- Does the configuration leave out classes of this name? -/
def leavesOut (config : Document) (name : String) : Bool :=
  match rulesOf config >>= (·.skips name) with
  | .ok skipped => skipped
  | .error _ => false

theorem leavesOut_eq {config : Document} {name : String} {rules : ClassRules} {skipped : Bool}
    (hrules : rulesOf config = .ok rules) (hskips : rules.skips name = .ok skipped) :
    leavesOut config name = skipped := by
  have hboth : (rulesOf config >>= (·.skips name)) = .ok skipped := by
    rw [hrules]
    exact hskips
  rw [leavesOut, hboth]

/-- A class that is opened is not left out, and one that is not opened is. -/
theorem leavesOut_of_opening {config : Document} {name : String} {decorators : List (Option String)}
    {bases : List String} {opened : Option ClassNode}
    (h : opening config name decorators bases = .ok opened) :
    leavesOut config name = opened.isNone := by
  obtain ⟨rules, hrules, h⟩ := bind_eq_ok h
  obtain ⟨skipped, hskips, h⟩ := bind_eq_ok h
  rw [leavesOut_eq hrules hskips]
  cases skipped with
  | true =>
    injection h with h
    rw [← h]
    rfl
  | false =>
    obtain ⟨node, -, h⟩ := bind_eq_ok h
    injection h with h
    rw [← h]
    rfl

theorem arrivals_of_by {name : String} {ids : List Nat} {steps : List Step}
    (h : ∀ s ∈ steps, s.By name ids) : arrivals steps = [] :=
  List.filterMap_eq_nil_iff.mpr fun s hs => (h s hs).arrival?

theorem arrivals_memberTrace {current : Option String} {ids : List Nat} {steps : String → List Step}
    (h : ∀ name, ∀ s ∈ steps name, s.By name ids) : arrivals (memberTrace current steps).steps = [] := by
  cases current with
  | none => rfl
  | some name => exact arrivals_of_by (h name)

mutual

/-- **The classes that arrive in a visit without a fault are the visible ones, in their order.** -/
theorem arrivals_trace (config : Document) : ∀ (o : Outline) (current : Option String),
    properOutline o → (trace config o current).fault = none →
      arrivals (trace config o current).steps = (visibleOutline (leavesOut config) o).map (·.name)
  | .classDef name decorators bases calls body, current, hproper, hfault => by
      rw [trace] at hfault ⊢
      rw [visibleOutline]
      match hopen : opening config name decorators bases with
      | .error fault => rw [hopen] at hfault; exact absurd hfault (by simp [classTrace])
      | .ok none =>
        rw [leavesOut_of_opening hopen]
        rfl
      | .ok (some node) =>
        rw [hopen] at hfault
        rw [leavesOut_of_opening hopen]
        show arrivals (enterSteps node bases ++ _) = name :: _
        rw [arrivals_append, arrivals_enterSteps, opening_name hopen,
          arrivals_traceAll config body (some name) hproper (opening_name hopen ▸ hfault)]
        rfl
  | .function name types calls body, current, hproper, _ =>
      arrivals_memberTrace fun _ _ hs => by_functionSteps hproper id_mem_ids hs
  | .assign targets value calls, current, hproper, _ =>
      arrivals_memberTrace fun _ _ hs =>
        by_assignSteps (fun call hc => List.mem_map_of_mem (hproper call hc)) hs
  | .annAssign target types calls, current, _, _ =>
      arrivals_memberTrace fun name s hs => (by_annotateSteps hs : s.By name [])
  | .other calls body, current, hproper, hfault =>
      arrivals_traceAll config body current hproper hfault

theorem arrivals_traceAll (config : Document) : ∀ (outlines : List Outline) (current : Option String),
    properOutlines outlines → (traceAll config outlines current).fault = none →
      arrivals (traceAll config outlines current).steps
        = (visibleOutlines (leavesOut config) outlines).map (·.name)
  | [], _, _, _ => rfl
  | o :: rest, current, hproper, hfault => by
      have hfirst := sound_of_traceAll_cons hfault
      rw [traceAll, Trace.andThen_of_done hfirst] at hfault ⊢
      rw [arrivals_append, visibleOutlines, List.map_append,
        arrivals_trace config o current hproper.1 hfirst, arrivals_traceAll config rest _ hproper.2 hfault]

end

/-! ## Two passes over modules -/

/-- Visits the statements of modules, one module after the other, and then all of them again. -/
def twoPasses (config : Document) (modules : List (List Stmt)) : Analysis × Option Fault :=
  visitTwice config (ofStmts 0 modules.flatten).1 {}

/-- The steps of a statement by itself. -/
def stmtSteps (config : Document) (s : Stmt) : List Step :=
  topSteps config (outlineOf s)

/-- A visit of the statement ends in no fault. -/
def Sound (config : Document) (s : Stmt) : Prop :=
  (trace config (outlineOf s) none).fault = none

/-- The steps of a statement whose calls are numbered from somewhere. -/
def movedSteps (config : Document) (p : Nat × Stmt) : List Step :=
  (stmtSteps config p.2).map (Step.renumber (p.1 + ·))

/-- The steps of a pass over statements. -/
def numberedSteps (config : Document) (statements : List Stmt) : List Step :=
  (numbered 0 statements).flatMap (movedSteps config)

theorem mem_of_mem_numbered {n : Nat} {statements : List Stmt} {p : Nat × Stmt}
    (h : p ∈ numbered n statements) : p.2 ∈ statements := by
  rw [← numbered_map_snd n statements]
  exact List.mem_map_of_mem h

theorem topSteps_renumber (config : Document) (f : Nat → Nat) (o : Outline) :
    topSteps config (renumberOutline f o) = (topSteps config o).map (Step.renumber f) := by
  unfold topSteps
  rw [trace_renumber]
  rfl

theorem ofStmts_sound_iff (config : Document) (statements : List Stmt) :
    (traceAll config (ofStmts 0 statements).1 none).fault = none ↔ ∀ s ∈ statements, Sound config s := by
  have hfault : ∀ p : Nat × Stmt,
      (trace config (renumberOutline (p.1 + ·) (outlineOf p.2)) none).fault
        = (trace config (outlineOf p.2) none).fault := by
    intro p
    rw [trace_renumber]
    rfl
  -- numbers do not matter for faults, and every statement has its place in the numbering
  rw [traceAll_fault_iff, ofStmts_eq_map, List.forall_mem_map]
  constructor
  · intro h s hs
    rw [← numbered_map_snd 0 statements] at hs
    obtain ⟨p, hp, rfl⟩ := List.mem_map.mp hs
    exact (hfault p).symm.trans (h p hp)
  · intro h p hp
    exact (hfault p).trans (h p.2 (mem_of_mem_numbered hp))

/-- Two passes end in no fault iff no statement's visit does. -/
theorem twoPasses_sound_iff (config : Document) (modules : List (List Stmt)) :
    (twoPasses config modules).2 = none ↔ ∀ s ∈ modules.flatten, Sound config s := by
  rw [twoPasses, visitTwice_fault, ofStmts_sound_iff]

/-- The steps of a pass over statements are theirs, one after the other. -/
theorem passSteps_ofStmts {config : Document} {statements : List Stmt}
    (h : ∀ s ∈ statements, Sound config s) :
    passSteps config (ofStmts 0 statements).1 = numberedSteps config statements := by
  rw [passSteps_eq_flatMap ((ofStmts_sound_iff config statements).mpr h), ofStmts_eq_map, List.flatMap_map]
  exact congrArg (List.flatMap · _) (funext fun p => topSteps_renumber config _ _)

/-- **Two passes replay the steps of the statements twice.** -/
theorem twoPasses_graph {config : Document} {modules : List (List Stmt)}
    (h : ∀ s ∈ modules.flatten, Sound config s) :
    (twoPasses config modules).1.graph
      = (replay (numberedSteps config modules.flatten)
          (replay (numberedSteps config modules.flatten) {})).graph := by
  obtain ⟨printed, htwice⟩ := visitTwice_eq_replay ((ofStmts_sound_iff config modules.flatten).mpr h)
  rw [twoPasses, htwice, passSteps_ofStmts h]
  rfl

theorem arrivals_map_renumber (f : Nat → Nat) (steps : List Step) :
    arrivals (steps.map (Step.renumber f)) = arrivals steps := by
  unfold arrivals
  rw [List.filterMap_map]
  refine congrArg (List.filterMap · steps) (funext fun s => ?_)
  cases s <;> rfl

theorem arrivals_movedSteps (config : Document) (p : Nat × Stmt) :
    arrivals (movedSteps config p) = arrivals (stmtSteps config p.2) :=
  arrivals_map_renumber _ _

/-- The classes that arrive in a statement are its visible ones. -/
theorem arrivals_stmtSteps {config : Document} {s : Stmt} (h : Sound config s) :
    arrivals (stmtSteps config s) = (visible (leavesOut config) s).map (·.name) := by
  have hnames := congrArg (List.map (·.name)) (visibleOutline_ofStmt (leavesOut config) s 0)
  rw [List.map_map, List.map_map] at hnames
  exact (arrivals_trace config (outlineOf s) none (proper_outlineOf s) h).trans hnames

theorem arrivals_flatMap {α : Type} (f : α → List Step) (l : List α) :
    arrivals (l.flatMap f) = l.flatMap fun a => arrivals (f a) :=
  List.filterMap_flatMap

theorem flatMap_numbered {β : Type} (f : Stmt → List β) (n : Nat) (statements : List Stmt) :
    (numbered n statements).flatMap (fun p => f p.2) = statements.flatMap f := by
  induction statements generalizing n with
  | nil => rfl
  | cons s rest ih => rw [numbered, List.flatMap_cons, ih, List.flatMap_cons]

theorem arrivals_numberedSteps (config : Document) (statements : List Stmt) :
    arrivals (numberedSteps config statements)
      = statements.flatMap fun s => arrivals (stmtSteps config s) := by
  rw [numberedSteps, arrivals_flatMap, ← flatMap_numbered _ 0 statements]
  exact congrArg (List.flatMap · _) (funext fun p => arrivals_movedSteps config p)

/-- The classes that arrive in a pass are the visible ones. -/
theorem arrivals_eq_visibleAll {config : Document} {statements : List Stmt}
    (h : ∀ s ∈ statements, Sound config s) :
    statements.flatMap (fun s => arrivals (stmtSteps config s))
      = (visibleAll (leavesOut config) statements).map (·.name) := by
  induction statements with
  | nil => rfl
  | cons s rest ih =>
    have hs := arrivals_stmtSteps (h s List.mem_cons_self)
    have hrest := ih fun t ht => h t (List.mem_cons_of_mem _ ht)
    rw [List.flatMap_cons, hs, hrest, visibleAll, List.map_append]

end ClassAtlas.Proofs
