import ClassAtlas.Proofs.Fixpoint
import ClassAtlas.Proofs.Settings
import ClassAtlas.Proofs.Visible

/-!
# The last definition of a class wins

A class that arrives takes the place of an older one of its name, and after its definition nothing more
is added to it: there is no current class then, and what comes later has another one. So of several
visible definitions of a name only the last one shows, as if it had been visited alone
(`last_visible_traceAll`). The names themselves stay where they were first met.
-/

namespace ClassAtlas.Proofs

open ClassAtlas Analysis ClassGraph Outline Source Text

/-! ## Steps that leave a class alone -/

/-- The step does nothing to the class of this name. -/
def Step.Idle (name : String) (s : Step) : Prop :=
  ∀ node, s.touch name node = node

theorem Step.By.idle {s : Step} {taker name : String} {ids : List Nat} (h : s.By taker ids)
    (hne : taker ≠ name) : s.Idle name := by
  intro node
  cases s with
  | addClass new => exact h.elim
  | addAttribute owner member => exact if_neg fun he => hne (h.symm.trans he)
  | addFunction owner function => exact if_neg fun he => hne (h.symm.trans he)
  | _ => rfl

theorem foldl_touch_idle {name : String} {steps : List Step} (h : ∀ s ∈ steps, s.Idle name)
    (node : Option ClassNode) : steps.foldl (Step.touch name) node = node := by
  induction steps with
  | nil => rfl
  | cons s steps ih =>
    rw [List.foldl_cons, h s List.mem_cons_self]
    exact ih fun t ht => h t (List.mem_cons_of_mem _ ht)

theorem foldl_touch_renumber (name : String) (f : Nat → Nat) (steps : List Step)
    (node : Option ClassNode) :
    (steps.map (Step.renumber f)).foldl (Step.touch name) node
      = steps.foldl (Step.touch name) node := by
  rw [List.foldl_map]
  refine congrArg (fun g => List.foldl g node steps) (funext fun n => funext fun s => ?_)
  cases s <;> rfl

/-- Outside of any class, statements leave a class alone that does not arrive in them. -/
theorem idle_traceAll {config : Document} {outlines : List Outline} (hproper : properOutlines outlines)
    {name : String} (h : name ∉ arrivals (traceAll config outlines none).steps) :
    ∀ s ∈ (traceAll config outlines none).steps, s.Idle name := by
  intro s hs
  have hplaced := placed_traceAll config outlines none hproper id_mem_ids s hs
  rcases hplaced with ⟨node, rfl⟩ | ⟨taker, hby, hcurrent | harrives⟩
  · have harrives : node.name ∈ arrivals (traceAll config outlines none).steps :=
      List.mem_filterMap.mpr ⟨_, hs, rfl⟩
    intro slot
    simp only [Step.touch]
    exact if_neg fun (he : node.name = name) => h (he ▸ harrives)
  · exact absurd hcurrent (by simp)
  · exact hby.idle fun he => h (he ▸ harrives)

/-! ## The last visible class -/

/-- The trace of a class by itself. -/
def classTraceOf (config : Document) (c : ClassOutline) : Trace :=
  classTrace none c.bases (traceAll config c.body) (opening config c.name c.decorators c.bases)

/-- The trace ends with the class, but for steps that leave it alone. -/
structure EndsWith (config : Document) (c : ClassOutline) (t : Trace) : Prop where
  sound : (classTraceOf config c).fault = none
  arrives : c.name ∈ arrivals (classTraceOf config c).steps
  alone : ∀ e ∈ visibleOutlines (leavesOut config) c.body, e.name ≠ c.name
  outside : t.current = none
  steps : ∃ earlier later, t.steps = earlier ++ (classTraceOf config c).steps ++ later
    ∧ ∀ s ∈ later, s.Idle c.name

mutual

/-- **A visit ends with the last visible class of a name.** -/
theorem last_visible_trace (config : Document) : ∀ (o : Outline) (current : Option String)
    {before after : List ClassOutline} {c : ClassOutline}, properOutline o →
      (trace config o current).fault = none →
      visibleOutline (leavesOut config) o = before ++ c :: after → (∀ d ∈ after, d.name ≠ c.name) →
        EndsWith config c (trace config o current)
  | .classDef name decorators bases calls body, current, before, after, c, hproper, hfault, hvisible,
      hlast => by
      rw [trace] at hfault ⊢
      rw [visibleOutline] at hvisible
      match hopen : opening config name decorators bases with
      | .error fault => rw [hopen] at hfault; exact absurd hfault (by simp [classTrace])
      | .ok none =>
        rw [leavesOut_of_opening hopen] at hvisible
        exact absurd hvisible (by simp)
      | .ok (some node) =>
        rw [leavesOut_of_opening hopen] at hvisible
        rw [hopen] at hfault
        have hbody : (traceAll config body (some node.name)).fault = none := hfault
        have hcurrent : (classTrace current bases (traceAll config body) (.ok (some node))).current
            = none := by
          rw [classTrace, hbody]
          rfl
        cases before with
        | nil =>
          -- the class itself
          have hc : ⟨name, decorators, bases, body⟩ = c := (List.cons.inj hvisible).1
          have hinner : visibleOutlines (leavesOut config) body = after := (List.cons.inj hvisible).2
          subst hc
          have hself : classTraceOf config ⟨name, decorators, bases, body⟩
              = classTrace none bases (traceAll config body) (.ok (some node)) := by
            unfold classTraceOf
            rw [hopen]
          refine ⟨by rw [hself]; exact hbody, ?_, hinner ▸ hlast, hcurrent, [], [], ?_, by simp⟩
          · rw [hself, ← opening_name hopen]
            show node.name ∈ arrivals (enterSteps node bases ++ _)
            rw [arrivals_append, arrivals_enterSteps]
            exact List.mem_append_left _ List.mem_cons_self
          · rw [hself, List.append_nil]
            rfl
        | cons first before =>
          -- a class in its body
          have hinner : visibleOutlines (leavesOut config) body = before ++ c :: after :=
            (List.cons.inj hvisible).2
          obtain ⟨hsound, harrives, halone, -, earlier, later, hsteps, hidle⟩ :=
            last_visible_traceAll config body (some node.name) hproper hbody hinner hlast
          refine ⟨hsound, harrives, halone, hcurrent, enterSteps node bases ++ earlier, later, ?_, hidle⟩
          show enterSteps node bases ++ _ = _
          rw [hsteps, List.append_assoc, List.append_assoc, List.append_assoc]
  | .function .., _, before, after, c, _, _, hvisible, _ => absurd hvisible (by simp [visibleOutline])
  | .assign .., _, before, after, c, _, _, hvisible, _ => absurd hvisible (by simp [visibleOutline])
  | .annAssign .., _, before, after, c, _, _, hvisible, _ => absurd hvisible (by simp [visibleOutline])
  | .other calls body, current, before, after, c, hproper, hfault, hvisible, hlast =>
      last_visible_traceAll config body current hproper hfault hvisible hlast

theorem last_visible_traceAll (config : Document) : ∀ (outlines : List Outline)
    (current : Option String) {before after : List ClassOutline} {c : ClassOutline},
      properOutlines outlines → (traceAll config outlines current).fault = none →
      visibleOutlines (leavesOut config) outlines = before ++ c :: after →
      (∀ d ∈ after, d.name ≠ c.name) → EndsWith config c (traceAll config outlines current)
  | [], _, before, after, c, _, _, hvisible, _ => absurd hvisible (by simp [visibleOutlines])
  | o :: rest, current, before, after, c, hproper, hfault, hvisible, hlast => by
      have hfirst := sound_of_traceAll_cons hfault
      rw [traceAll, Trace.andThen_of_done hfirst] at hfault
      rw [visibleOutlines] at hvisible
      have hlater : ∀ {front : List ClassOutline},
          visibleOutlines (leavesOut config) rest = front ++ c :: after →
            EndsWith config c (traceAll config (o :: rest) current) := by
        intro front hrest
        obtain ⟨hsound, harrives, halone, hcurrent, earlier, later, hsteps, hidle⟩ :=
          last_visible_traceAll config rest _ hproper.2 hfault hrest hlast
        rw [traceAll, Trace.andThen_of_done hfirst]
        refine ⟨hsound, harrives, halone, hcurrent, (trace config o current).steps ++ earlier, later, ?_,
          hidle⟩
        rw [hsteps, List.append_assoc, List.append_assoc, List.append_assoc]
      rcases List.append_eq_append_iff.mp hvisible with ⟨front, -, hrest⟩ | ⟨mine, ho, hrest⟩
      · exact hlater hrest
      · cases mine with
        | nil =>
          have hrest : visibleOutlines (leavesOut config) rest = [] ++ c :: after := hrest.symm
          exact hlater hrest
        | cons x mine =>
          -- the class stands in the first statement, after which there is no current class
          obtain ⟨rfl, rfl⟩ := List.cons.inj hrest
          obtain ⟨hsound, harrives, halone, hcurrent, earlier, later, hsteps, hidle⟩ :=
            last_visible_trace config o current hproper.1 hfirst ho fun d hd =>
              hlast d (List.mem_append_left _ hd)
          rw [hcurrent] at hfault
          have habsent : c.name ∉ arrivals (traceAll config rest none).steps := by
            rw [arrivals_traceAll config rest none hproper.2 hfault, List.mem_map]
            rintro ⟨d, hd, he⟩
            exact hlast d (List.mem_append_right _ hd) he
          rw [traceAll, Trace.andThen_of_done hfirst, hcurrent]
          refine ⟨hsound, harrives, halone, (traceAll_current config rest none hfault).elim id id, earlier,
            later ++ (traceAll config rest none).steps, ?_, fun s hs => ?_⟩
          · show (trace config o current).steps ++ _ = _
            rw [hsteps, List.append_assoc]
          · rcases List.mem_append.mp hs with hs | hs
            · exact hidle s hs
            · exact idle_traceAll hproper.2 habsent s hs

end

/-- What the trace makes of the class is what the class makes of itself. -/
theorem EndsWith.touch {config : Document} {c : ClassOutline} {t : Trace} (h : EndsWith config c t)
    (node : Option ClassNode) :
    t.steps.foldl (Step.touch c.name) node
      = (classTraceOf config c).steps.foldl (Step.touch c.name) none := by
  obtain ⟨earlier, later, hsteps, hidle⟩ := h.steps
  rw [hsteps, List.foldl_append, List.foldl_append, foldl_touch_idle hidle]
  -- whatever stood under the name before, the class replaces it when it arrives
  exact foldl_touch_eq_of_mem h.arrives _ _

/-! ## Definitions by themselves -/

theorem trace_classDef (config : Document) (c : ClassOutline) (calls : List CallSite) :
    trace config (.classDef c.name c.decorators c.bases calls c.body) none = classTraceOf config c := by
  rw [trace]
  rfl

theorem classTraceOf_unnumbered (config : Document) (c : ClassOutline) :
    classTraceOf config c.unnumbered = (classTraceOf config c).renumber fun _ => 0 := by
  rw [← trace_classDef config c.unnumbered [], ← trace_classDef config c []]
  exact trace_renumber config (fun _ => 0) (.classDef c.name c.decorators c.bases [] c.body) none

/-- Classes that differ in the numbers of calls only have the same fault and make the same of a class. -/
theorem classTraceOf_congr (config : Document) {c d : ClassOutline} (h : c.unnumbered = d.unnumbered)
    (name : String) :
    (classTraceOf config c).fault = (classTraceOf config d).fault
      ∧ (classTraceOf config c).steps.foldl (Step.touch name) none
        = (classTraceOf config d).steps.foldl (Step.touch name) none := by
  have hboth := (classTraceOf_unnumbered config c).symm.trans
    ((congrArg _ h).trans (classTraceOf_unnumbered config d))
  have hfault := congrArg Trace.fault hboth
  have hsteps := congrArg (fun t => t.steps.foldl (Step.touch name) none) hboth
  simp only [Trace.renumber, foldl_touch_renumber] at hfault hsteps
  exact ⟨hfault, hsteps⟩

/-- A definition that is visited by itself is traced as its outline. -/
theorem trace_definition (config : Document) (d : ClassDefinition) :
    ∃ c : ClassOutline, c.unnumbered = d.outline.unnumbered
      ∧ trace config (outlineOf d.stmt) none = classTraceOf config c := by
  have houtline : ∃ calls n, outlineOf d.stmt = .classDef d.name (d.decorators.map Expr.text?)
      (d.bases.filterMap nameOf?) calls (ofStmts n d.body).1 := ⟨_, _, rfl⟩
  obtain ⟨calls, n, houtline⟩ := houtline
  refine ⟨⟨d.name, d.decorators.map Expr.text?, d.bases.filterMap nameOf?, (ofStmts n d.body).1⟩, ?_, ?_⟩
  · simp only [ClassOutline.unnumbered, ClassDefinition.outline, unnumbered_ofStmts n]
  · rw [houtline]
    exact trace_classDef config ⟨_, _, _, _⟩ calls

theorem visit_node? (config : Document) (o : Outline) (name : String) :
    (visit config o {}).1.graph.node? name
      = (trace config o none).steps.foldl (Step.touch name) none := by
  obtain ⟨printed, hvisit⟩ := visit_eq_replay config o {}
  rw [hvisit]
  exact replay_node? (trace config o none).steps {} name

/-! ## Two passes -/

theorem proper_ofStmts (n : Nat) (statements : List Stmt) : properOutlines (ofStmts n statements).1 :=
  (consecutive_ofStmtList statements).proper n

/-- The class under a name after two passes: what one pass makes of it. -/
theorem twoPasses_node? {config : Document} {modules : List (List Stmt)}
    (h : (traceAll config (ofStmts 0 modules.flatten).1 none).fault = none) (name : String) :
    (twoPasses config modules).1.graph.node? name
      = (passSteps config (ofStmts 0 modules.flatten).1).foldl (Step.touch name) none := by
  obtain ⟨printed, htwice⟩ := visitTwice_eq_replay h
  rw [twoPasses, htwice]
  exact (complete_replay _).again.nodes name

theorem foldl_arrive_eq (names known : List String) :
    names.foldl arrive known = known ++ (names.filter (· ∉ known)).eraseDups := by
  induction names generalizing known with
  | nil => simp
  | cons name names ih =>
    rw [List.foldl_cons, ih, arrive]
    by_cases h : name ∈ known
    · rw [if_pos h, List.filter_cons_of_neg (by simpa using h)]
    · rw [if_neg h, List.filter_cons_of_pos (by simpa using h), List.eraseDups_cons, List.filter_filter,
        List.append_assoc]
      refine congrArg (fun l => known ++ name :: List.eraseDups l) (List.filter_congr fun other _ => ?_)
      rw [Bool.eq_iff_iff]
      simp [and_comm]

/-- The names after two passes: the visible ones, each where it stands first. -/
theorem twoPasses_names {config : Document} {modules : List (List Stmt)}
    (h : (traceAll config (ofStmts 0 modules.flatten).1 none).fault = none) :
    (twoPasses config modules).1.graph.names
      = ((visibleAll (leavesOut config) modules.flatten).map (·.name)).eraseDups := by
  have harrivals := (arrivals_traceAll config _ none (proper_ofStmts 0 modules.flatten) h).trans
    (visibleOutlines_names (leavesOut config) modules.flatten)
  have hnames := (complete_replay (passSteps config (ofStmts 0 modules.flatten).1)).again.names
  obtain ⟨printed, htwice⟩ := visitTwice_eq_replay h
  rw [twoPasses, htwice]
  refine hnames.trans ?_
  rw [passSteps, harrivals, foldl_arrive_eq, List.nil_append, List.filter_eq_self.mpr (by simp)]

/-- **After two passes a class is as its last visible definition makes it.** -/
theorem twoPasses_last_definition {config : Document} {modules : List (List Stmt)}
    (h : (traceAll config (ofStmts 0 modules.flatten).1 none).fault = none)
    {before after : List ClassDefinition} {d : ClassDefinition}
    (hvisible : visibleAll (leavesOut config) modules.flatten = before ++ d :: after)
    (hlast : ∀ e ∈ after, e.name ≠ d.name) :
    (visit config (outlineOf d.stmt) {}).2 = none
      ∧ (twoPasses config modules).1.graph.node? d.name
        = (visit config (outlineOf d.stmt) {}).1.graph.node? d.name := by
  -- the same place in the list of visible outlines
  have hshown := visibleOutlines_ofStmtList (leavesOut config) modules.flatten 0
  rw [hvisible, List.map_append, List.map_cons] at hshown
  obtain ⟨front, back, houtlines, -, hback⟩ := List.map_eq_append_iff.mp hshown
  obtain ⟨c, back, rfl, hc, hafter⟩ := List.map_eq_cons_iff.mp hback
  have hname : c.name = d.name := congrArg ClassOutline.name hc
  have hlast' : ∀ e ∈ back, e.name ≠ c.name := by
    intro e he heq
    have hmem : e.unnumbered ∈ after.map (·.outline.unnumbered) := hafter ▸ List.mem_map_of_mem he
    obtain ⟨e', he', heq'⟩ := List.mem_map.mp hmem
    refine hlast e' he' ?_
    exact (congrArg ClassOutline.name heq').trans (heq.trans hname)
  -- the pass ends with this class, and the definition by itself has the same trace but for numbers
  have hends := last_visible_traceAll config _ none (proper_ofStmts 0 modules.flatten) h houtlines hlast'
  obtain ⟨c', hc', htrace⟩ := trace_definition config d
  have hsame := classTraceOf_congr config (hc.trans hc'.symm) d.name
  rw [visit_snd, visit_node?, htrace, twoPasses_node? h, ← hsame.1, ← hsame.2]
  refine ⟨hends.sound, ?_⟩
  rw [← hname]
  exact hends.touch none

/-! ## Configurations with a pattern and a list -/

/-- Exceptions are left out, and the name is that of an exception. -/
def leftOutBy (types : List Document) (pattern name : String) : Bool :=
  types.any (Document.isText "exception") && Glob.accepts pattern name

section

variable {config : Document} {pattern : String} {types : List Document}

theorem rulesOf_eq (hpattern : config.find? "exception.name" = some (.text pattern))
    (htypes : config.find? "exclude.types" = some (.list types)) :
    rulesOf config = .ok ⟨.text pattern, types.any (Document.isText "exception")⟩ := by
  have hname : Config.entry ((config.find? "exception").getD Document.empty) "name"
      = .ok (.text pattern) := entry_of_follow? hpattern
  have hlist : Config.entry ((config.find? "exclude").getD Document.empty) "types"
      = .ok (.list types) := entry_of_follow? htypes
  unfold rulesOf
  rw [hname, hlist]
  rfl

theorem skips_eq_leftOutBy (name : String) :
    ClassRules.skips ⟨.text pattern, types.any (Document.isText "exception")⟩ name
      = .ok (leftOutBy types pattern name) := by
  unfold ClassRules.skips leftOutBy
  cases types.any (Document.isText "exception") <;> rfl

theorem decoratorTexts_ok_iff (decorators : List (Option String)) :
    (∃ texts, decoratorTexts decorators = .ok texts) ↔ ∀ t ∈ decorators, t.isSome = true := by
  unfold decoratorTexts
  induction decorators with
  | nil => simp [pure, Except.pure]
  | cons t rest ih =>
    rw [List.forall_mem_cons, ← ih, List.mapM_cons]
    cases t with
    | none => simp [bind, Except.bind]
    | some text =>
      constructor
      · rintro ⟨texts, h⟩
        obtain ⟨_, -, h⟩ := bind_eq_ok h
        obtain ⟨more, hmore, -⟩ := bind_eq_ok h
        exact ⟨rfl, more, hmore⟩
      · rintro ⟨-, more, hmore⟩
        refine ⟨text :: more, ?_⟩
        rw [hmore]
        rfl

/-- A class can be made iff its decorators have texts. -/
theorem classNode_ok_iff (b : Bool) (name : String) (decorators : List (Option String))
    (bases : List String) :
    (∃ node, classNode ⟨.text pattern, b⟩ name decorators bases = .ok node)
      ↔ ∀ t ∈ decorators, t.isSome = true := by
  rw [← decoratorTexts_ok_iff]
  constructor
  · rintro ⟨node, h⟩
    obtain ⟨texts, htexts, -⟩ := bind_eq_ok h
    exact ⟨texts, htexts⟩
  · rintro ⟨texts, htexts⟩
    have hkind : ∃ kind, kindOf ⟨.text pattern, b⟩ name texts = .ok kind := by
      unfold kindOf
      split
      · exact ⟨_, rfl⟩
      · exact ⟨_, rfl⟩
    obtain ⟨kind, hkind⟩ := hkind
    refine ⟨{ name := name, kind := bases.foldl kindFromBase kind, annotations := some texts }, ?_⟩
    unfold classNode
    rw [htexts]
    show (kindOf ⟨.text pattern, b⟩ name texts >>= _) = _
    rw [hkind]
    rfl

/-- A definition is left out, or becomes a class iff its decorators have texts. -/
def OpensPrintable (config : Document) : Prop :=
  ∀ name decorators bases, (∃ opened, opening config name decorators bases = .ok opened)
    ↔ leavesOut config name = true ∨ ∀ t ∈ decorators, t.isSome = true

variable (hrules : rulesOf config = .ok ⟨.text pattern, types.any (Document.isText "exception")⟩)

include hrules

theorem leavesOut_eq_leftOutBy : leavesOut config = leftOutBy types pattern :=
  funext fun name => leavesOut_eq hrules (skips_eq_leftOutBy name)

theorem opensPrintable : OpensPrintable config := by
  intro name decorators bases
  rw [leavesOut_eq_leftOutBy hrules]
  unfold opening
  rw [hrules]
  show (∃ opened, (ClassRules.skips ⟨.text pattern, _⟩ name >>= _) = .ok opened) ↔ _
  rw [skips_eq_leftOutBy]
  cases leftOutBy types pattern name with
  | true => exact ⟨fun _ => Or.inl rfl, fun _ => ⟨none, rfl⟩⟩
  | false =>
    rw [← classNode_ok_iff (types.any (Document.isText "exception")) name decorators bases]
    constructor
    · rintro ⟨opened, h⟩
      obtain ⟨_, he, h⟩ := bind_eq_ok h
      cases he
      obtain ⟨node, hnode, -⟩ := bind_eq_ok h
      exact Or.inr ⟨node, hnode⟩
    · rintro (h | ⟨node, hnode⟩)
      · exact absurd h (by simp)
      · refine ⟨some node, ?_⟩
        show (classNode ⟨.text pattern, _⟩ name decorators bases >>= _) = _
        rw [hnode]
        rfl

end

/-! ## Faults -/

/-- All decorators of the class have texts. -/
def Printable (c : ClassOutline) : Prop :=
  ∀ t ∈ c.decorators, t.isSome = true

mutual

/-- A visit ends in no fault iff all visible classes can be printed. -/
theorem trace_sound_iff {config : Document} (hopens : OpensPrintable config) :
    ∀ (o : Outline) (current : Option String),
    (trace config o current).fault = none ↔ ∀ c ∈ visibleOutline (leavesOut config) o, Printable c
  | .classDef name decorators bases calls body, current => by
      rw [trace, visibleOutline]
      have hopen := hopens name decorators bases
      match heq : opening config name decorators bases with
      | .error fault =>
        have hnot : ¬ (leavesOut config name = true ∨ ∀ t ∈ decorators, t.isSome = true) := by
          rw [← hopen, heq]
          simp
        rw [not_or] at hnot
        rw [if_neg hnot.1, List.forall_mem_cons]
        exact ⟨fun h => absurd h (by simp [classTrace]), fun h => absurd h.1 hnot.2⟩
      | .ok none =>
        rw [leavesOut_of_opening heq]
        simp [classTrace]
      | .ok (some node) =>
        have hleft := leavesOut_of_opening heq
        rw [hleft, if_neg (by simp), List.forall_mem_cons, ← traceAll_sound_iff hopens body (some node.name)]
        have hprintable : Printable ⟨name, decorators, bases, body⟩ :=
          (hopen.mp ⟨_, heq⟩).resolve_left (by simp [hleft])
        exact ⟨fun h => ⟨hprintable, h⟩, fun h => h.2⟩
  | .function .., current => by simp [trace, memberTrace, visibleOutline]
  | .assign .., current => by simp [trace, memberTrace, visibleOutline]
  | .annAssign .., current => by simp [trace, memberTrace, visibleOutline]
  | .other calls body, current => traceAll_sound_iff hopens body current

theorem traceAll_sound_iff {config : Document} (hopens : OpensPrintable config) :
    ∀ (outlines : List Outline) (current : Option String),
    (traceAll config outlines current).fault = none
      ↔ ∀ c ∈ visibleOutlines (leavesOut config) outlines, Printable c
  | [], current => by simp [traceAll, visibleOutlines]
  | o :: rest, current => by
      rw [traceAll, visibleOutlines, List.forall_mem_append, ← trace_sound_iff hopens o current]
      cases hfirst : (trace config o current).fault with
      | some fault => rw [Trace.andThen_of_fault hfirst, hfirst]; simp
      | none =>
        rw [Trace.andThen_of_done hfirst, ← traceAll_sound_iff hopens rest (trace config o current).current]
        exact ⟨fun h => ⟨rfl, h⟩, fun h => h.2⟩

end

/-- Two passes end in no fault iff every decorator of a visible definition has a text. -/
theorem twoPasses_printable_iff {config : Document} (hopens : OpensPrintable config)
    (modules : List (List Stmt)) :
    (twoPasses config modules).2 = none
      ↔ ∀ d ∈ visibleAll (leavesOut config) modules.flatten, ∀ e ∈ d.decorators,
        e.text?.isSome = true := by
  have hshown := congrArg (List.map (·.decorators))
    (visibleOutlines_ofStmtList (leavesOut config) modules.flatten 0)
  rw [List.map_map, List.map_map] at hshown
  have hdecorators : (visibleOutlines (leavesOut config) (ofStmts 0 modules.flatten).1).map (·.decorators)
      = (visibleAll (leavesOut config) modules.flatten).map fun d => d.decorators.map Expr.text? := hshown
  have houtlines : (∀ c ∈ visibleOutlines (leavesOut config) (ofStmts 0 modules.flatten).1, Printable c)
      ↔ ∀ ds ∈ (visibleOutlines (leavesOut config) (ofStmts 0 modules.flatten).1).map (·.decorators),
        ∀ t ∈ ds, t.isSome = true := by
    rw [List.forall_mem_map]
    rfl
  rw [twoPasses, visitTwice_fault, traceAll_sound_iff hopens, houtlines, hdecorators, List.forall_mem_map]
  exact forall₂_congr fun d _ => List.forall_mem_map

/--
**The classes after two passes are the last visible definitions.**

For a configuration with a pattern and a list of types, two passes end in a fault only if a decorator of a
visible definition has no text. If they do not, the classes stand in the order in which visible
definitions of their names first occur, none of them is one that is left out, and each is, in all its
parts, the class that a visit of its last visible definition alone gives.
-/
theorem classes_are_last_visible_definitions (config : Document) (pattern : String)
    (types : List Document) (modules : List (List Stmt))
    (hpattern : config.find? "exception.name" = some (.text pattern))
    (htypes : config.find? "exclude.types" = some (.list types)) :
    ((twoPasses config modules).2 = none
        ↔ ∀ d ∈ visibleAll (leftOutBy types pattern) modules.flatten, ∀ e ∈ d.decorators,
          e.text?.isSome = true)
      ∧ ((twoPasses config modules).2 = none →
        (twoPasses config modules).1.graph.names
            = ((visibleAll (leftOutBy types pattern) modules.flatten).map (·.name)).eraseDups
          ∧ (∀ name ∈ (twoPasses config modules).1.graph.names, leftOutBy types pattern name = false)
          ∧ ∀ before d after, visibleAll (leftOutBy types pattern) modules.flatten = before ++ d :: after →
            (∀ e ∈ after, e.name ≠ d.name) →
              ∃ node, (twoPasses config modules).1.graph.node? d.name = some node
                ∧ (visit config (outlineOf d.stmt) {}).2 = none
                ∧ (visit config (outlineOf d.stmt) {}).1.graph.node? d.name = some node) := by
  have hrules := rulesOf_eq hpattern htypes
  have hleft := leavesOut_eq_leftOutBy hrules
  rw [← hleft]
  refine ⟨twoPasses_printable_iff (opensPrintable hrules) modules, fun hran => ?_⟩
  rw [twoPasses, visitTwice_fault] at hran
  have hnames := twoPasses_names hran
  refine ⟨hnames, fun name hname => ?_, fun before d after hvisible hlast => ?_⟩
  · rw [hnames, List.mem_eraseDups] at hname
    exact not_leftOut_of_visible hname
  · obtain ⟨hsolo, hsame⟩ := twoPasses_last_definition hran hvisible hlast
    have hmem : d.name ∈ (twoPasses config modules).1.graph.names := by
      rw [hnames, List.mem_eraseDups, hvisible]
      simp
    cases hnode : (twoPasses config modules).1.graph.node? d.name with
    | none => exact absurd hmem (node?_eq_none_iff.mp hnode)
    | some node => exact ⟨node, rfl, hsolo, hsame.symm.trans hnode⟩

/-- The later definition of a class. -/
def laterDefinition : ClassDefinition :=
  ⟨"A", [.name "ABC"], [], [.annAssign (.name "kept") (.name "C") none], [.name "dataclass"]⟩

/-- A class that is defined twice: first with another one inside, then again in a later module. In between
are a class in an asynchronous function, one in a plain function, and an exception with one inside. -/
def scatteredClasses : List (List Stmt) :=
  [[.classDef "A" [.name "B"] []
      [.assign [.name "x"] (.call (.name "B") [] []), .classDef "B" [.name "Enum"] [] [.pass] [],
        .assign [.name "late"] (.name "x")] []],
    [.functionDef true "main" (.mk [] [] none [] none) [.classDef "C" [] [] [.pass] []] [] none,
      .functionDef false "make" (.mk [] [] none [] none) [.classDef "Hidden" [] [] [.pass] []] [] none,
      .classDef "OwnError" [] [] [.classDef "Detail" [] [] [.pass] []] []],
    [laterDefinition.stmt]]

theorem scatteredClasses_after_two_passes :
    errorsLeftOut.find? "exception.name" = some (.text "*Error")
      ∧ errorsLeftOut.find? "exclude.types" = some (.list [.text "exception"])
      ∧ (twoPasses errorsLeftOut scatteredClasses).2 = none
      ∧ (twoPasses errorsLeftOut scatteredClasses).1.graph.names = ["A", "B", "C"]
      ∧ ∃ node, (twoPasses errorsLeftOut scatteredClasses).1.graph.node? "A" = some node
        ∧ (visit errorsLeftOut (outlineOf laterDefinition.stmt) {}).1.graph.node? "A"
          = some node := by
  have hpattern : errorsLeftOut.find? "exception.name" = some (.text "*Error") := by rfl
  have htypes : errorsLeftOut.find? "exclude.types" = some (.list [.text "exception"]) := by rfl
  obtain ⟨hsound, hclasses⟩ := classes_are_last_visible_definitions errorsLeftOut "*Error"
    [.text "exception"] scatteredClasses hpattern htypes
  have hran : (twoPasses errorsLeftOut scatteredClasses).2 = none := hsound.mpr (by decide +kernel)
  obtain ⟨hnames, -, hnodes⟩ := hclasses hran
  obtain ⟨node, hnode, -, hsolo⟩ := hnodes
    ((visibleAll (leftOutBy [.text "exception"] "*Error") scatteredClasses.flatten).take 3)
    laterDefinition [] (by rfl) (by simp)
  exact ⟨hpattern, htypes, hran, hnames.trans (by decide +kernel), node, hnode, hsolo⟩

end ClassAtlas.Proofs
