import ClassAtlas.Proofs.LastDefinition

/-!
# Functions and inner classes

After the body of a class there is no current class, also not the one around it. So a class gets functions
only up to the first visible class inside of it, at whatever depth that stands, and what follows is lost.

`marks` lists what a class meets in its body: plain functions, wherever it gets to one, and visible
classes. The functions in front of the first inner class are exactly the ones that the class has after a
visit (`functions_end_at_inner_class`). In particular no method is lost if none stands behind an inner
class; if all functions that are met have different names, this is necessary as well.
-/

namespace ClassAtlas.Source

/-- The name of a plain function. -/
def Stmt.method? : Stmt → Option String
  | .functionDef false name _ _ _ _ => some name
  | _ => none

/-- The names of the plain functions that stand directly among the statements. -/
def methodNames (statements : List Stmt) : List String :=
  statements.filterMap Stmt.method?

end ClassAtlas.Source

namespace ClassAtlas.Proofs

open ClassAtlas Analysis Outline Source

/-! ## What a class meets -/

/-- What a class meets in its body. -/
inductive Mark where
  | function (name : String)
  /-- A visible class. -/
  | inner
deriving DecidableEq

mutual

/-- What a class meets in a statement of its body, in order. -/
def marks (leftOut : String → Bool) : Stmt → List Mark
  | .classDef name _ _ _ _ => if leftOut name then [] else [.inner]
  | .functionDef isAsync name _ body _ _ => if isAsync then marksAll leftOut body else [.function name]
  | .forLoop _ _ _ body orElse => marksAll leftOut body ++ marksAll leftOut orElse
  | .whileLoop _ body orElse => marksAll leftOut body ++ marksAll leftOut orElse
  | .conditional _ body orElse => marksAll leftOut body ++ marksAll leftOut orElse
  | .withBlock _ _ body => marksAll leftOut body
  | .matchBlock _ cases => marksInCases leftOut cases
  | .tryBlock _ body handlers orElse final =>
    marksAll leftOut body ++ marksInHandlers leftOut handlers ++ marksAll leftOut orElse
      ++ marksAll leftOut final
  | _ => []

/-- What a class meets in statements of its body. -/
def marksAll (leftOut : String → Bool) : List Stmt → List Mark
  | [] => []
  | s :: rest => marks leftOut s ++ marksAll leftOut rest

/-- What a class meets in the cases of a `match` statement. -/
def marksInCases (leftOut : String → Bool) : List MatchCase → List Mark
  | [] => []
  | .mk _ _ body :: rest => marksAll leftOut body ++ marksInCases leftOut rest

/-- What a class meets in the handlers of a `try` statement. -/
def marksInHandlers (leftOut : String → Bool) : List Handler → List Mark
  | [] => []
  | .mk _ body :: rest => marksAll leftOut body ++ marksInHandlers leftOut rest

end

/-- The functions in front of the first inner class. -/
def functionsInFront : List Mark → List String
  | .function name :: rest => name :: functionsInFront rest
  | _ => []

/-- All functions that are met. -/
def functionsMet : List Mark → List String
  | [] => []
  | .function name :: rest => name :: functionsMet rest
  | .inner :: rest => functionsMet rest

theorem functionsMet_append (ms more : List Mark) :
    functionsMet (ms ++ more) = functionsMet ms ++ functionsMet more := by
  induction ms with
  | nil => rfl
  | cons m ms ih =>
    cases m with
    | function name => exact congrArg (name :: ·) ih
    | inner => exact ih

theorem functionsInFront_subset {ms : List Mark} {name : String} (h : name ∈ functionsInFront ms) :
    name ∈ functionsMet ms := by
  induction ms with
  | nil => exact h
  | cons m ms ih =>
    cases m with
    | inner => exact absurd h (by simp [functionsInFront])
    | function other =>
      rcases List.mem_cons.mp h with rfl | h
      · exact List.mem_cons_self
      · exact List.mem_cons_of_mem _ (ih h)

/-- What follows an inner class does not count. -/
theorem functionsInFront_append_of_inner {ms : List Mark} (h : .inner ∈ ms) (more : List Mark) :
    functionsInFront (ms ++ more) = functionsInFront ms := by
  induction ms with
  | nil => exact absurd h (by simp)
  | cons m ms ih =>
    cases m with
    | inner => rfl
    | function name =>
      have hrest : .inner ∈ ms := by simpa using h
      exact congrArg (name :: ·) (ih hrest)

theorem functionsInFront_append {ms : List Mark} (h : .inner ∉ ms) (more : List Mark) :
    functionsInFront (ms ++ more) = functionsMet ms ++ functionsInFront more := by
  induction ms with
  | nil => rfl
  | cons m ms ih =>
    cases m with
    | inner => exact absurd List.mem_cons_self h
    | function name =>
      have hrest : .inner ∉ ms := fun hmem => h (List.mem_cons_of_mem _ hmem)
      exact congrArg (name :: ·) (ih hrest)

theorem functionsInFront_eq_met {ms : List Mark} (h : .inner ∉ ms) :
    functionsInFront ms = functionsMet ms := by
  have hnil := functionsInFront_append h []
  rw [List.append_nil] at hnil
  exact hnil.trans (List.append_nil _)

section

variable {leftOut : String → Bool}

mutual

/-- A class meets inner classes in a statement iff the statement has visible ones. -/
theorem visible_eq_nil_iff : ∀ s : Stmt, visible leftOut s = [] ↔ .inner ∉ marks leftOut s
  | .classDef name bases keywords body decorators => by
      rw [visible, marks]
      split <;> simp
  | .functionDef true name parameters body decorators returns => visibleAll_eq_nil_iff body
  | .functionDef false name parameters body decorators returns => by simp [visible, marks]
  | .forLoop _ target source body orElse => by
      simp only [visible, marks, List.append_eq_nil_iff, List.mem_append, not_or,
        visibleAll_eq_nil_iff body, visibleAll_eq_nil_iff orElse]
  | .whileLoop test body orElse => by
      simp only [visible, marks, List.append_eq_nil_iff, List.mem_append, not_or,
        visibleAll_eq_nil_iff body, visibleAll_eq_nil_iff orElse]
  | .conditional test body orElse => by
      simp only [visible, marks, List.append_eq_nil_iff, List.mem_append, not_or,
        visibleAll_eq_nil_iff body, visibleAll_eq_nil_iff orElse]
  | .withBlock _ items body => visibleAll_eq_nil_iff body
  | .matchBlock subject cases => visibleInCases_eq_nil_iff cases
  | .tryBlock _ body handlers orElse final => by
      simp only [visible, marks, List.append_eq_nil_iff, List.mem_append, not_or,
        visibleAll_eq_nil_iff body, visibleInHandlers_eq_nil_iff handlers, visibleAll_eq_nil_iff orElse,
        visibleAll_eq_nil_iff final]
  | .returnValue _ | .delete _ | .assign _ _ | .augAssign _ _ _ | .annAssign _ _ _ | .raise _ _
  | .assert _ _ | .importModules | .importFrom | .globalNames | .nonlocalNames | .expr _ | .pass
  | .breakLoop | .continueLoop => by simp [visible, marks]

theorem visibleAll_eq_nil_iff : ∀ ss : List Stmt, visibleAll leftOut ss = [] ↔ .inner ∉ marksAll leftOut ss
  | [] => by simp [visibleAll, marksAll]
  | s :: rest => by
      rw [visibleAll, marksAll, List.append_eq_nil_iff, List.mem_append, not_or, visible_eq_nil_iff s,
        visibleAll_eq_nil_iff rest]

theorem visibleInCases_eq_nil_iff : ∀ cs : List MatchCase,
    visibleInCases leftOut cs = [] ↔ .inner ∉ marksInCases leftOut cs
  | [] => by simp [visibleInCases, marksInCases]
  | .mk _ _ body :: rest => by
      rw [visibleInCases, marksInCases, List.append_eq_nil_iff, List.mem_append, not_or,
        visibleAll_eq_nil_iff body, visibleInCases_eq_nil_iff rest]

theorem visibleInHandlers_eq_nil_iff : ∀ hs : List Handler,
    visibleInHandlers leftOut hs = [] ↔ .inner ∉ marksInHandlers leftOut hs
  | [] => by simp [visibleInHandlers, marksInHandlers]
  | .mk _ body :: rest => by
      rw [visibleInHandlers, marksInHandlers, List.append_eq_nil_iff, List.mem_append, not_or,
        visibleAll_eq_nil_iff body, visibleInHandlers_eq_nil_iff rest]

end

end

/-! ## Methods in front of inner classes -/

/-- No method stands directly in the body behind a visible class. -/
def MethodsInFront (leftOut : String → Bool) (body : List Stmt) : Prop :=
  body.Pairwise fun s t => t.method?.isSome = true → visible leftOut s = []

section

variable {leftOut : String → Bool}

theorem marks_of_method {s : Stmt} {name : String} (h : s.method? = some name) :
    marks leftOut s = [.function name] := by
  unfold Stmt.method? at h
  split at h
  · rw [Option.some.inj h]
    simp [marks]
  · exact absurd h (by simp)

theorem methodNames_cons (s : Stmt) (rest : List Stmt) :
    methodNames (s :: rest) = s.method?.toList ++ methodNames rest := by
  unfold methodNames
  rw [List.filterMap_cons]
  cases s.method? <;> rfl

/-- A method is met where it stands. -/
theorem method_sublist_functionsMet (s : Stmt) :
    s.method?.toList.Sublist (functionsMet (marks leftOut s)) := by
  cases h : s.method? with
  | none => exact List.nil_sublist _
  | some name =>
    rw [marks_of_method h]
    exact List.Sublist.refl _

theorem methodNames_sublist_functionsMet (body : List Stmt) :
    (methodNames body).Sublist (functionsMet (marksAll leftOut body)) := by
  induction body with
  | nil => exact List.Sublist.refl _
  | cons s rest ih =>
    rw [methodNames_cons, marksAll, functionsMet_append]
    exact (method_sublist_functionsMet s).append ih

/-- **No method is lost if none stands behind an inner class.** -/
theorem methodNames_sublist_of_inFront {body : List Stmt} (h : MethodsInFront leftOut body) :
    (methodNames body).Sublist (functionsInFront (marksAll leftOut body)) := by
  induction body with
  | nil => exact List.Sublist.refl _
  | cons s rest ih =>
    obtain ⟨hfirst, hrest⟩ := List.pairwise_cons.mp h
    rw [methodNames_cons, marksAll]
    by_cases hinner : .inner ∈ marks leftOut s
    · -- neither the statement with the class nor one behind it is a method
      have hself : s.method? = none := by
        cases hs : s.method? with
        | none => rfl
        | some name =>
          rw [marks_of_method hs] at hinner
          exact absurd hinner (by simp)
      have hnone : methodNames rest = [] := by
        refine List.filterMap_eq_nil_iff.mpr fun t ht => ?_
        rw [← Option.not_isSome_iff_eq_none]
        exact fun hmethod => (visible_eq_nil_iff s).mp (hfirst t ht hmethod) hinner
      rw [hself, hnone]
      exact List.nil_sublist _
    · rw [functionsInFront_append hinner]
      exact (method_sublist_functionsMet s).append (ih hrest)

/-- If all functions have different names, methods behind an inner class are lost. -/
theorem inFront_of_mem_functionsInFront {body : List Stmt}
    (hnames : (functionsMet (marksAll leftOut body)).Nodup)
    (h : ∀ name ∈ methodNames body, name ∈ functionsInFront (marksAll leftOut body)) :
    MethodsInFront leftOut body := by
  induction body with
  | nil => exact List.Pairwise.nil
  | cons s rest ih =>
    rw [marksAll, functionsMet_append, List.nodup_append] at hnames
    obtain ⟨-, hnodup, hapart⟩ := hnames
    have hmet : ∀ name ∈ methodNames rest, name ∉ functionsMet (marks leftOut s) := by
      intro name hname hmem
      exact hapart name hmem name ((methodNames_sublist_functionsMet rest).subset hname) rfl
    have hrest : ∀ name ∈ methodNames rest,
        name ∈ functionsInFront (marks leftOut s ++ marksAll leftOut rest) := by
      intro name hname
      refine h name ?_
      rw [methodNames_cons]
      exact List.mem_append_right _ hname
    by_cases hinner : .inner ∈ marks leftOut s
    · -- what the class gets, it gets from the first statement
      rw [functionsInFront_append_of_inner hinner] at hrest
      have hnone : ∀ name, name ∉ methodNames rest := fun name hname =>
        hmet name hname (functionsInFront_subset (hrest name hname))
      have hlater : MethodsInFront leftOut rest := ih hnodup fun name hname =>
        absurd hname (hnone name)
      refine List.pairwise_cons.mpr ⟨fun t ht hmethod => ?_, hlater⟩
      obtain ⟨name, hname⟩ := Option.isSome_iff_exists.mp hmethod
      exact absurd (List.mem_filterMap.mpr ⟨t, ht, hname⟩) (hnone name)
    · rw [functionsInFront_append hinner] at hrest
      have hlater : MethodsInFront leftOut rest := ih hnodup fun name hname =>
        (List.mem_append.mp (hrest name hname)).resolve_left (hmet name hname)
      exact List.pairwise_cons.mpr ⟨fun _ _ _ => (visible_eq_nil_iff s).mpr hinner, hlater⟩

end

/-! ## Marks of outlines -/

mutual

/-- What a class meets in an outline of its body. -/
def outlineMarks (leftOut : String → Bool) : Outline → List Mark
  | .classDef name _ _ _ _ => if leftOut name then [] else [.inner]
  | .function name _ _ _ => [.function name]
  | .assign .. | .annAssign .. => []
  | .other _ body => outlinesMarks leftOut body

/-- What a class meets in outlines of its body. -/
def outlinesMarks (leftOut : String → Bool) : List Outline → List Mark
  | [] => []
  | o :: rest => outlineMarks leftOut o ++ outlinesMarks leftOut rest

end

theorem outlinesMarks_append (leftOut : String → Bool) (os more : List Outline) :
    outlinesMarks leftOut (os ++ more) = outlinesMarks leftOut os ++ outlinesMarks leftOut more := by
  induction os with
  | nil => rfl
  | cons o os ih => rw [List.cons_append, outlinesMarks, outlinesMarks, ih, List.append_assoc]

/-- A class meets these marks in the outlines, from whatever number they start. -/
def Marked (leftOut : String → Bool) (m : Numbering (List Outline)) (ms : List Mark) : Prop :=
  ∀ n, outlinesMarks leftOut (m n).1 = ms

theorem Marked.append {leftOut : String → Bool} {m k : Numbering (List Outline)} {ms more : List Mark}
    (hm : Marked leftOut m ms) (hk : Marked leftOut k more) :
    Marked leftOut (do let a ← m; return a ++ (← k)) (ms ++ more) := by
  intro n
  show outlinesMarks leftOut ((m n).1 ++ (k (m n).2).1) = _
  rw [outlinesMarks_append, hm, hk]

mutual

/-- **Outlining keeps what a class meets.** -/
theorem outlineMarks_ofStmt (leftOut : String → Bool) : ∀ (s : Stmt) (n : Nat),
    outlineMarks leftOut (ofStmt s n).1 = marks leftOut s
  | .classDef _ _ _ _ _, _ => rfl
  | .functionDef true _ _ body _ _, _ => marked_ofStmtList leftOut body _
  | .functionDef false _ _ _ _ _, _ => rfl
  | .forLoop _ _ _ body orElse, _ =>
      (marked_ofStmtList leftOut body).append (marked_ofStmtList leftOut orElse) _
  | .whileLoop _ body orElse, _ =>
      (marked_ofStmtList leftOut body).append (marked_ofStmtList leftOut orElse) _
  | .conditional _ body orElse, _ =>
      (marked_ofStmtList leftOut body).append (marked_ofStmtList leftOut orElse) _
  | .withBlock _ _ body, _ => marked_ofStmtList leftOut body _
  | .matchBlock _ cases, _ => marked_ofCases leftOut cases _
  | .tryBlock _ body handlers orElse final, _ =>
      (((marked_ofStmtList leftOut body).append (marked_ofHandlers leftOut handlers)).append
        (marked_ofStmtList leftOut orElse)).append (marked_ofStmtList leftOut final) _
  | .returnValue _, _ | .delete _, _ | .assign _ _, _ | .augAssign _ _ _, _ | .annAssign _ _ _, _
  | .raise _ _, _ | .assert _ _, _ | .importModules, _ | .importFrom, _ | .globalNames, _
  | .nonlocalNames, _ | .expr _, _ | .pass, _ | .breakLoop, _ | .continueLoop, _ => rfl

theorem marked_ofStmtList (leftOut : String → Bool) : ∀ ss : List Stmt,
    Marked leftOut (ofStmtList ss) (marksAll leftOut ss)
  | [], _ => rfl
  | s :: rest, n => congrArg₂ (· ++ ·) (outlineMarks_ofStmt leftOut s n) (marked_ofStmtList leftOut rest _)

theorem marked_ofCases (leftOut : String → Bool) : ∀ cs : List MatchCase,
    Marked leftOut (ofCases cs) (marksInCases leftOut cs)
  | [], _ => rfl
  | .mk _ _ body :: rest, _ =>
      congrArg₂ (· ++ ·) (marked_ofStmtList leftOut body _) (marked_ofCases leftOut rest _)

theorem marked_ofHandlers (leftOut : String → Bool) : ∀ hs : List Handler,
    Marked leftOut (ofHandlers hs) (marksInHandlers leftOut hs)
  | [], _ => rfl
  | .mk _ body :: rest, _ =>
      congrArg₂ (· ++ ·) (marked_ofStmtList leftOut body _) (marked_ofHandlers leftOut rest _)

end

/-! ## The functions that steps give to a class -/

/-- The function that a step gives to a class. -/
def Step.function? (owner : String) : Step → Option String
  | .addFunction name new => if name = owner then some new else none
  | _ => none

/-- The functions that steps give to a class, in order. -/
def functionsIn (owner : String) (steps : List Step) : List String :=
  steps.filterMap (Step.function? owner)

theorem functionsIn_append (owner : String) (steps more : List Step) :
    functionsIn owner (steps ++ more) = functionsIn owner steps ++ functionsIn owner more :=
  List.filterMap_append

/-- A class that no other one of its name replaces gets its functions from the steps, and no more. -/
theorem foldl_touch_functions {owner : String} {steps : List Step} (h : owner ∉ arrivals steps)
    {node : ClassNode} {functions : List Method} (hnode : node.functions = some functions) :
    ∃ made, steps.foldl (Step.touch owner) (some node) = some made
      ∧ made.functions = some (functions ++ (functionsIn owner steps).map fun name => { name := name }) := by
  induction steps generalizing node functions with
  | nil => exact ⟨node, rfl, by rw [hnode]; exact congrArg some (List.append_nil _).symm⟩
  | cons s steps ih =>
    rw [arrivals_cons, List.mem_append, Option.mem_toList, not_or] at h
    rw [List.foldl_cons]
    cases s with
    | addClass new =>
      have hother : ¬ new.name = owner := fun he => h.1 (congrArg some he)
      simp only [Step.touch, if_neg hother]
      exact ih h.2 hnode
    | addAttribute name member =>
      simp only [Step.touch]
      split
      · exact ih h.2 hnode
      · exact ih h.2 hnode
    | addFunction name function =>
      by_cases hname : name = owner
      · have hadded : (node.addFunction { name := function }).functions
            = some (functions ++ [{ name := function }]) := by
          rw [ClassNode.addFunction, hnode]
          rfl
        obtain ⟨made, hmade, hfunctions⟩ := ih h.2 hadded
        refine ⟨made, ?_, ?_⟩
        · simp only [Step.touch, if_pos hname]
          exact hmade
        · rw [hfunctions, List.append_assoc]
          simp only [functionsIn, Step.function?, List.filterMap_cons, if_pos hname]
          rfl
      · simp only [Step.touch, functionsIn, Step.function?, List.filterMap_cons, if_neg hname]
        exact ih h.2 hnode
    | relate r => exact ih h.2 hnode
    | compose call r => exact ih h.2 hnode
    | depend call r => exact ih h.2 hnode

/-- The steps give no functions. -/
theorem functionsIn_eq_nil_iff {owner : String} {steps : List Step} :
    functionsIn owner steps = [] ↔ ∀ s ∈ steps, s.function? owner = none :=
  List.filterMap_eq_nil_iff

theorem functionsIn_of_inside {owner name : String} {kinds : List RelationKind} {asked : Nat → Prop}
    {steps : List Step} (h : ∀ s ∈ steps, s.Inside name kinds asked) : functionsIn owner steps = [] := by
  refine functionsIn_eq_nil_iff.mpr fun s hs => ?_
  cases h s hs <;> rfl

/-- A function of a class gives the class that function and no other one. -/
theorem functionsIn_functionSteps (owner function : String) (types : List String)
    (calls : List CallSite) (body : List Outline) :
    functionsIn owner (functionSteps owner function types calls body) = [function] := by
  have htail : functionsIn owner (functionSteps owner function types calls body).tail = [] :=
    functionsIn_of_inside (@inside_functionSteps owner (fun _ => True) function types calls body fun _ _ => trivial)
  show functionsIn owner (.addFunction owner function :: (functionSteps owner function types calls body).tail) = _
  rw [functionsIn, List.filterMap_cons, Step.function?, if_pos rfl]
  exact congrArg (function :: ·) htail

theorem Step.By.function?_eq_none {s : Step} {taker owner : String} {ids : List Nat} (h : s.By taker ids)
    (hne : taker ≠ owner) : s.function? owner = none := by
  cases s with
  | addFunction name function => exact if_neg fun he => hne (h.symm.trans he)
  | _ => rfl

/-- Outside of any class, steps give nothing to a class that does not arrive in them. -/
theorem functionsIn_of_placed {owner : String} {ids : List Nat} {steps : List Step}
    (h : ∀ s ∈ steps, Placed none ids steps s) (habsent : owner ∉ arrivals steps) :
    functionsIn owner steps = [] := by
  refine functionsIn_eq_nil_iff.mpr fun s hs => ?_
  rcases h s hs with ⟨node, rfl⟩ | ⟨taker, hby, hcurrent | harrives⟩
  · rfl
  · exact absurd hcurrent (by simp)
  · exact hby.function?_eq_none fun he => habsent (he ▸ harrives)

/-! ## What a body gives to its class -/

/-- The class gets the functions in front of the first inner class, and behind one it is not the current
class any more. -/
structure Credits (owner : String) (t : Trace) (ms : List Mark) : Prop where
  functions : functionsIn owner t.steps = functionsInFront ms
  current : t.current = if .inner ∈ ms then none else some owner

/-- A statement without inner classes leaves the class the current one. -/
theorem credits_memberTrace {owner : String} {steps : String → List Step} {ms : List Mark}
    (hinner : .inner ∉ ms) (h : functionsIn owner (steps owner) = functionsInFront ms) :
    Credits owner (memberTrace (some owner) steps) ms :=
  ⟨h, (if_neg hinner).symm⟩

mutual

/-- **A class gets the functions up to the first inner class.** -/
theorem credits_trace {config : Document} {owner : String} : ∀ o : Outline, properOutline o →
    (trace config o (some owner)).fault = none →
    (∀ c ∈ visibleOutline (leavesOut config) o, c.name ≠ owner) →
      Credits owner (trace config o (some owner)) (outlineMarks (leavesOut config) o)
  | .classDef name decorators bases calls body, hproper, hfault, hapart => by
      have hplaced := placed_trace config (.classDef name decorators bases calls body) none hproper id_mem_ids
      have harrivals := arrivals_trace config (.classDef name decorators bases calls body) (some owner)
        hproper hfault
      rw [trace] at hfault harrivals hplaced ⊢
      rw [outlineMarks]
      match hopen : opening config name decorators bases with
      | .error fault => rw [hopen] at hfault; exact absurd hfault (by simp [classTrace])
      | .ok none =>
        rw [leavesOut_of_opening hopen]
        exact ⟨rfl, rfl⟩
      | .ok (some node) =>
        rw [hopen] at hfault harrivals hplaced
        rw [leavesOut_of_opening hopen]
        constructor
        · -- all steps are by the inner class, or by classes inside of it
          refine functionsIn_of_placed hplaced fun harrives => ?_
          have hmem : owner ∈ arrivals (classTrace (some owner) bases (traceAll config body)
            (.ok (some node))).steps := harrives
          rw [harrivals] at hmem
          obtain ⟨c, hc, he⟩ := List.mem_map.mp hmem
          exact hapart c hc he
        · have hbody : (traceAll config body (some node.name)).fault = none := hfault
          simp only [classTrace, hbody]
          rfl
  | .function name types calls body, _, _, _ =>
      credits_memberTrace (by simp [outlineMarks]) (functionsIn_functionSteps owner name types calls body)
  | .assign targets value calls, _, _, _ =>
      credits_memberTrace (by simp [outlineMarks]) (functionsIn_of_inside fun _ hs =>
        (inside_assignSteps (fun _ _ => trivial) hs : Step.Inside owner [] (fun _ => True) _))
  | .annAssign target types calls, _, _, _ =>
      credits_memberTrace (by simp [outlineMarks]) (functionsIn_of_inside fun _ hs =>
        (inside_annotateSteps hs : Step.Inside owner [.composition] (fun _ => True) _))
  | .other calls body, hproper, hfault, hapart => credits_traceAll body hproper hfault hapart

theorem credits_traceAll {config : Document} {owner : String} : ∀ outlines : List Outline,
    properOutlines outlines → (traceAll config outlines (some owner)).fault = none →
    (∀ c ∈ visibleOutlines (leavesOut config) outlines, c.name ≠ owner) →
      Credits owner (traceAll config outlines (some owner)) (outlinesMarks (leavesOut config) outlines)
  | [], _, _, _ => ⟨rfl, rfl⟩
  | o :: rest, hproper, hfault, hapart => by
      have hfirst := sound_of_traceAll_cons hfault
      rw [visibleOutlines, List.forall_mem_append] at hapart
      obtain ⟨hfunctions, hcurrent⟩ := credits_trace o hproper.1 hfirst hapart.1
      rw [traceAll, Trace.andThen_of_done hfirst, hcurrent] at hfault ⊢
      rw [outlinesMarks]
      by_cases hinner : .inner ∈ outlineMarks (leavesOut config) o
      · -- from here on there is no current class, and no later class has the name
        rw [if_pos hinner] at hfault ⊢
        have habsent : owner ∉ arrivals (traceAll config rest none).steps := by
          rw [arrivals_traceAll config rest none hproper.2 hfault, List.mem_map]
          intro hmem
          obtain ⟨c, hc, he⟩ := hmem
          exact hapart.2 c hc he
        have hnone := functionsIn_of_placed (placed_traceAll config rest none hproper.2 id_mem_ids) habsent
        refine ⟨?_, ?_⟩
        · rw [functionsIn_append, hfunctions, hnone, List.append_nil,
            functionsInFront_append_of_inner hinner]
        · rw [if_pos (List.mem_append_left _ hinner)]
          exact (traceAll_current config rest none hfault).elim id id
      · rw [if_neg hinner] at hfault ⊢
        obtain ⟨hlater, hafter⟩ := credits_traceAll rest hproper.2 hfault hapart.2
        refine ⟨?_, ?_⟩
        · rw [functionsIn_append, hfunctions, hlater, functionsInFront_append hinner,
            functionsInFront_eq_met hinner]
        · rw [hafter]
          simp only [List.mem_append, hinner, false_or]

end

/-- A class that is opened has no functions yet. -/
theorem opening_functions {config : Document} {name : String} {decorators : List (Option String)}
    {bases : List String} {node : ClassNode}
    (h : opening config name decorators bases = .ok (some node)) : node.functions = some [] := by
  obtain ⟨kind, annotations, rfl⟩ := exists_of_opening h
  rfl

/-- Entering a class puts it under its name. -/
theorem foldl_touch_enterSteps (node : ClassNode) (bases : List String) (old : Option ClassNode) :
    (enterSteps node bases).foldl (Step.touch node.name) old = some node := by
  rw [enterSteps, List.foldl_append]
  exact if_pos rfl

/-- **A class by itself has the functions up to its first inner class.** -/
theorem classTraceOf_functions {config : Document} {c : ClassOutline} {t : Trace}
    (hproper : properOutlines c.body) (h : EndsWith config c t) :
    ∃ node, (classTraceOf config c).steps.foldl (Step.touch c.name) none = some node
      ∧ node.functions = some ((functionsInFront (outlinesMarks (leavesOut config) c.body)).map
        fun name => { name := name }) := by
  have hsound := h.sound
  have harrives := h.arrives
  unfold classTraceOf at hsound harrives ⊢
  match hopen : opening config c.name c.decorators c.bases with
  | .error fault => rw [hopen] at hsound; exact absurd hsound (by simp [classTrace])
  | .ok none => rw [hopen] at harrives; exact absurd harrives (by simp [classTrace, arrivals])
  | .ok (some node) =>
    have hname : node.name = c.name := opening_name hopen
    rw [hopen] at hsound
    have hbody : (traceAll config c.body (some c.name)).fault = none := hname ▸ hsound
    have habsent : c.name ∉ arrivals (traceAll config c.body (some c.name)).steps := by
      rw [arrivals_traceAll config c.body (some c.name) hproper hbody, List.mem_map]
      intro hmem
      obtain ⟨e, he, hsame⟩ := hmem
      exact h.alone e he hsame
    have hcredits := credits_traceAll c.body hproper hbody h.alone
    show ∃ made, (enterSteps node c.bases ++ (traceAll config c.body (some node.name)).steps).foldl
      (Step.touch c.name) none = some made ∧ _
    rw [← hcredits.functions, hname, List.foldl_append, ← hname, foldl_touch_enterSteps, hname]
    exact foldl_touch_functions habsent (opening_functions hopen)

/-! ## Visits of statements -/

/-- The class under a name after visits. -/
theorem visitAll_node? (config : Document) (outlines : List Outline) (st : Analysis) (name : String) :
    (visitAll config outlines st).1.graph.node? name
      = (traceAll config outlines st.current).steps.foldl (Step.touch name) (st.graph.node? name) := by
  obtain ⟨printed, hvisit⟩ := visitAll_eq_replay config outlines st
  rw [hvisit]
  exact replay_node? (traceAll config outlines st.current).steps st name

/-- A visible definition has its place among the visible outlines. -/
theorem exists_outline_of_visible {leftOut : String → Bool} {statements : List Stmt} (n : Nat)
    {before after : List ClassDefinition} {d : ClassDefinition}
    (hvisible : visibleAll leftOut statements = before ++ d :: after)
    (hlast : ∀ e ∈ after, e.name ≠ d.name) :
    ∃ front c back, visibleOutlines leftOut (ofStmts n statements).1 = front ++ c :: back
      ∧ c.Of d ∧ ∀ e ∈ back, e.name ≠ c.name := by
  have hdepicts := depicts_ofStmtList leftOut statements n
  rw [hvisible] at hdepicts
  have hback := List.forall₂_drop_append _ _ _ hdepicts
  obtain ⟨c, back, hof, hafter, hdrop⟩ := List.forall₂_cons_right_iff.mp hback
  refine ⟨(visibleOutlines leftOut (ofStmtList statements n).1).take before.length, c, back, ?_, hof, ?_⟩
  · rw [← hdrop]
    exact (List.take_append_drop before.length _).symm
  · intro e he hsame
    obtain ⟨e', he', k, rfl⟩ := exists_of_mem_forall₂ hafter he
    obtain ⟨m, rfl⟩ := hof
    exact hlast e' he' hsame

/--
**A class has the functions in front of its first inner class.**

Let visits of statements end in no fault, from whatever state they start, and let a visible definition be
the last one of its name. Afterwards the class of that name has exactly the plain functions that it meets
in its body in front of the first visible class inside of it, in order. So all methods that stand directly
in its body are among them, in order, if none of them stands behind an inner class; and if all functions
that it meets have different names, then only if none does.
-/
theorem functions_end_at_inner_class (config : Document) (statements : List Stmt) (n : Nat) (st : Analysis)
    (hran : (visitAll config (ofStmts n statements).1 st).2 = none)
    (before after : List ClassDefinition) (d : ClassDefinition)
    (hvisible : visibleAll (leavesOut config) statements = before ++ d :: after)
    (hlast : ∀ e ∈ after, e.name ≠ d.name) :
    ∃ node names, (visitAll config (ofStmts n statements).1 st).1.graph.node? d.name = some node
      ∧ node.functions = some (names.map fun name => { name := name })
      ∧ names = functionsInFront (marksAll (leavesOut config) d.body)
      ∧ (MethodsInFront (leavesOut config) d.body → (methodNames d.body).Sublist names)
      ∧ ((functionsMet (marksAll (leavesOut config) d.body)).Nodup → (methodNames d.body).Sublist names →
        MethodsInFront (leavesOut config) d.body) := by
  have hsound : (traceAll config (ofStmts n statements).1 st.current).fault = none := by
    obtain ⟨printed, hvisit⟩ := visitAll_eq_replay config (ofStmts n statements).1 st
    rw [hvisit] at hran
    exact hran
  obtain ⟨front, c, back, houtlines, ⟨m, rfl⟩, hback⟩ := exists_outline_of_visible n hvisible hlast
  have hends := last_visible_traceAll config _ st.current (proper_ofStmts n statements) hsound houtlines hback
  obtain ⟨node, hnode, hfunctions⟩ := classTraceOf_functions (proper_ofStmts m d.body) hends
  have hmarks : outlinesMarks (leavesOut config) (ofStmts m d.body).1 = marksAll (leavesOut config) d.body :=
    marked_ofStmtList (leavesOut config) d.body m
  rw [hmarks] at hfunctions
  refine ⟨node, _, ?_, hfunctions, rfl, methodNames_sublist_of_inFront, fun hnames hkept => ?_⟩
  · rw [visitAll_node?]
    exact (hends.touch _).trans hnode
  · exact inFront_of_mem_functionsInFront hnames fun name hname => hkept.subset hname

/-- A function without parameters that does nothing. -/
def idleFunction (name : String) (isAsync : Bool) (body : List Stmt) : Stmt :=
  .functionDef isAsync name (.mk [] [] none [] none) (body ++ [.pass]) [] none

/-- A class with methods, more functions in a conditional and in an asynchronous function, and behind all
of them a class with a method of its own. -/
def shelf : ClassDefinition :=
  ⟨"Shelf", [], [],
    [idleFunction "open" false [], .conditional (.name "large") [idleFunction "grow" false []] [],
      idleFunction "later" true [idleFunction "fetch" false []], idleFunction "close" false [],
      .classDef "Slot" [] [] [idleFunction "put" false []] []], []⟩

/-- A class with the shelf inside. -/
def library : ClassDefinition :=
  ⟨"Library", [], [], [shelf.stmt, idleFunction "lend" false []], []⟩

theorem shelf_methods_kept :
    (visitAll errorsLeftOut (ofStmts 0 [library.stmt]).1 {}).2 = none
      ∧ (functionsMet (marksAll (leavesOut errorsLeftOut) shelf.body)).Nodup
      ∧ MethodsInFront (leavesOut errorsLeftOut) shelf.body
      ∧ methodNames shelf.body = ["open", "close"]
      ∧ ∃ node names,
        (visitAll errorsLeftOut (ofStmts 0 [library.stmt]).1 {}).1.graph.node? "Shelf" = some node
        ∧ node.functions = some (names.map fun name => { name := name })
        ∧ names = ["open", "grow", "fetch", "close"]
        ∧ (methodNames shelf.body).Sublist names := by
  have hran : (visitAll errorsLeftOut (ofStmts 0 [library.stmt]).1 {}).2 = none :=
    Option.isNone_iff_eq_none.mp (by decide +kernel)
  have hfront : MethodsInFront (leavesOut errorsLeftOut) shelf.body := by
    simp [MethodsInFront, shelf, idleFunction, Stmt.method?, visible, visibleAll]
  obtain ⟨node, names, hnode, hfunctions, hnames, hkept, -⟩ := functions_end_at_inner_class errorsLeftOut
    [library.stmt] 0 {} hran [library] [⟨"Slot", [], [], [idleFunction "put" false []], []⟩] shelf (by rfl)
    (by simp [shelf])
  exact ⟨hran, by decide +kernel, hfront, by rfl, node, names, hnode, hfunctions,
    hnames.trans (by decide +kernel), hkept hfront⟩

/-- A class with a method in front of an inner class and one behind it. -/
def album : ClassDefinition :=
  ⟨"Album", [], [],
    [idleFunction "play" false [], .classDef "Track" [] [] [.pass] [], idleFunction "stop" false []], []⟩

/-- **The method behind the inner class is lost**, and the class inside does not get it either. -/
theorem album_loses_method :
    (visitAll errorsLeftOut (ofStmts 0 [album.stmt]).1 {}).2 = none
      ∧ (visibleAll (leavesOut errorsLeftOut) [album.stmt]).map (·.name) = ["Album", "Track"]
      ∧ methodNames album.body = ["play", "stop"]
      ∧ ((visitAll errorsLeftOut (ofStmts 0 [album.stmt]).1 {}).1.graph.node? "Album").map (·.functions)
        = some (some [{ name := "play" }])
      ∧ ((visitAll errorsLeftOut (ofStmts 0 [album.stmt]).1 {}).1.graph.node? "Track").map (·.functions)
        = some (some []) := by
  have hran : (visitAll errorsLeftOut (ofStmts 0 [album.stmt]).1 {}).2 = none :=
    Option.isNone_iff_eq_none.mp (by decide +kernel)
  exact ⟨hran, by rfl, by rfl, by decide +kernel, by decide +kernel⟩

end ClassAtlas.Proofs
