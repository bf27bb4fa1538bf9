import ClassAtlas.Proofs.Inheritance
import ClassAtlas.Proofs.LooseCalls

/-!
# Dependencies

A class depends on another by the parameters of its `__init__`, and by the loose calls in its functions.
What a class attempts by its members is exactly this (`attempts_memberSteps`), and what is attempted is
found in the second pass, as soon as the other class is there.
-/

namespace ClassAtlas.Source

/-- The statement is a plain function that makes a class depend on the name. -/
inductive Stmt.DependsOn (name : String) : Stmt → Prop
  /-- An ordinary parameter of `__init__` is annotated with the name. -/
  | parameter {parameters : Parameters} {body : List Stmt} {decorators : List Expr}
      {returns : Option Expr} {p : Parameter} : p ∈ parameters.ordinary → p.hint = some (.name name) →
      DependsOn name (.functionDef false "__init__" parameters body decorators returns)
  /-- A loose call of the name stands somewhere in the function. -/
  | call {function : String} {parameters : Parameters} {body : List Stmt} {decorators : List Expr}
      {returns : Option Expr} :
      (Stmt.functionDef false function parameters body decorators returns).CallsLoosely name →
      DependsOn name (.functionDef false function parameters body decorators returns)

end ClassAtlas.Source

namespace ClassAtlas.Proofs

open ClassAtlas Analysis Outline Source

/-! ## What the members of a class attempt -/

/-- The call has this number and makes the owner depend on what it calls, as the relation says. -/
def Asks (owner : String) (id : Nat) (r : Relation) (call : CallSite) : Prop :=
  call.id = id ∧ ∃ target, call.callee = .name target ∧ r = ⟨owner, target, .dependency⟩

theorem depend_mem_callSteps {owner : String} {calls : List CallSite} {id : Nat} {r : Relation} :
    .depend id r ∈ callSteps owner calls ↔ ∃ call ∈ calls, Asks owner id r call := by
  unfold callSteps Asks
  rw [List.mem_flatMap]
  refine exists_congr fun call => and_congr_right fun _ => ?_
  unfold dependSteps
  cases call.callee with
  | name target => simp [eq_comm]
  | member member => simp
  | other => simp

theorem depend_not_mem_composeSteps {owner : String} {value : Option CallSite} {id : Nat} {r : Relation} :
    .depend id r ∉ composeSteps owner value := by
  intro hs
  cases value with
  | none => exact absurd hs (by simp [composeSteps])
  | some call =>
    simp only [composeSteps] at hs
    split at hs
    · exact absurd hs (by simp)
    · exact absurd hs (by simp)

mutual

/-- A walk asks for all calls of plain names. -/
theorem depend_mem_walkSteps {owner : String} {id : Nat} {r : Relation} : ∀ o : Outline,
    .depend id r ∈ walkSteps owner o ↔ ∃ call ∈ outlineCalls o, Asks owner id r call
  | .classDef _ _ _ calls body => by
      simp only [walkSteps, outlineCalls, List.mem_append, or_and_right, exists_or, depend_mem_callSteps,
        depend_mem_walkAllSteps body]
  | .function _ _ calls body => by
      simp only [walkSteps, outlineCalls, List.mem_append, or_and_right, exists_or, depend_mem_callSteps,
        depend_mem_walkAllSteps body]
  | .assign targets value calls => by
      have hassign : .depend id r ∉ targets.flatMap (assignSelfSteps owner value) := by
        intro hs
        obtain ⟨target, -, hs⟩ := List.mem_flatMap.mp hs
        rcases call_assignSelfSteps target hs with hnone | hs
        · exact absurd hnone (by simp [Step.call?])
        · exact depend_not_mem_composeSteps hs
      rw [walkSteps, List.mem_append, depend_mem_callSteps]
      exact or_iff_right hassign
  | .annAssign target types calls => by
      have hannotate : .depend id r ∉ annotateSelfSteps owner types target := by
        intro hs
        have hby : Step.By owner [] (.depend id r) := by_annotateSelfSteps target hs
        exact absurd hby.2.2 (by simp)
      rw [walkSteps, List.mem_append, depend_mem_callSteps]
      exact or_iff_right hannotate
  | .other calls body => by
      simp only [walkSteps, outlineCalls, List.mem_append, or_and_right, exists_or, depend_mem_callSteps,
        depend_mem_walkAllSteps body]

theorem depend_mem_walkAllSteps {owner : String} {id : Nat} {r : Relation} : ∀ body : List Outline,
    .depend id r ∈ walkAllSteps owner body ↔ ∃ call ∈ outlinesCalls body, Asks owner id r call
  | [] => by simp [walkAllSteps, outlinesCalls]
  | o :: rest => by
      simp only [walkAllSteps, outlinesCalls, List.mem_append, or_and_right, exists_or,
        depend_mem_walkSteps o, depend_mem_walkAllSteps rest]

end

/-- A walk attempts dependencies by loose calls only. -/
theorem attempts_walkSteps {owner child target : String} (o : Outline) :
    Attempts (walkSteps owner o) ⟨child, target, .dependency⟩ ↔
      owner = child ∧ ∃ call, LooseIn owner o call ∧ call.callee = .name target := by
  constructor
  · rintro (hstated | ⟨id, hasked, hnew⟩)
    · have hinside := @inside_walkSteps owner (fun _ => True) o (fun _ _ => trivial) _ hstated
      exact absurd hinside.kind_mem (by simp)
    · obtain ⟨call, hcall, rfl, name, hname, hr⟩ := (depend_mem_walkSteps o).mp hasked
      injection hr with howner htarget _
      exact ⟨howner.symm, call, ⟨hcall, hnew⟩, htarget ▸ hname⟩
  · rintro ⟨rfl, call, ⟨hcall, hnew⟩, hname⟩
    exact Or.inr ⟨call.id, (depend_mem_walkSteps o).mpr ⟨call, hcall, rfl, target, hname, rfl⟩, hnew⟩

/-- A function attempts dependencies by the parameters of `__init__` and by loose calls. -/
theorem attempts_functionSteps {owner function child target : String} {types : List String}
    {calls : List CallSite} {body : List Outline} :
    Attempts (functionSteps owner function types calls body) ⟨child, target, .dependency⟩ ↔
      owner = child ∧ ((function = "__init__" ∧ target ∈ types)
        ∨ ∃ call, LooseIn owner (.function function types calls body) call
          ∧ call.callee = .name target) := by
  have hquiet : ∀ s ∈ Step.addFunction owner function
      :: (if function = "__init__" then parameterSteps owner types else []), s.call? = none := by
    intro s hs
    rcases List.mem_cons.mp hs with rfl | hs
    · rfl
    · split at hs
      · obtain ⟨t, -, rfl⟩ := List.mem_map.mp hs
        rfl
      · exact absurd hs (by simp)
  have hstated : .relate ⟨child, target, .dependency⟩ ∈ Step.addFunction owner function
      :: (if function = "__init__" then parameterSteps owner types else []) ↔
      owner = child ∧ function = "__init__" ∧ target ∈ types := by
    by_cases hinit : function = "__init__"
    · simp only [hinit, if_true, List.mem_cons, reduceCtorEq, false_or, true_and]
      constructor
      · intro hs
        obtain ⟨t, ht, he⟩ := List.mem_map.mp hs
        injection he with he
        injection he with howner htarget _
        exact ⟨howner, htarget ▸ ht⟩
      · rintro ⟨rfl, ht⟩
        exact List.mem_map_of_mem ht
    · simp [hinit]
  rw [functionSteps, List.append_assoc, attempts_quiet_append hquiet, hstated, and_or_left]
  exact or_congr_right (attempts_walkSteps (.function function types calls body))

/-- A parameter's annotation counts if it is a plain name. -/
theorem mem_parameterTypes {name : String} (parameters : Parameters) :
    name ∈ parameterTypes parameters ↔ ∃ p ∈ parameters.ordinary, p.hint = some (.name name) := by
  obtain ⟨positional, ordinary, rest, named, others⟩ := parameters
  unfold parameterTypes
  rw [List.mem_filterMap]
  refine exists_congr fun p => and_congr_right fun _ => ?_
  obtain ⟨_, hint, _⟩ := p
  cases hint with
  | none => simp [Parameter.hint]
  | some e =>
    cases e with
    | name id => simp [Parameter.hint, nameOf?]
    | _ => simp [Parameter.hint, nameOf?]

/-- A function depends on a name by the parameters of `__init__` or by a loose call. -/
theorem dependsOn_functionDef {function : String} {parameters : Parameters} {body : List Stmt}
    {decorators : List Expr} {returns : Option Expr} {name : String} :
    (Stmt.functionDef false function parameters body decorators returns).DependsOn name ↔
      (function = "__init__" ∧ name ∈ parameterTypes parameters)
        ∨ (Stmt.functionDef false function parameters body decorators returns).CallsLoosely name := by
  rw [mem_parameterTypes]
  constructor
  · intro h
    cases h with
    | parameter hp hhint => exact Or.inl ⟨rfl, _, hp, hhint⟩
    | call hcalls => exact Or.inr hcalls
  · rintro (⟨rfl, p, hp, hhint⟩ | hcalls)
    · exact .parameter hp hhint
    · exact .call hcalls

/-- **A class depends on another by a member iff that is a function that depends on it.** -/
theorem attempts_memberSteps {owner child target : String} (t : Stmt) (k : Nat) (hmember : t.IsMember) :
    Attempts (memberSteps owner (ofStmt t k).1) ⟨child, target, .dependency⟩ ↔
      owner = child ∧ t.DependsOn target := by
  cases t with
  | functionDef isAsync function parameters body decorators returns =>
    have hsync : isAsync = false := hmember
    subst hsync
    have hloose := frees_ofStmt owner target
      (.functionDef false function parameters body decorators returns) k
    simp only [List.not_mem_nil, false_and, exists_false, false_or, List.mem_singleton,
      exists_eq_left] at hloose
    rw [dependsOn_functionDef, ← hloose]
    exact attempts_functionSteps
  | assign targets value =>
    refine iff_of_false ?_ fun h => nomatch h.2
    rintro (hstated | ⟨id, hasked, -⟩)
    · have hinside : Step.Inside owner [] (fun _ => True) _ := inside_assignSteps (fun _ _ => trivial) hstated
      exact absurd hinside.kind_mem List.not_mem_nil
    · rcases call_assignSteps hasked with hnone | hs
      · exact absurd hnone (by simp [Step.call?])
      · exact depend_not_mem_composeSteps hs
  | annAssign annotated annotation value =>
    refine iff_of_false ?_ fun h => nomatch h.2
    rintro (hstated | ⟨id, hasked, -⟩)
    · have hinside : Step.Inside owner [.composition] (fun _ => True) _ := inside_annotateSteps hstated
      exact absurd hinside.kind_mem (by simp)
    · have hby : Step.By owner [] (.depend id ⟨child, target, .dependency⟩) := by_annotateSteps hasked
      exact absurd hby.2.2 (by simp)
  | _ => exact hmember.elim

/-! ## Two passes -/

/-- Whenever the steps ask for one of the calls, from this state on, nothing comes of it. -/
def AsksInVain (steps : List Step) (calls : List Nat) (st : Analysis) : Prop :=
  ∀ done call r rest, steps = done ++ .depend call r :: rest → call ∈ calls →
    (Step.depend call r).apply (replay done st) = replay done st

/-- Tame steps ask in vain for the calls that they remember. -/
theorem Tame.asksInVain {steps : List Step} (h : Tame steps) (st : Analysis) :
    AsksInVain steps (remembered steps) st := by
  rintro done call r rest rfl hcall
  have hlater := (List.pairwise_cons.mp (List.pairwise_append.mp h).2.1).1
  have hdone : call ∈ remembered done := by
    rw [remembered_append, List.mem_append] at hcall
    rcases hcall with hcall | hcall
    · exact hcall
    · -- a later step that remembers the call would have to be this very step
      rw [remembered_cons] at hcall
      obtain ⟨t, ht, hrem⟩ := mem_remembered.mp hcall
      have he := hlater t ht call hrem rfl
      rw [← he] at hrem
      exact absurd hrem (by simp [Step.remembered?])
  have hcomposed : (replay done st).composed.contains call = true :=
    List.contains_iff_mem.mpr (mem_composed_replay.mpr (Or.inl hdone))
  rw [Step.apply, if_pos hcomposed]

/-- The calls that two passes remember are those that the steps of one pass do. -/
theorem mem_composed_twoPasses {config : Document} {modules : List (List Stmt)}
    (h : ∀ s ∈ modules.flatten, Sound config s) {call : Nat} :
    call ∈ (twoPasses config modules).1.composed ↔
      call ∈ remembered (passSteps config (ofStmts 0 modules.flatten).1) := by
  obtain ⟨printed, htwice⟩ := visitTwice_eq_replay ((ofStmts_sound_iff config modules.flatten).mpr h)
  rw [twoPasses, htwice]
  show call ∈ (replay _ (replay _ {})).composed ↔ _
  rw [mem_composed_replay, mem_composed_replay]
  simp

theorem isMember_of_dependsOn {name : String} {f : Stmt} (h : f.DependsOn name) : f.IsMember := by
  cases h with
  | parameter => rfl
  | call => rfl

/--
**A class depends on another iff a parameter of its `__init__` or a loose call in one of its functions
says so.**

Let no visit end in a fault, and let no visible class stand inside of another. Then, after two passes,
there is a dependency from one name to another iff there is a class of the second name and some visible
definition of the first has a plain function that depends on it. No call that is recorded as a composition
makes a dependency: when it is asked for, in either pass, nothing changes.
-/
theorem dependency_iff_parameter_or_loose_call (config : Document) (modules : List (List Stmt))
    (hran : (twoPasses config modules).2 = none)
    (hflat : ∀ d ∈ visibleAll (leavesOut config) modules.flatten,
      visibleAll (leavesOut config) d.body = []) :
    (∀ child target, ⟨child, target, .dependency⟩ ∈ (twoPasses config modules).1.graph.relations ↔
        target ∈ (twoPasses config modules).1.graph.names
          ∧ ∃ d ∈ visibleAll (leavesOut config) modules.flatten, d.name = child
            ∧ ∃ s ∈ d.body, ∃ f, Stmt.Within Stmt.IsOpen s f ∧ f.DependsOn target)
      ∧ ∀ st ∈ [({} : Analysis), replay (passSteps config (ofStmts 0 modules.flatten).1) {}],
        AsksInVain (passSteps config (ofStmts 0 modules.flatten).1)
          (twoPasses config modules).1.composed st := by
  have hsound := (twoPasses_sound_iff config modules).mp hran
  refine ⟨fun child target => ?_, fun st _ done call r rest hsplit hcall => ?_⟩
  · rw [mem_relations_iff_attempts hsound (by simp)]
    refine and_congr_right fun _ => ?_
    have hstmt : ∀ s ∈ modules.flatten,
        (Attempts (stmtSteps config s) ⟨child, target, .dependency⟩ ↔
          ∃ d ∈ visible (leavesOut config) s, ∃ u ∈ d.body, ∃ f, Stmt.Within Stmt.IsOpen u f
            ∧ f.IsMember ∧ d.name = child ∧ f.DependsOn target) := fun s hs =>
      attempts_stmtSteps_iff (by simp) (fun _ => attempts_memberSteps) (hsound s hs)
        fun d hd => hflat d (mem_visibleAll.mpr ⟨s, hs, hd⟩)
    constructor
    · rintro ⟨s, hs, hattempts⟩
      obtain ⟨d, hd, u, hu, f, hwithin, -, hname, hdepends⟩ := (hstmt s hs).mp hattempts
      exact ⟨d, mem_visibleAll.mpr ⟨s, hs, hd⟩, hname, u, hu, f, hwithin, hdepends⟩
    · rintro ⟨d, hd, hname, u, hu, f, hwithin, hdepends⟩
      obtain ⟨s, hs, hd⟩ := mem_visibleAll.mp hd
      exact ⟨s, hs, (hstmt s hs).mpr
        ⟨d, hd, u, hu, f, hwithin, isMember_of_dependsOn hdepends, hname, hdepends⟩⟩
  · have htame : Tame (passSteps config (ofStmts 0 modules.flatten).1) := by
      rw [passSteps_ofStmts hsound]
      exact tame_numberedSteps config modules.flatten
    exact htame.asksInVain st done call r rest hsplit ((mem_composed_twoPasses hsound).mp hcall)

/-- Keeps what a parameter names; another call is an argument of the value that is assigned. -/
def assemble : Stmt :=
  .functionDef false "__init__"
    (.mk [] [.mk "self" none none, .mk "wheel" (some (.name "Wheel")) none] none [] none)
    [.assign [.member (.name "self") "wheel"] (.call (.name "Wheel") [.call (.name "Spoke") [] []] []),
      .assign [.member (.name "self") "bell"] (.call (.name "Bell") [] [])] [] none

/-- Stands in an asynchronous function; the call is in a default of an inner function. -/
def lend : Stmt :=
  .functionDef false "lend" (.mk [] [] none [] none)
    [.functionDef false "on" (.mk [] [.mk "day" none (some (.call (.name "Day") [] []))] none [] none)
      [.pass] [] none] [] none

/-- A class with both, and the classes that it mentions. -/
def bicycle : ClassDefinition :=
  ⟨"Bicycle", [], [],
    [assemble, .functionDef true "rent" (.mk [] [] none [] none) [lend] [] none], []⟩

/-- The modules with these classes; those that are mentioned come later. -/
def workshop : List (List Stmt) :=
  [[bicycle.stmt], ["Wheel", "Spoke", "Bell", "Day"].map fun name => .classDef name [] [] [.pass] []]

theorem workshop_dependencies :
    (twoPasses errorsLeftOut workshop).2 = none
      ∧ (∀ d ∈ visibleAll (leavesOut errorsLeftOut) workshop.flatten,
        visibleAll (leavesOut errorsLeftOut) d.body = [])
      ∧ ⟨"Bicycle", "Wheel", .dependency⟩ ∈ (twoPasses errorsLeftOut workshop).1.graph.relations
      ∧ ⟨"Bicycle", "Spoke", .dependency⟩ ∈ (twoPasses errorsLeftOut workshop).1.graph.relations
      ∧ ⟨"Bicycle", "Day", .dependency⟩ ∈ (twoPasses errorsLeftOut workshop).1.graph.relations
      ∧ ⟨"Bicycle", "Bell", .dependency⟩ ∉ (twoPasses errorsLeftOut workshop).1.graph.relations
      ∧ (twoPasses errorsLeftOut workshop).1.composed ≠ [] := by
  have hran : (twoPasses errorsLeftOut workshop).2 = none := by decide +kernel
  have hvisible : visibleAll (leavesOut errorsLeftOut) workshop.flatten
      = bicycle :: ["Wheel", "Spoke", "Bell", "Day"].map fun name => ⟨name, [], [], [.pass], []⟩ := by
    rfl
  have hflat : ∀ d ∈ visibleAll (leavesOut errorsLeftOut) workshop.flatten,
      visibleAll (leavesOut errorsLeftOut) d.body = [] := by
    rw [hvisible]
    simp only [List.map_cons, List.map_nil, List.forall_mem_cons]
    exact ⟨rfl, rfl, rfl, rfl, rfl, by simp⟩
  have hnames : (twoPasses errorsLeftOut workshop).1.graph.names
      = ["Bicycle", "Wheel", "Spoke", "Bell", "Day"] := by decide +kernel
  have hiff := (dependency_iff_parameter_or_loose_call errorsLeftOut workshop hran hflat).1 "Bicycle"
  have hbicycle : bicycle ∈ visibleAll (leavesOut errorsLeftOut) workshop.flatten := by
    rw [hvisible]
    exact List.mem_cons_self
  rw [hnames] at hiff
  have hspoke : assemble.CallsLoosely "Spoke" :=
    ⟨_, .inside trivial List.mem_cons_self (.self _), .call (.name "Spoke") [] [],
      by simp [Stmt.looseExpressions, Expr.isSelfAttribute, Expr.parts], [], [], .self _⟩
  have hday : lend.CallsLoosely "Day" :=
    ⟨_, .inside trivial List.mem_cons_self (.self _), .call (.name "Day") [] [],
      by simp [Stmt.looseExpressions, Stmt.expressions, Parameters.parts, Parameter.parts], [], [], .self _⟩
  refine ⟨hran, hflat, (hiff "Wheel").mpr ⟨by simp, bicycle, hbicycle, rfl, ?_⟩,
    (hiff "Spoke").mpr ⟨by simp, bicycle, hbicycle, rfl, ?_⟩,
    (hiff "Day").mpr ⟨by simp, bicycle, hbicycle, rfl, ?_⟩, by decide +kernel, by decide +kernel⟩
  · exact ⟨assemble, List.mem_cons_self, assemble, .self _,
      .parameter (List.mem_cons_of_mem _ List.mem_cons_self) rfl⟩
  · exact ⟨assemble, List.mem_cons_self, assemble, .self _, .call hspoke⟩
  · -- the function is reached through the asynchronous one around it
    exact ⟨_, List.mem_cons_of_mem _ List.mem_cons_self, lend, .inside rfl List.mem_cons_self (.self _),
      .call hday⟩

end ClassAtlas.Proofs
