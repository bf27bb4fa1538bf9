import ClassAtlas.Analysis

/-!
# A visit as a list of steps

A visit reads the state of an analysis in three places only: the current class, the known classes when
a relation is tried, and the remembered calls. The first of the three is fixed by the statement itself,
so a visit is a list of *steps* that depends on the syntax and the configuration alone, replayed on
whatever state there is.

`trace` computes that list, together with the current class afterwards and the fault that ended the
visit, if one did. `visit_eq_replay` says that it is exact. Everything that is proved about visits is
proved about replayed steps.
-/

namespace ClassAtlas.Proofs

open ClassAtlas Analysis

/-- One elementary change of an analysis. -/
inductive Step where
  /-- A class arrives, perhaps in the place of an older one of its name. -/
  | addClass (node : ClassNode)
  /-- A class gets an attribute. -/
  | addAttribute (name member : String)
  /-- A class gets a function. -/
  | addFunction (name function : String)
  /-- A relation is tried. -/
  | relate (r : Relation)
  /-- A relation is tried for an assigned call, unless the call is remembered; from now on it is. -/
  | compose (call : Nat) (r : Relation)
  /-- A relation is tried for a call, unless the call is remembered. -/
  | depend (call : Nat) (r : Relation)

/-- What a step does. -/
def Step.apply (st : Analysis) : Step → Analysis
  | .addClass node => { st with graph := st.graph.addNode node }
  | .addAttribute name member => st.addAttribute name member
  | .addFunction name function =>
    { st with graph := st.graph.modifyNode name (·.addFunction { name := function }) }
  | .relate r => { st with graph := st.graph.addRelation r }
  | .compose call r =>
    if st.composed.contains call then st
    else { st with graph := st.graph.addRelation r, composed := call :: st.composed }
  | .depend call r =>
    if st.composed.contains call then st else { st with graph := st.graph.addRelation r }

/-- Does steps one after the other. -/
def replay (steps : List Step) (st : Analysis) : Analysis :=
  steps.foldl Step.apply st

@[simp] theorem replay_nil (st : Analysis) : replay [] st = st := rfl

@[simp] theorem replay_cons (s : Step) (steps : List Step) (st : Analysis) :
    replay (s :: steps) st = replay steps (s.apply st) := rfl

@[simp] theorem replay_append (steps more : List Step) (st : Analysis) :
    replay (steps ++ more) st = replay more (replay steps st) :=
  List.foldl_append

/-- Replaying one step for each element of a list is a loop. -/
theorem replay_map {α : Type} (g : α → Step) (l : List α) (st : Analysis) :
    replay (l.map g) st = l.foldl (fun st a => (g a).apply st) st :=
  List.foldl_map

@[simp] theorem apply_current (s : Step) (st : Analysis) : (s.apply st).current = st.current := by
  cases s <;> simp only [Step.apply, addAttribute] <;> split <;> rfl

@[simp] theorem replay_current (steps : List Step) (st : Analysis) :
    (replay steps st).current = st.current := by
  induction steps generalizing st with
  | nil => rfl
  | cons s steps ih => rw [replay_cons, ih, apply_current]

/-- A state with another current class and other printed text. -/
def situated (st : Analysis) (current : Option String) (printed : String) : Analysis :=
  { st with current := current, printed := printed }

/-- Steps look neither at the current class nor at the printed text. -/
theorem apply_situated (s : Step) (st : Analysis) (current : Option String) (printed : String) :
    s.apply (situated st current printed) = situated (s.apply st) current printed := by
  cases s with
  | compose call r =>
      by_cases h : st.composed.contains call = true
      · simp only [Step.apply, situated, h, if_true]
      · simp only [Step.apply, situated, h, Bool.false_eq_true, if_false]
  | depend call r =>
      by_cases h : st.composed.contains call = true
      · simp only [Step.apply, situated, h, if_true]
      · simp only [Step.apply, situated, h, Bool.false_eq_true, if_false]
  | addClass node => rfl
  | addAttribute name member => rfl
  | addFunction name function => rfl
  | relate r => rfl

theorem replay_situated (steps : List Step) (st : Analysis) (current : Option String)
    (printed : String) :
    replay steps (situated st current printed) = situated (replay steps st) current printed := by
  induction steps generalizing st with
  | nil => rfl
  | cons s steps ih => rw [replay_cons, apply_situated, ih, replay_cons]

theorem situated_replay (steps : List Step) (st : Analysis) :
    situated (replay steps st) st.current st.printed = replay steps st := by
  rw [← replay_situated]
  rfl

/-! ## Opening a class

What becomes of a class definition depends on the configuration, but not on what was printed. -/

/-- The rules for class definitions, or the fault in reading them. -/
def rulesOf (config : Document) : Except Fault ClassRules := do
  let pattern ← Config.entry ((config.find? "exception").getD Document.empty) "name"
  let types ← Config.entry ((config.find? "exclude").getD Document.empty) "types"
  return ⟨pattern, ← Config.holds types "exception"⟩

/-- The class that a definition makes, nothing if it is left out, or a fault. -/
def opening (config : Document) (name : String) (decorators : List (Option String))
    (bases : List String) : Except Fault (Option ClassNode) := do
  let rules ← rulesOf config
  if ← rules.skips name then return none
  else return some (← classNode rules name decorators bases)

/-- An action ends in this way whatever was printed before. -/
def Gives {α : Type} (a : Action α) (result : Except Fault α) : Prop :=
  ∀ printed, (a printed).1 = result

section
variable {α β σ : Type} {a : ExceptT Fault (StateM σ) α} {f : α → ExceptT Fault (StateM σ) β} {before after : σ}

theorem bind_of_ok {v : α} (h : a before = (.ok v, after)) : (a >>= f) before = f v after := by
  simp only [bind, ExceptT.bind, ExceptT.mk, StateT.bind]
  rw [h]
  rfl

theorem bind_of_error {fault : Fault} (h : a before = (.error fault, after)) :
    (a >>= f) before = (.error fault, after) := by
  simp only [bind, ExceptT.bind, ExceptT.mk, StateT.bind]
  rw [h]
  rfl

end

theorem ofExcept_bind {α β : Type} (v : α) (f : α → Action β) (printed : String) :
    (Action.ofExcept (.ok v) >>= f) printed = f v printed := rfl

theorem ofExcept_error_bind {α β : Type} (fault : Fault) (f : α → Action β) (printed : String) :
    (Action.ofExcept (.error fault) >>= f) printed = (.error fault, printed) := rfl

theorem gives_ofExcept {α : Type} (r : Except Fault α) : Gives (Action.ofExcept r) r :=
  fun _ => rfl

theorem gives_bind {α β : Type} {a : Action α} {f : α → Action β} {x : Except Fault α}
    {g : α → Except Fault β} (ha : Gives a x) (hf : ∀ v, Gives (f v) (g v)) :
    Gives (a >>= f) (x >>= g) := by
  intro printed
  have hp : a printed = (x, (a printed).2) := Prod.ext (ha printed) rfl
  cases x with
  | error fault => rw [bind_of_error hp]; rfl
  | ok v => rw [bind_of_ok hp]; exact hf v _

theorem gives_outcome {α : Type} {a : Action α} {r : Except Fault α} (h : Gives a r) : Gives a a.outcome.1 :=
  fun printed => (h printed).trans (h "").symm

theorem gives_outcome_bind {α β : Type} {a : Action α} {f : α → Action β} (ha : Gives a a.outcome.1)
    (hf : ∀ v, Gives (f v) (f v).outcome.1) : Gives (a >>= f) (a >>= f).outcome.1 :=
  gives_outcome (gives_bind ha hf)

theorem gives_bind_ok {α β : Type} {a : Action α} {f : α → Action β} {v : α}
    {y : Except Fault β} (ha : Gives a (.ok v)) (hf : Gives (f v) y) : Gives (a >>= f) y := by
  intro printed
  have hp : a printed = (.ok v, (a printed).2) := Prod.ext (ha printed) rfl
  rw [bind_of_ok hp]
  exact hf _

theorem gives_get (config : Document) (key : String) :
    Gives (Config.get config key) (.ok ((config.find? key).getD Document.empty)) := by
  intro printed
  unfold Config.get
  cases config.find? key with
  | none => rfl
  | some d => rfl

theorem gives_classRules (config : Document) : Gives (classRules config) (rulesOf config) := by
  refine gives_bind_ok (gives_get config "exception") ?_
  refine gives_bind (gives_ofExcept _) fun pattern => ?_
  refine gives_bind_ok (gives_get config "exclude") ?_
  refine gives_bind (gives_ofExcept _) fun types => ?_
  exact gives_bind (gives_ofExcept _) fun skips => fun _ => rfl

/-- **Opening a class does not depend on what was printed.** -/
theorem gives_openClass (config : Document) (name : String) (decorators : List (Option String))
    (bases : List String) :
    Gives (openClass config name decorators bases) (opening config name decorators bases) := by
  refine gives_bind (gives_classRules config) fun rules => ?_
  refine gives_bind (gives_ofExcept _) fun skipped => ?_
  cases skipped with
  | true => exact fun _ => rfl
  | false => exact gives_bind (gives_ofExcept _) fun node => fun _ => rfl

theorem bind_eq_ok {α β : Type} {x : Except Fault α} {f : α → Except Fault β} {b : β}
    (h : x >>= f = .ok b) : ∃ a, x = .ok a ∧ f a = .ok b := by
  cases x with
  | error fault => exact absurd h (by simp [bind, Except.bind])
  | ok a => exact ⟨a, rfl, h⟩

/-- A class that is opened is made by the rules. -/
theorem classNode_of_opening {config : Document} {name : String} {decorators : List (Option String)}
    {bases : List String} {node : ClassNode}
    (h : opening config name decorators bases = .ok (some node)) :
    ∃ rules, rulesOf config = .ok rules ∧ classNode rules name decorators bases = .ok node := by
  obtain ⟨rules, hrules, h⟩ := bind_eq_ok h
  obtain ⟨skipped, -, h⟩ := bind_eq_ok h
  cases skipped with
  | true => exact absurd h (by simp [pure, Except.pure])
  | false =>
    obtain ⟨made, hmade, h⟩ := bind_eq_ok h
    injection h with h
    injection h with h
    exact ⟨rules, hrules, h ▸ hmade⟩

/-- The parts of a class that is made. -/
theorem eq_of_classNode {rules : ClassRules} {name : String} {decorators : List (Option String)}
    {bases : List String} {node : ClassNode} (h : classNode rules name decorators bases = .ok node) :
    ∃ annotations kind, decoratorTexts decorators = .ok annotations
      ∧ kindOf rules name annotations = .ok kind
      ∧ node = { name := name, kind := bases.foldl kindFromBase kind, annotations := some annotations } := by
  obtain ⟨annotations, hannotations, h⟩ := bind_eq_ok h
  obtain ⟨kind, hkind, h⟩ := bind_eq_ok h
  injection h with h
  exact ⟨annotations, kind, hannotations, hkind, h.symm⟩

/-- A class that is opened has a name, a kind and annotations, and nothing else yet. -/
theorem exists_of_opening {config : Document} {name : String} {decorators : List (Option String)}
    {bases : List String} {node : ClassNode}
    (h : opening config name decorators bases = .ok (some node)) :
    ∃ kind annotations, node = { name := name, kind := kind, annotations := annotations } := by
  obtain ⟨rules, -, hmade⟩ := classNode_of_opening h
  obtain ⟨annotations, kind, -, -, hnode⟩ := eq_of_classNode hmade
  exact ⟨_, _, hnode⟩

/-- A class that is opened has the name of its definition. -/
theorem opening_name {config : Document} {name : String} {decorators : List (Option String)}
    {bases : List String} {node : ClassNode}
    (h : opening config name decorators bases = .ok (some node)) : node.name = name := by
  obtain ⟨kind, annotations, rfl⟩ := exists_of_opening h
  rfl

/-! ## The steps of a statement inside of a class -/

/-- A call as an assigned value. -/
def composeSteps (name : String) : Option CallSite → List Step
  | none => []
  | some call =>
    match calledClass? call.callee with
    | none => []
    | some target => [.compose call.id ⟨name, target, .composition⟩]

/-- A target `self.name`. -/
def assignSelfSteps (name : String) (value : Option CallSite) : Target → List Step
  | .selfAttribute member => .addAttribute name member :: composeSteps name value
  | _ => []

/-- A target in the body of a class. -/
def assignTargetSteps (name : String) (value : Option CallSite) : Target → List Step
  | .name id => [.addAttribute name id]
  | target => assignSelfSteps name value target

/-- An assignment in the body of a class. -/
def assignSteps (name : String) (targets : List Target) (value : Option CallSite) : List Step :=
  targets.flatMap (assignTargetSteps name value)
    ++ if targets.any isSelf then [] else composeSteps name value

/-- The relations that an annotation stands for. -/
def typeSteps (name : String) (types : List String) : List Step :=
  types.flatMap fun t => if basicTypes.contains t then [] else [.relate ⟨name, t, .composition⟩]

/-- An annotated assignment in a function of a class. -/
def annotateSelfSteps (name : String) (types : List String) : Target → List Step
  | .selfAttribute member => .addAttribute name member :: typeSteps name types
  | _ => []

/-- An annotated assignment in the body of a class. -/
def annotateSteps (name : String) (types : List String) : Target → List Step
  | .name id => .addAttribute name id :: typeSteps name types
  | target => annotateSelfSteps name types target

/-- A call in a function of a class. -/
def dependSteps (name : String) (call : CallSite) : List Step :=
  match call.callee with
  | .name target => [.depend call.id ⟨name, target, .dependency⟩]
  | _ => []

/-- Calls in a function of a class. -/
def callSteps (name : String) (calls : List CallSite) : List Step :=
  calls.flatMap (dependSteps name)

mutual

/-- Everything inside of a function of a class, at any depth. -/
def walkSteps (name : String) : Outline → List Step
  | .classDef _ _ _ calls body => callSteps name calls ++ walkAllSteps name body
  | .function _ _ calls body => callSteps name calls ++ walkAllSteps name body
  | .assign targets value calls =>
    targets.flatMap (assignSelfSteps name value) ++ callSteps name calls
  | .annAssign target types calls => annotateSelfSteps name types target ++ callSteps name calls
  | .other calls body => callSteps name calls ++ walkAllSteps name body

/-- Everything inside of several statements. -/
def walkAllSteps (name : String) : List Outline → List Step
  | [] => []
  | o :: rest => walkSteps name o ++ walkAllSteps name rest

end

/-- The types of the parameters of `__init__`. -/
def parameterSteps (name : String) (types : List String) : List Step :=
  types.map fun t => .relate ⟨name, t, .dependency⟩

/-- A function of a class. -/
def functionSteps (name function : String) (types : List String) (calls : List CallSite)
    (body : List Outline) : List Step :=
  .addFunction name function :: (if function = "__init__" then parameterSteps name types else [])
    ++ callSteps name calls ++ walkAllSteps name body

/-- Entering a class: its relations to its bases, then the class itself. -/
def enterSteps (node : ClassNode) (bases : List String) : List Step :=
  (bases.map fun base => .relate ⟨node.name, base, .inheritance⟩) ++ [.addClass node]

/-! ## Traces -/

/-- What a visit does: its steps, the current class after it, and the fault that ended it. -/
structure Trace where
  steps : List Step
  current : Option String
  fault : Option Fault

/-- A trace goes on from the current class that it left, unless it ended in a fault. -/
def Trace.andThen (t : Trace) (next : Option String → Trace) : Trace :=
  match t.fault with
  | some _ => t
  | none => ⟨t.steps ++ (next t.current).steps, (next t.current).current, (next t.current).fault⟩

theorem Trace.andThen_of_fault {t : Trace} {fault : Fault} (h : t.fault = some fault)
    (next : Option String → Trace) : t.andThen next = t := by
  rw [Trace.andThen, h]

theorem Trace.andThen_of_done {t : Trace} (h : t.fault = none) (next : Option String → Trace) :
    t.andThen next
      = ⟨t.steps ++ (next t.current).steps, (next t.current).current, (next t.current).fault⟩ := by
  rw [Trace.andThen, h]

/-- The trace of a class definition, by what becomes of it and the trace of its body. -/
def classTrace (current : Option String) (bases : List String) (inner : Option String → Trace) :
    Except Fault (Option ClassNode) → Trace
  | .error fault => ⟨[], current, some fault⟩
  | .ok none => ⟨[], current, none⟩
  | .ok (some node) =>
    let t := inner (some node.name)
    ⟨enterSteps node bases ++ t.steps, if t.fault.isSome then t.current else none, t.fault⟩

/-- The trace of a statement that adds to the current class, if there is one. -/
def memberTrace (current : Option String) (steps : String → List Step) : Trace :=
  ⟨(current.map steps).getD [], current, none⟩

mutual

/-- The trace of a visit, from a current class. -/
def trace (config : Document) : Outline → Option String → Trace
  | .classDef name decorators bases _ body, current =>
    classTrace current bases (traceAll config body) (opening config name decorators bases)
  | .function name types calls body, current =>
    memberTrace current fun c => functionSteps c name types calls body
  | .assign targets value _, current => memberTrace current fun c => assignSteps c targets value
  | .annAssign target types _, current => memberTrace current fun c => annotateSteps c types target
  | .other _ body, current => traceAll config body current

/-- The trace of visits one after the other. -/
def traceAll (config : Document) : List Outline → Option String → Trace
  | [], current => ⟨[], current, none⟩
  | o :: rest, current => (trace config o current).andThen (traceAll config rest)

end

/-! ## Every rule replays its steps -/

/-- A loop of replays is the replay of all their steps. -/
theorem foldl_eq_replay {α : Type} {f : Analysis → α → Analysis} {g : α → List Step}
    (h : ∀ st a, f st a = replay (g a) st) (l : List α) (st : Analysis) :
    l.foldl f st = replay (l.flatMap g) st := by
  induction l generalizing st with
  | nil => rfl
  | cons a l ih => rw [List.foldl_cons, h, ih, List.flatMap_cons, replay_append]

theorem compose_eq_replay (st : Analysis) (name : String) (value : Option CallSite) :
    st.compose name value = replay (composeSteps name value) st := by
  cases value with
  | none => rfl
  | some call =>
    simp only [compose, composeSteps]
    cases calledClass? call.callee with
    | none => rfl
    | some target => rfl

theorem assignSelf_eq_replay (st : Analysis) (name : String) (value : Option CallSite)
    (target : Target) :
    st.assignSelf name value target = replay (assignSelfSteps name value target) st := by
  cases target with
  | selfAttribute member => exact compose_eq_replay _ name value
  | name id => rfl
  | other => rfl

theorem assignTarget_eq_replay (st : Analysis) (name : String) (value : Option CallSite)
    (target : Target) :
    st.assignTarget name value target = replay (assignTargetSteps name value target) st := by
  cases target with
  | selfAttribute member => exact assignSelf_eq_replay st name value (.selfAttribute member)
  | name id => rfl
  | other => rfl

theorem assignInClass_eq_replay (st : Analysis) (targets : List Target) (value : Option CallSite) :
    st.assignInClass targets value
      = replay (memberTrace st.current fun c => assignSteps c targets value).steps st := by
  unfold assignInClass
  cases st.current with
  | none => rfl
  | some name =>
    simp only [memberTrace, Option.map_some, Option.getD_some, assignSteps, replay_append]
    rw [foldl_eq_replay fun st t => assignTarget_eq_replay st name value t]
    split
    · rfl
    · exact compose_eq_replay _ name value

theorem assignInFunction_eq_replay {st : Analysis} {name : String} (h : st.current = some name)
    (targets : List Target) (value : Option CallSite) :
    st.assignInFunction targets value = replay (targets.flatMap (assignSelfSteps name value)) st := by
  unfold assignInFunction
  rw [h]
  exact foldl_eq_replay (fun st t => assignSelf_eq_replay st name value t) targets st

theorem composeTypes_eq_replay (st : Analysis) (name : String) (types : List String) :
    st.composeTypes name types = replay (typeSteps name types) st := by
  refine foldl_eq_replay (fun st t => ?_) types st
  split <;> rfl

theorem annotateInFunction_eq_replay {st : Analysis} {name : String} (h : st.current = some name)
    (target : Target) (types : List String) :
    st.annotateInFunction target types = replay (annotateSelfSteps name types target) st := by
  unfold annotateInFunction
  rw [h]
  cases target with
  | selfAttribute member => exact composeTypes_eq_replay _ name types
  | name id => rfl
  | other => rfl

theorem annotateInClass_eq_replay (st : Analysis) (target : Target) (types : List String) :
    st.annotateInClass target types
      = replay (memberTrace st.current fun c => annotateSteps c types target).steps st := by
  unfold annotateInClass
  cases st.current with
  | none => cases target <;> rfl
  | some name =>
    cases target with
    | selfAttribute member => exact composeTypes_eq_replay _ name types
    | name id => exact composeTypes_eq_replay _ name types
    | other => rfl

theorem dependOnCalls_eq_replay (st : Analysis) (name : String) (calls : List CallSite) :
    st.dependOnCalls name calls = replay (callSteps name calls) st := by
  refine foldl_eq_replay (fun st call => ?_) calls st
  unfold dependOnCall dependSteps
  cases call.callee with
  | name target => rfl
  | member name => rfl
  | other => rfl

mutual

theorem walk_eq_replay {name : String} :
    ∀ (o : Outline) {st : Analysis}, st.current = some name →
      walk name o st = replay (walkSteps name o) st
  | .classDef _ _ _ calls body, st, h => by
      rw [walk, walkSteps, replay_append, dependOnCalls_eq_replay]
      exact walkAll_eq_replay body (by rw [replay_current]; exact h)
  | .function _ _ calls body, st, h => by
      rw [walk, walkSteps, replay_append, dependOnCalls_eq_replay]
      exact walkAll_eq_replay body (by rw [replay_current]; exact h)
  | .assign targets value calls, st, h => by
      rw [walk, walkSteps, replay_append, dependOnCalls_eq_replay, assignInFunction_eq_replay h]
  | .annAssign target types calls, st, h => by
      rw [walk, walkSteps, replay_append, dependOnCalls_eq_replay, annotateInFunction_eq_replay h]
  | .other calls body, st, h => by
      rw [walk, walkSteps, replay_append, dependOnCalls_eq_replay]
      exact walkAll_eq_replay body (by rw [replay_current]; exact h)

theorem walkAll_eq_replay {name : String} :
    ∀ (body : List Outline) {st : Analysis}, st.current = some name →
      walkAll name body st = replay (walkAllSteps name body) st
  | [], _, _ => rfl
  | o :: rest, st, h => by
      rw [walkAll, walkAllSteps, replay_append, walk_eq_replay o h]
      exact walkAll_eq_replay rest (by rw [replay_current]; exact h)

end

theorem visitFunction_eq_replay (st : Analysis) (function : String) (types : List String)
    (calls : List CallSite) (body : List Outline) :
    st.visitFunction function types calls body
      = replay (memberTrace st.current fun c => functionSteps c function types calls body).steps st := by
  unfold visitFunction
  cases h : st.current with
  | none => rfl
  | some name =>
    simp only [memberTrace, Option.map_some, Option.getD_some, functionSteps, replay_append,
      List.cons_append, replay_cons]
    have hparameters : ∀ st : Analysis,
        (if function = "__init__" then st.dependOnTypes name types else st)
          = replay (if function = "__init__" then parameterSteps name types else []) st := by
      intro st
      split
      · exact (replay_map (fun t => .relate ⟨name, t, .dependency⟩) types st).symm
      · rfl
    rw [hparameters, dependOnCalls_eq_replay, ← h]
    refine walkAll_eq_replay body ?_
    rw [replay_current, replay_current]
    exact h

theorem enterClass_eq_replay (st : Analysis) (node : ClassNode) (bases : List String) :
    st.enterClass node bases
      = situated (replay (enterSteps node bases) st) (some node.name) st.printed := by
  have hbases : bases.foldl (fun st base => st.relate node.name base .inheritance) st
      = replay (bases.map fun base => .relate ⟨node.name, base, .inheritance⟩) st :=
    (replay_map (fun base => .relate ⟨node.name, base, .inheritance⟩) bases st).symm
  simp only [enterClass, hbases, enterSteps, replay_append, replay_cons, replay_nil]
  rw [← situated_replay _ st]
  rfl

/-! ## Every visit replays its trace -/

mutual

/-- **A visit does exactly the steps of its trace.** -/
theorem visit_eq_replay (config : Document) : ∀ (o : Outline) (st : Analysis), ∃ printed : String,
    visit config o st
      = (situated (replay (trace config o st.current).steps st) (trace config o st.current).current
          printed, (trace config o st.current).fault)
  | .classDef name decorators bases calls body, st => by
      rw [visit, trace]
      have hopen := gives_openClass config name decorators bases st.printed
      generalize hrun : openClass config name decorators bases st.printed = run at hopen ⊢
      obtain ⟨result, printed⟩ := run
      rw [← hopen]
      match result with
      | .error fault => exact ⟨printed, rfl⟩
      | .ok none => exact ⟨printed, rfl⟩
      | .ok (some node) =>
        -- the class is there before its body is visited
        have henter : enterClass { st with printed := printed } node bases
            = situated (replay (enterSteps node bases) st)
                (some node.name) printed := by
          have hst : ({ st with printed := printed } : Analysis) = situated st st.current printed := rfl
          rw [enterClass_eq_replay, hst, replay_situated]
          rfl
        obtain ⟨more, hbody⟩ := visitAll_eq_replay config body
          (situated (replay (enterSteps node bases) st) (some node.name) printed)
        rw [replay_situated] at hbody
        refine ⟨more, ?_⟩
        simp only [classTrace]
        rw [henter, hbody, replay_append]
        change (match (_, (traceAll config body (some node.name)).fault) with
          | (st, some fault) => (st, some fault)
          | (st, none) => (situated st none st.printed, none)) = _
        cases (traceAll config body (some node.name)).fault with
        | some fault => rfl
        | none => rfl
  | .function name types calls body, st =>
      ⟨st.printed, by
        rw [visit, visitFunction_eq_replay]
        exact congrArg (·, none) (situated_replay _ st).symm⟩
  | .assign targets value calls, st =>
      ⟨st.printed, by
        rw [visit, assignInClass_eq_replay]
        exact congrArg (·, none) (situated_replay _ st).symm⟩
  | .annAssign target types calls, st =>
      ⟨st.printed, by
        rw [visit, annotateInClass_eq_replay]
        exact congrArg (·, none) (situated_replay _ st).symm⟩
  | .other calls body, st => by
      rw [visit, trace]
      exact visitAll_eq_replay config body st

/-- Visits one after the other do exactly the steps of their trace. -/
theorem visitAll_eq_replay (config : Document) : ∀ (outlines : List Outline) (st : Analysis),
    ∃ printed : String, visitAll config outlines st
      = (situated (replay (traceAll config outlines st.current).steps st)
          (traceAll config outlines st.current).current printed,
        (traceAll config outlines st.current).fault)
  | [], st => ⟨st.printed, rfl⟩
  | o :: rest, st => by
      obtain ⟨printed, hfirst⟩ := visit_eq_replay config o st
      rw [visitAll, traceAll, hfirst]
      cases hfault : (trace config o st.current).fault with
      | some fault =>
        rw [Trace.andThen_of_fault hfault, hfault]
        exact ⟨printed, rfl⟩
      | none =>
        obtain ⟨more, hrest⟩ := visitAll_eq_replay config rest
          (situated (replay (trace config o st.current).steps st) (trace config o st.current).current
            printed)
        rw [replay_situated] at hrest
        rw [Trace.andThen_of_done hfault, replay_append]
        exact ⟨more, hrest⟩

end

/-- The fault of a visit is that of its trace. -/
theorem visit_snd (config : Document) (o : Outline) (st : Analysis) :
    (visit config o st).2 = (trace config o st.current).fault := by
  obtain ⟨printed, hvisit⟩ := visit_eq_replay config o st
  rw [hvisit]

theorem visitAll_snd (config : Document) (outlines : List Outline) (st : Analysis) :
    (visitAll config outlines st).2 = (traceAll config outlines st.current).fault := by
  obtain ⟨printed, hvisit⟩ := visitAll_eq_replay config outlines st
  rw [hvisit]

end ClassAtlas.Proofs
