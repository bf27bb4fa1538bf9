import ClassAtlas.Proofs.Numbering
import ClassAtlas.Proofs.Passes

/-!
# What a trace looks like

Three facts about the steps of a visit, each by induction over the statement.

* Numbers are only passed on: other numbers for the calls give the same trace with these numbers
  (`trace_renumber`).
* Every step but the arrival of a class is taken by a class, and that class is the current one or arrives
  in the trace itself (`placed_trace`); a composition of an assigned call is tried when it is already there
  (`settled_trace`).
* When all calls have different numbers, a call is remembered before any other step asks for it
  (`tame_trace`).
-/

namespace ClassAtlas.Proofs

open ClassAtlas Analysis

/-! ## Other numbers -/

/-- The step with another number for its call. -/
def Step.renumber (f : Nat → Nat) : Step → Step
  | .compose call r => .compose (f call) r
  | .depend call r => .depend (f call) r
  | s => s

/-- The trace with other numbers for its calls. -/
def Trace.renumber (f : Nat → Nat) (t : Trace) : Trace :=
  { t with steps := t.steps.map (Step.renumber f) }

section

variable (f : Nat → Nat) (name : String)

theorem composeSteps_renumber (value : Option CallSite) :
    composeSteps name (value.map (renumberCall f)) = (composeSteps name value).map (Step.renumber f) := by
  cases value with
  | none => rfl
  | some call =>
    simp only [Option.map_some, composeSteps, renumberCall]
    cases calledClass? call.callee <;> rfl

theorem assignSelfSteps_renumber (value : Option CallSite) (target : Target) :
    assignSelfSteps name (value.map (renumberCall f)) target
      = (assignSelfSteps name value target).map (Step.renumber f) := by
  cases target with
  | selfAttribute member =>
    simp only [assignSelfSteps, composeSteps_renumber, List.map_cons]
    rfl
  | name id => rfl
  | other => rfl

theorem assignTargetSteps_renumber (value : Option CallSite) (target : Target) :
    assignTargetSteps name (value.map (renumberCall f)) target
      = (assignTargetSteps name value target).map (Step.renumber f) := by
  cases target with
  | selfAttribute member => exact assignSelfSteps_renumber f name value (.selfAttribute member)
  | name id => rfl
  | other => rfl

theorem assignSteps_renumber (targets : List Target) (value : Option CallSite) :
    assignSteps name targets (value.map (renumberCall f))
      = (assignSteps name targets value).map (Step.renumber f) := by
  simp only [assignSteps, List.map_append, List.map_flatMap, ← assignTargetSteps_renumber,
    composeSteps_renumber]
  split <;> rfl

theorem typeSteps_renumber (types : List String) :
    (typeSteps name types).map (Step.renumber f) = typeSteps name types := by
  simp only [typeSteps, List.map_flatMap]
  refine congrArg (List.flatMap · types) (funext fun t => ?_)
  split <;> rfl

theorem annotateSelfSteps_renumber (types : List String) (target : Target) :
    (annotateSelfSteps name types target).map (Step.renumber f) = annotateSelfSteps name types target := by
  cases target with
  | selfAttribute member =>
    simp only [annotateSelfSteps, List.map_cons, typeSteps_renumber]
    rfl
  | name id => rfl
  | other => rfl

theorem annotateSteps_renumber (types : List String) (target : Target) :
    (annotateSteps name types target).map (Step.renumber f) = annotateSteps name types target := by
  cases target with
  | name id =>
    simp only [annotateSteps, List.map_cons, typeSteps_renumber]
    rfl
  | selfAttribute member => exact annotateSelfSteps_renumber f name types (.selfAttribute member)
  | other => rfl

theorem callSteps_renumber (calls : List CallSite) :
    callSteps name (calls.map (renumberCall f)) = (callSteps name calls).map (Step.renumber f) := by
  simp only [callSteps, List.flatMap_map, List.map_flatMap]
  refine congrArg (List.flatMap · calls) (funext fun call => ?_)
  simp only [dependSteps, renumberCall]
  cases call.callee <;> rfl

end

mutual

theorem walkSteps_renumber (f : Nat → Nat) (name : String) : ∀ o : Outline,
    walkSteps name (renumberOutline f o) = (walkSteps name o).map (Step.renumber f)
  | .classDef _ _ _ calls body => by
      simp only [renumberOutline, walkSteps, callSteps_renumber, walkAllSteps_renumber f name body,
        List.map_append]
  | .function _ _ calls body => by
      simp only [renumberOutline, walkSteps, callSteps_renumber, walkAllSteps_renumber f name body,
        List.map_append]
  | .assign targets value calls => by
      simp only [renumberOutline, walkSteps, callSteps_renumber, List.map_append, List.map_flatMap,
        ← assignSelfSteps_renumber]
  | .annAssign target types calls => by
      simp only [renumberOutline, walkSteps, callSteps_renumber, List.map_append,
        annotateSelfSteps_renumber]
  | .other calls body => by
      simp only [renumberOutline, walkSteps, callSteps_renumber, walkAllSteps_renumber f name body,
        List.map_append]

theorem walkAllSteps_renumber (f : Nat → Nat) (name : String) : ∀ body : List Outline,
    walkAllSteps name (renumberOutlines f body) = (walkAllSteps name body).map (Step.renumber f)
  | [] => rfl
  | o :: rest => by
      simp only [renumberOutlines, walkAllSteps, walkSteps_renumber f name o,
        walkAllSteps_renumber f name rest, List.map_append]

end

theorem functionSteps_renumber (f : Nat → Nat) (name function : String) (types : List String)
    (calls : List CallSite) (body : List Outline) :
    functionSteps name function types (calls.map (renumberCall f)) (renumberOutlines f body)
      = (functionSteps name function types calls body).map (Step.renumber f) := by
  have hparameters : (parameterSteps name types).map (Step.renumber f) = parameterSteps name types := by
    simp only [parameterSteps, List.map_map]
    rfl
  simp only [functionSteps, callSteps_renumber, walkAllSteps_renumber, List.cons_append, List.map_cons,
    List.map_append]
  split
  · rw [hparameters]
    rfl
  · rfl

theorem enterSteps_renumber (f : Nat → Nat) (node : ClassNode) (bases : List String) :
    (enterSteps node bases).map (Step.renumber f) = enterSteps node bases := by
  simp only [enterSteps, List.map_append, List.map_map]
  rfl

theorem memberTrace_renumber (f : Nat → Nat) {steps moved : String → List Step}
    (h : ∀ name, moved name = (steps name).map (Step.renumber f)) (current : Option String) :
    memberTrace current moved = (memberTrace current steps).renumber f := by
  cases current with
  | none => rfl
  | some name =>
    unfold memberTrace
    rw [Option.map_some, Option.map_some, h]
    rfl

theorem andThen_renumber (f : Nat → Nat) (t : Trace) {next moved : Option String → Trace}
    (h : ∀ current, moved current = (next current).renumber f) :
    (t.renumber f).andThen moved = (t.andThen next).renumber f := by
  obtain ⟨steps, current, fault⟩ := t
  cases fault with
  | some fault => rfl
  | none =>
    simp only [Trace.andThen, Trace.renumber, h, List.map_append]

mutual

/-- **Other numbers give the same trace with other numbers.** -/
theorem trace_renumber (config : Document) (f : Nat → Nat) : ∀ (o : Outline) (current : Option String),
    trace config (renumberOutline f o) current = (trace config o current).renumber f
  | .classDef name decorators bases calls body, current => by
      rw [renumberOutline, trace, trace]
      match opening config name decorators bases with
      | .error fault => rfl
      | .ok none => rfl
      | .ok (some node) =>
        simp only [classTrace, traceAll_renumber config f body, Trace.renumber, List.map_append,
          enterSteps_renumber]
  | .function name types calls body, current =>
      memberTrace_renumber f (fun c => functionSteps_renumber f c name types calls body) current
  | .assign targets value calls, current =>
      memberTrace_renumber f (fun c => assignSteps_renumber f c targets value) current
  | .annAssign target types calls, current =>
      memberTrace_renumber f (fun c => (annotateSteps_renumber f c types target).symm) current
  | .other calls body, current => traceAll_renumber config f body current

theorem traceAll_renumber (config : Document) (f : Nat → Nat) :
    ∀ (outlines : List Outline) (current : Option String),
      traceAll config (renumberOutlines f outlines) current = (traceAll config outlines current).renumber f
  | [], current => rfl
  | o :: rest, current => by
      rw [renumberOutlines, traceAll, traceAll, trace_renumber config f o current]
      exact andThen_renumber f _ (traceAll_renumber config f rest)

end

/-! ## Who takes a step -/

/-- The step is taken by the class `name`, and asks for no call but these. -/
def Step.By (name : String) (ids : List Nat) : Step → Prop
  | .addClass _ => False
  | .addAttribute owner _ => owner = name
  | .addFunction owner _ => owner = name
  | .relate r => r.source = name
  | .compose call r => r.source = name ∧ r.kind = .composition ∧ call ∈ ids
  | .depend call r => r.source = name ∧ r.kind = .dependency ∧ call ∈ ids

section

variable {name : String} {ids : List Nat} {s : Step}

theorem Step.By.arrival? (h : s.By name ids) : s.arrival? = none := by
  cases s with
  | addClass node => exact h.elim
  | _ => rfl

end

/-- A step that a class takes inside of its body: it gives itself an attribute, states a relation of one of
these kinds, or asks for a call. -/
inductive Step.Inside (name : String) (kinds : List RelationKind) (asked : Nat → Prop) : Step → Prop
  | gain (member : String) : Inside name kinds asked (.addAttribute name member)
  | relate {kind : RelationKind} (target : String) (h : kind ∈ kinds) :
      Inside name kinds asked (.relate ⟨name, target, kind⟩)
  | compose {call : Nat} (target : String) (h : asked call) :
      Inside name kinds asked (.compose call ⟨name, target, .composition⟩)
  | depend {call : Nat} (target : String) (h : asked call) :
      Inside name kinds asked (.depend call ⟨name, target, .dependency⟩)

section

variable {name : String} {kinds : List RelationKind} {asked : Nat → Prop} {s : Step}

theorem Step.Inside.by {ids : List Nat} (h : s.Inside name kinds (· ∈ ids)) : s.By name ids := by
  cases h with
  | gain member => rfl
  | relate target hkind => rfl
  | compose target hcall => exact ⟨rfl, rfl, hcall⟩
  | depend target hcall => exact ⟨rfl, rfl, hcall⟩

theorem Step.Inside.mono {more : List RelationKind} (h : s.Inside name kinds asked) (hkinds : kinds ⊆ more) :
    s.Inside name more asked := by
  cases h with
  | gain member => exact .gain member
  | relate target hkind => exact .relate target (hkinds hkind)
  | compose target hcall => exact .compose target hcall
  | depend target hcall => exact .depend target hcall

theorem Step.Inside.kind_mem {r : Relation} (h : (Step.relate r).Inside name kinds asked) : r.kind ∈ kinds := by
  cases h with
  | relate target hkind => exact hkind

theorem inside_composeSteps {value : Option CallSite} (hasked : ∀ call ∈ value, asked call.id)
    (hs : s ∈ composeSteps name value) : s.Inside name kinds asked := by
  cases value with
  | none => exact absurd hs (by simp [composeSteps])
  | some call =>
    simp only [composeSteps] at hs
    cases hcallee : calledClass? call.callee with
    | none => rw [hcallee] at hs; exact absurd hs (by simp)
    | some target =>
      rw [hcallee, List.mem_singleton] at hs
      rw [hs]
      exact .compose target (hasked call rfl)

theorem inside_assignSelfSteps {value : Option CallSite} (hasked : ∀ call ∈ value, asked call.id)
    (target : Target) (hs : s ∈ assignSelfSteps name value target) : s.Inside name kinds asked := by
  cases target with
  | selfAttribute member =>
    rcases List.mem_cons.mp hs with rfl | hs
    · exact .gain member
    · exact inside_composeSteps hasked hs
  | name id => exact absurd hs (by simp [assignSelfSteps])
  | other => exact absurd hs (by simp [assignSelfSteps])

theorem inside_assignSteps {value : Option CallSite} (hasked : ∀ call ∈ value, asked call.id)
    {targets : List Target} (hs : s ∈ assignSteps name targets value) : s.Inside name kinds asked := by
  rcases List.mem_append.mp hs with hs | hs
  · obtain ⟨target, -, hs⟩ := List.mem_flatMap.mp hs
    cases target with
    | name id => rw [List.mem_singleton.mp hs]; exact .gain id
    | selfAttribute member => exact inside_assignSelfSteps hasked (.selfAttribute member) hs
    | other => exact inside_assignSelfSteps hasked .other hs
  · split at hs
    · exact absurd hs (by simp)
    · exact inside_composeSteps hasked hs

theorem inside_typeSteps {types : List String} (hs : s ∈ typeSteps name types) :
    s.Inside name [.composition] asked := by
  obtain ⟨t, -, hs⟩ := List.mem_flatMap.mp hs
  split at hs
  · exact absurd hs (by simp)
  · rw [List.mem_singleton.mp hs]
    exact .relate t (List.mem_singleton_self _)

theorem inside_annotateSelfSteps {types : List String} (target : Target)
    (hs : s ∈ annotateSelfSteps name types target) : s.Inside name [.composition] asked := by
  cases target with
  | selfAttribute member =>
    rcases List.mem_cons.mp hs with rfl | hs
    · exact .gain member
    · exact inside_typeSteps hs
  | name id => exact absurd hs (by simp [annotateSelfSteps])
  | other => exact absurd hs (by simp [annotateSelfSteps])

theorem inside_annotateSteps {types : List String} {target : Target}
    (hs : s ∈ annotateSteps name types target) : s.Inside name [.composition] asked := by
  cases target with
  | name id =>
    rcases List.mem_cons.mp hs with rfl | hs
    · exact .gain id
    · exact inside_typeSteps hs
  | selfAttribute member => exact inside_annotateSelfSteps (.selfAttribute member) hs
  | other => exact absurd hs (by simp [annotateSteps, annotateSelfSteps])

theorem inside_callSteps {calls : List CallSite} (hasked : ∀ call ∈ calls, asked call.id)
    (hs : s ∈ callSteps name calls) : s.Inside name kinds asked := by
  obtain ⟨call, hcall, hs⟩ := List.mem_flatMap.mp hs
  unfold dependSteps at hs
  cases hcallee : call.callee with
  | name target =>
    rw [hcallee, List.mem_singleton] at hs
    rw [hs]
    exact .depend target (hasked call hcall)
  | member name => rw [hcallee] at hs; exact absurd hs (by simp)
  | other => rw [hcallee] at hs; exact absurd hs (by simp)

end

/-- Every call has its number among the numbers. -/
theorem id_mem_ids {calls : List CallSite} : ∀ call ∈ calls, call.id ∈ calls.map (·.id) :=
  fun _ h => List.mem_map_of_mem h

theorem forall_mem_append {calls more : List CallSite} {p : CallSite → Prop}
    (h : ∀ call ∈ calls ++ more, p call) : (∀ call ∈ calls, p call) ∧ ∀ call ∈ more, p call :=
  ⟨fun call hc => h call (List.mem_append_left _ hc), fun call hc => h call (List.mem_append_right _ hc)⟩

mutual

/-- All calls of an outline, and the values that are assigned in it. -/
def sites : Outline → List CallSite
  | .classDef _ _ _ calls body => calls ++ sitesOfAll body
  | .function _ _ calls body => calls ++ sitesOfAll body
  | .assign _ value calls => value.toList ++ calls
  | .annAssign _ _ calls => calls
  | .other calls body => calls ++ sitesOfAll body

/-- The same of several outlines. -/
def sitesOfAll : List Outline → List CallSite
  | [] => []
  | o :: rest => sites o ++ sitesOfAll rest

end

theorem append_subset_append {calls more calls' more' : List CallSite} (h : calls ⊆ calls') (hmore : more ⊆ more') :
    calls ++ more ⊆ calls' ++ more' :=
  List.append_subset.mpr
    ⟨List.subset_append_of_subset_left more' h, List.subset_append_of_subset_right calls' hmore⟩

mutual

theorem sites_subset : ∀ o : Outline, properOutline o → sites o ⊆ outlineCalls o
  | .classDef _ _ _ calls body, hproper =>
      append_subset_append (List.Subset.refl calls) (sitesOfAll_subset body hproper)
  | .function _ _ calls body, hproper =>
      append_subset_append (List.Subset.refl calls) (sitesOfAll_subset body hproper)
  | .assign _ value calls, hproper => by
      refine List.append_subset.mpr ⟨fun call hcall => ?_, List.Subset.refl calls⟩
      exact hproper call (Option.mem_toList.mp hcall)
  | .annAssign _ _ calls, _ => List.Subset.refl calls
  | .other calls body, hproper => append_subset_append (List.Subset.refl calls) (sitesOfAll_subset body hproper)

theorem sitesOfAll_subset : ∀ body : List Outline, properOutlines body → sitesOfAll body ⊆ outlinesCalls body
  | [], _ => List.Subset.refl []
  | o :: rest, hproper =>
      append_subset_append (sites_subset o hproper.1) (sitesOfAll_subset rest hproper.2)

end

section

variable {name : String} {asked : Nat → Prop}

/-- Calls in front of a body, and the body. -/
theorem inside_callSteps_append {calls : List CallSite} {body : List Outline}
    (hasked : ∀ call ∈ calls ++ sitesOfAll body, asked call.id)
    (h : (∀ call ∈ sitesOfAll body, asked call.id) →
      ∀ s ∈ walkAllSteps name body, s.Inside name [.composition] asked) :
    ∀ s ∈ callSteps name calls ++ walkAllSteps name body, s.Inside name [.composition] asked := by
  have hasked := forall_mem_append hasked
  intro s hs
  rcases List.mem_append.mp hs with hs | hs
  · exact inside_callSteps hasked.1 hs
  · exact h hasked.2 s hs

mutual

/-- **What a class does inside of a function**: only annotations state relations, and these are compositions. -/
theorem inside_walkSteps : ∀ o : Outline, (∀ call ∈ sites o, asked call.id) →
    ∀ s ∈ walkSteps name o, s.Inside name [.composition] asked
  | .classDef _ _ _ calls body, hasked => inside_callSteps_append hasked (inside_walkAllSteps body)
  | .function _ _ calls body, hasked => inside_callSteps_append hasked (inside_walkAllSteps body)
  | .assign targets value calls, hasked => by
      have hasked := forall_mem_append hasked
      intro s hs
      rcases List.mem_append.mp hs with hs | hs
      · obtain ⟨target, -, hs⟩ := List.mem_flatMap.mp hs
        exact inside_assignSelfSteps (fun call hcall => hasked.1 call (Option.mem_toList.mpr hcall)) target hs
      · exact inside_callSteps hasked.2 hs
  | .annAssign target types calls, hasked => by
      intro s hs
      rcases List.mem_append.mp hs with hs | hs
      · exact inside_annotateSelfSteps target hs
      · exact inside_callSteps hasked hs
  | .other calls body, hasked => inside_callSteps_append hasked (inside_walkAllSteps body)

theorem inside_walkAllSteps : ∀ body : List Outline, (∀ call ∈ sitesOfAll body, asked call.id) →
    ∀ s ∈ walkAllSteps name body, s.Inside name [.composition] asked
  | [], _, s, hs => absurd hs (by simp [walkAllSteps])
  | o :: rest, hasked, s, hs => by
      have hasked := forall_mem_append hasked
      rcases List.mem_append.mp hs with hs | hs
      · exact inside_walkSteps o hasked.1 s hs
      · exact inside_walkAllSteps rest hasked.2 s hs

end

/-- Behind the function itself, a function states the types of its parameters and what is inside of it. -/
theorem inside_functionSteps {function : String} {types : List String} {calls : List CallSite}
    {body : List Outline} (hasked : ∀ call ∈ calls ++ sitesOfAll body, asked call.id) :
    ∀ s ∈ (functionSteps name function types calls body).tail, s.Inside name [.dependency, .composition] asked := by
  intro s hs
  have htail : (functionSteps name function types calls body).tail
      = (if function = "__init__" then parameterSteps name types else [])
        ++ (callSteps name calls ++ walkAllSteps name body) := by
    rw [functionSteps, List.append_assoc]
    rfl
  rw [htail] at hs
  rcases List.mem_append.mp hs with hs | hs
  · split at hs
    · obtain ⟨t, -, rfl⟩ := List.mem_map.mp hs
      exact .relate t List.mem_cons_self
    · exact absurd hs (by simp)
  · exact (inside_callSteps_append hasked (inside_walkAllSteps body) s hs).mono (List.subset_cons_self _ _)

end

section

variable {name : String} {ids : List Nat} {s : Step}

theorem by_assignSteps {value : Option CallSite} (hids : ∀ call ∈ value, call.id ∈ ids)
    {targets : List Target} (hs : s ∈ assignSteps name targets value) : s.By name ids :=
  (inside_assignSteps hids hs : s.Inside name [] (· ∈ ids)).by

theorem by_annotateSelfSteps {types : List String} (target : Target)
    (hs : s ∈ annotateSelfSteps name types target) : s.By name ids :=
  (inside_annotateSelfSteps target hs).by

theorem by_annotateSteps {types : List String} {target : Target}
    (hs : s ∈ annotateSteps name types target) : s.By name ids :=
  (inside_annotateSteps hs).by

theorem by_callSteps {calls : List CallSite} (hids : ∀ call ∈ calls, call.id ∈ ids)
    (hs : s ∈ callSteps name calls) : s.By name ids :=
  (inside_callSteps hids hs : s.Inside name [] (· ∈ ids)).by

theorem by_walkSteps (o : Outline) (hproper : properOutline o) (hids : ∀ call ∈ outlineCalls o, call.id ∈ ids) :
    ∀ s ∈ walkSteps name o, s.By name ids :=
  fun s hs => (inside_walkSteps o (fun call hcall => hids call (sites_subset o hproper hcall)) s hs).by

theorem by_walkAllSteps (body : List Outline) (hproper : properOutlines body)
    (hids : ∀ call ∈ outlinesCalls body, call.id ∈ ids) : ∀ s ∈ walkAllSteps name body, s.By name ids :=
  fun s hs =>
    (inside_walkAllSteps body (fun call hcall => hids call (sitesOfAll_subset body hproper hcall)) s hs).by

theorem by_functionSteps {function : String} {types : List String} {calls : List CallSite} {body : List Outline}
    (hproper : properOutlines body) (hids : ∀ call ∈ calls ++ outlinesCalls body, call.id ∈ ids)
    (hs : s ∈ functionSteps name function types calls body) : s.By name ids := by
  rcases List.mem_cons.mp hs with rfl | hs
  · rfl
  · have hsites : calls ++ sitesOfAll body ⊆ calls ++ outlinesCalls body :=
      append_subset_append (List.Subset.refl calls) (sitesOfAll_subset body hproper)
    exact (inside_functionSteps (fun call hcall => hids call (hsites hcall)) s hs).by

end

/-- A step of a statement with calls `ids`: a class arrives, or a class takes it that is the current one
or arrives among the steps. -/
def Placed (current : Option String) (ids : List Nat) (steps : List Step) (s : Step) : Prop :=
  (∃ node, s = .addClass node)
    ∨ ∃ name, s.By name ids ∧ (current = some name ∨ name ∈ arrivals steps)

theorem placed_memberTrace {current : Option String} {ids : List Nat} {steps : String → List Step}
    (h : ∀ name, ∀ s ∈ steps name, s.By name ids) :
    ∀ s ∈ (memberTrace current steps).steps,
      Placed current ids (memberTrace current steps).steps s := by
  intro s hs
  cases current with
  | none => exact absurd hs (by simp [memberTrace])
  | some name => exact Or.inr ⟨name, h name s hs, Or.inl rfl⟩

theorem arrivals_enterSteps (node : ClassNode) (bases : List String) :
    arrivals (enterSteps node bases) = [node.name] := by
  have hbases : arrivals (bases.map fun base => Step.relate ⟨node.name, base, .inheritance⟩) = [] := by
    rw [arrivals, List.filterMap_map]
    exact List.filterMap_eq_nil_iff.mpr fun base _ => rfl
  rw [enterSteps, arrivals_append, hbases]
  rfl

mutual

/-- **Whoever takes a step is the current class or arrives in the trace.** -/
theorem placed_trace (config : Document) {ids : List Nat} : ∀ (o : Outline) (current : Option String),
    properOutline o → (∀ call ∈ outlineCalls o, call.id ∈ ids) →
      ∀ s ∈ (trace config o current).steps, Placed current ids (trace config o current).steps s
  | .classDef name decorators bases calls body, current, hproper, hids => by
      rw [trace]
      match opening config name decorators bases with
      | .error fault => exact fun s hs => absurd hs (by simp [classTrace])
      | .ok none => exact fun s hs => absurd hs (by simp [classTrace])
      | .ok (some node) =>
        intro s hs
        have harrived : node.name ∈ arrivals (enterSteps node bases
            ++ (traceAll config body (some node.name)).steps) := by
          rw [arrivals_append, arrivals_enterSteps]
          exact List.mem_append_left _ List.mem_cons_self
        rcases List.mem_append.mp hs with hs | hs
        · rcases List.mem_append.mp hs with hs | hs
          · obtain ⟨base, -, rfl⟩ := List.mem_map.mp hs
            exact Or.inr ⟨node.name, rfl, Or.inr harrived⟩
          · exact Or.inl ⟨node, List.mem_singleton.mp hs⟩
        · rcases placed_traceAll config body (some node.name) hproper (forall_mem_append hids).2 s hs with
            hclass | ⟨taker, hby, htaker⟩
          · exact Or.inl hclass
          · -- inside, the current class is the one that has just arrived
            refine Or.inr ⟨taker, hby, Or.inr ?_⟩
            rcases htaker with hcurrent | hlater
            · rw [← Option.some.inj hcurrent]
              exact harrived
            · exact arrivals_append _ _ ▸ List.mem_append_right _ hlater
  | .function name types calls body, current, hproper, hids =>
      placed_memberTrace fun _ _ hs => by_functionSteps hproper hids hs
  | .assign targets value calls, current, hproper, hids =>
      placed_memberTrace fun _ _ hs =>
        by_assignSteps (fun call hcall => hids call (hproper call hcall)) hs
  | .annAssign target types calls, current, _, _ =>
      placed_memberTrace fun _ _ hs => by_annotateSteps hs
  | .other calls body, current, hproper, hids =>
      placed_traceAll config body current hproper (forall_mem_append hids).2

theorem placed_traceAll (config : Document) {ids : List Nat} :
    ∀ (outlines : List Outline) (current : Option String), properOutlines outlines →
      (∀ call ∈ outlinesCalls outlines, call.id ∈ ids) →
        ∀ s ∈ (traceAll config outlines current).steps,
          Placed current ids (traceAll config outlines current).steps s
  | [], current, _, _ => fun s hs => absurd hs (by simp [traceAll])
  | o :: rest, current, hproper, hids => by
      have hids := forall_mem_append hids
      have hfirst := placed_trace config o current hproper.1 hids.1
      rw [traceAll]
      cases hfault : (trace config o current).fault with
      | some fault =>
        rw [Trace.andThen_of_fault hfault]
        exact hfirst
      | none =>
        rw [Trace.andThen_of_done hfault]
        have hrest := placed_traceAll config rest (trace config o current).current hproper.2 hids.2
        intro s hs
        rcases List.mem_append.mp hs with hs | hs
        · rcases hfirst s hs with hclass | ⟨taker, hby, htaker⟩
          · exact Or.inl hclass
          · refine Or.inr ⟨taker, hby, htaker.imp_right fun h => ?_⟩
            exact arrivals_append _ _ ▸ List.mem_append_left _ h
        · rcases hrest s hs with hclass | ⟨taker, hby, htaker⟩
          · exact Or.inl hclass
          · refine Or.inr ⟨taker, hby, ?_⟩
            rcases htaker with hcurrent | hlater
            · -- the statement before kept the current class or left it
              rcases trace_current config o current hfault with he | he
              · exact Or.inl (he ▸ hcurrent)
              · rw [he] at hcurrent
                exact absurd hcurrent (by simp)
            · exact Or.inr (arrivals_append _ _ ▸ List.mem_append_right _ hlater)

end

/-! ## Compositions of assigned calls are by classes that are there -/

/-- Where a call is composed, its class is known already. -/
def Settled (known : List String) : List Step → Prop
  | [] => True
  | .addClass node :: rest => Settled (node.name :: known) rest
  | .compose _ r :: rest => r.source ∈ known ∧ Settled known rest
  | _ :: rest => Settled known rest

theorem Settled.mono {known more : List String} {steps : List Step} (h : Settled known steps)
    (hsub : ∀ name ∈ known, name ∈ more) : Settled more steps := by
  induction steps generalizing known more with
  | nil => exact True.intro
  | cons s steps ih =>
    cases s with
    | addClass node =>
      refine ih h fun name hname => ?_
      rcases List.mem_cons.mp hname with rfl | hname
      · exact List.mem_cons_self
      · exact List.mem_cons_of_mem _ (hsub name hname)
    | compose call r => exact ⟨hsub _ h.1, ih h.2 hsub⟩
    | _ => exact ih h hsub

theorem Settled.append {known : List String} {steps more : List Step} (h : Settled known steps)
    (hmore : Settled known more) : Settled known (steps ++ more) := by
  induction steps generalizing known with
  | nil => exact hmore
  | cons s steps ih =>
    cases s with
    | addClass node => exact ih h (hmore.mono fun name hname => List.mem_cons_of_mem _ hname)
    | compose call r => exact ⟨h.1, ih h.2 hmore⟩
    | _ => exact ih h hmore

theorem settled_of_by {known : List String} {name : String} {ids : List Nat} {steps : List Step}
    (hname : name ∈ known) (h : ∀ s ∈ steps, s.By name ids) : Settled known steps := by
  induction steps with
  | nil => exact True.intro
  | cons s steps ih =>
    have hs := h s List.mem_cons_self
    have hrest := ih fun t ht => h t (List.mem_cons_of_mem _ ht)
    cases s with
    | addClass node => exact hs.elim
    | compose call r => exact ⟨hs.1 ▸ hname, hrest⟩
    | _ => exact hrest

/-- The class of a composition was known before, or arrived before the composition. -/
theorem Settled.source_mem {known : List String} {done rest : List Step} {call : Nat} {r : Relation}
    (h : Settled known (done ++ .compose call r :: rest)) :
    r.source ∈ arrivals done ∨ r.source ∈ known := by
  induction done generalizing known with
  | nil => exact Or.inr h.1
  | cons s done ih =>
    rw [arrivals_cons, List.mem_append, Option.mem_toList]
    cases s with
    | addClass node =>
      rcases ih h with hlater | hknown
      · exact Or.inl (Or.inr hlater)
      · rcases List.mem_cons.mp hknown with he | hknown
        · exact Or.inl (Or.inl (congrArg some he.symm))
        · exact Or.inr hknown
    | compose call r => exact (ih h.2).imp_left Or.inr
    | _ => exact (ih h).imp_left Or.inr

theorem settled_enterSteps {known : List String} {node : ClassNode} (bases : List String)
    {steps : List Step} (h : Settled (node.name :: known) steps) :
    Settled known (enterSteps node bases ++ steps) := by
  rw [enterSteps, List.append_assoc]
  induction bases with
  | nil => exact h
  | cons base bases ih => exact ih

theorem settled_memberTrace {current : Option String} {known : List String} {ids : List Nat}
    {steps : String → List Step} (hcurrent : ∀ name ∈ current, name ∈ known)
    (h : ∀ name, ∀ s ∈ steps name, s.By name ids) :
    Settled known (memberTrace current steps).steps := by
  cases current with
  | none => exact True.intro
  | some name => exact settled_of_by (hcurrent name rfl) (h name)

mutual

/-- **A call is composed only by a class that is there.** -/
theorem settled_trace (config : Document) : ∀ (o : Outline) (current : Option String)
    (known : List String), properOutline o → (∀ name ∈ current, name ∈ known) →
      Settled known (trace config o current).steps
  | .classDef name decorators bases calls body, current, known, hproper, _ => by
      rw [trace]
      match opening config name decorators bases with
      | .error fault => exact True.intro
      | .ok none => exact True.intro
      | .ok (some node) =>
        refine settled_enterSteps bases (settled_traceAll config body _ _ hproper fun c hc => ?_)
        rw [← Option.some.inj hc]
        exact List.mem_cons_self
  | .function name types calls body, current, known, hproper, hcurrent =>
      settled_memberTrace hcurrent fun _ _ hs =>
        by_functionSteps hproper id_mem_ids hs
  | .assign targets value calls, current, known, hproper, hcurrent =>
      settled_memberTrace hcurrent fun _ _ hs =>
        by_assignSteps (fun call hc => List.mem_map_of_mem (hproper call hc)) hs
  | .annAssign target types calls, current, known, _, hcurrent =>
      settled_memberTrace hcurrent fun name s hs => (by_annotateSteps hs : s.By name [])
  | .other calls body, current, known, hproper, hcurrent =>
      settled_traceAll config body current known hproper hcurrent

theorem settled_traceAll (config : Document) : ∀ (outlines : List Outline) (current : Option String)
    (known : List String), properOutlines outlines → (∀ name ∈ current, name ∈ known) →
      Settled known (traceAll config outlines current).steps
  | [], _, _, _, _ => True.intro
  | o :: rest, current, known, hproper, hcurrent => by
      have hfirst := settled_trace config o current known hproper.1 hcurrent
      rw [traceAll]
      cases hfault : (trace config o current).fault with
      | some fault =>
        rw [Trace.andThen_of_fault hfault]
        exact hfirst
      | none =>
        rw [Trace.andThen_of_done hfault]
        refine hfirst.append (settled_traceAll config rest _ known hproper.2 fun name hname => ?_)
        -- no statement makes another class the current one for those after it
        rcases trace_current config o current hfault with he | he
        · exact hcurrent name (he ▸ hname)
        · rw [he] at hname
          exact absurd hname (by simp)

end

/-! ## Calls are remembered before they are asked for -/

/-- The call that a step asks for. -/
def Step.call? : Step → Option Nat
  | .compose call _ => some call
  | .depend call _ => some call
  | _ => none

/-- If the later step remembers a call, the earlier one has nothing to do with it, or is the same. -/
def Step.Agrees (s later : Step) : Prop :=
  ∀ call, later.remembered? = some call → s.call? = some call → s = later

/-- No call is asked for before it is remembered. -/
def Tame (steps : List Step) : Prop :=
  steps.Pairwise Step.Agrees

theorem Step.call?_of_remembered? {s : Step} {call : Nat} (h : s.remembered? = some call) :
    s.call? = some call := by
  cases s with
  | compose c r => exact h
  | _ => exact absurd h (by simp [Step.remembered?])

theorem Step.By.call_mem {s : Step} {name : String} {ids : List Nat} {call : Nat} (h : s.By name ids)
    (hcall : s.call? = some call) : call ∈ ids := by
  cases s with
  | compose c r => rw [← Option.some.inj hcall]; exact h.2.2
  | depend c r => rw [← Option.some.inj hcall]; exact h.2.2
  | _ => exact absurd hcall (by simp [Step.call?])

theorem Step.By.forgetful {s : Step} {name : String} (h : s.By name []) : s.remembered? = none := by
  cases s with
  | compose call r => exact absurd h.2.2 (by simp)
  | _ => rfl

theorem Placed.call_mem {s : Step} {current : Option String} {ids : List Nat} {steps : List Step}
    {call : Nat} (h : Placed current ids steps s) (hcall : s.call? = some call) : call ∈ ids := by
  rcases h with ⟨node, rfl⟩ | ⟨name, hby, -⟩
  · exact absurd hcall (by simp [Step.call?])
  · exact hby.call_mem hcall

theorem tame_of_forgetful {steps : List Step} (h : ∀ s ∈ steps, s.remembered? = none) : Tame steps := by
  refine List.pairwise_of_forall_mem_list fun s _ t ht call hcall _ => ?_
  rw [h t ht] at hcall
  exact absurd hcall (by simp)

/-- Steps that ask for nothing can stand in front. -/
theorem Tame.quiet_append {quiet steps : List Step} (hquiet : ∀ s ∈ quiet, s.call? = none)
    (h : Tame steps) : Tame (quiet ++ steps) := by
  have hfirst : ∀ s ∈ quiet, ∀ t, s.Agrees t := by
    intro s hs t call _ hcall
    rw [hquiet s hs] at hcall
    exact absurd hcall (by simp)
  exact List.pairwise_append.mpr
    ⟨List.pairwise_of_forall_mem_list fun s hs t _ => hfirst s hs t, h, fun s hs t _ => hfirst s hs t⟩

/-- Steps that ask for different calls can be joined. -/
theorem Tame.append {steps more : List Step} (h : Tame steps) (hmore : Tame more)
    (hapart : ∀ s ∈ steps, ∀ t ∈ more, ∀ call, s.call? = some call → t.call? ≠ some call) :
    Tame (steps ++ more) :=
  List.pairwise_append.mpr ⟨h, hmore, fun s hs t ht call hlater hfirst =>
    absurd (Step.call?_of_remembered? hlater) (hapart s hs t ht call hfirst)⟩

theorem forgetful_callSteps {name : String} {calls : List CallSite} :
    ∀ s ∈ callSteps name calls, s.remembered? = none := by
  intro s hs
  obtain ⟨call, -, hs⟩ := List.mem_flatMap.mp hs
  unfold dependSteps at hs
  split at hs
  · rw [List.mem_singleton.mp hs]
    rfl
  · exact absurd hs (by simp)

/-- All steps for one assigned value are the same step. -/
theorem composeSteps_unique {name : String} {value : Option CallSite} {s t : Step}
    (hs : s ∈ composeSteps name value) (ht : t ∈ composeSteps name value) : s = t := by
  cases value with
  | none => exact absurd hs (by simp [composeSteps])
  | some call =>
    simp only [composeSteps] at hs ht
    cases hcallee : calledClass? call.callee with
    | none => rw [hcallee] at hs; exact absurd hs (by simp)
    | some target =>
      rw [hcallee, List.mem_singleton] at hs ht
      rw [hs, ht]

theorem tame_of_composeSteps (name : String) (value : Option CallSite) {steps : List Step}
    (h : ∀ s ∈ steps, s.call? = none ∨ s ∈ composeSteps name value) : Tame steps := by
  refine List.pairwise_of_forall_mem_list fun s hs t ht call hlater hfirst => ?_
  rcases h s hs with hnone | hs
  · rw [hnone] at hfirst
    exact absurd hfirst (by simp)
  · rcases h t ht with hnone | ht
    · rw [Step.call?_of_remembered? hlater] at hnone
      exact absurd hnone (by simp)
    · exact composeSteps_unique hs ht

theorem call_assignSelfSteps {name : String} {value : Option CallSite} {s : Step} (target : Target)
    (hs : s ∈ assignSelfSteps name value target) : s.call? = none ∨ s ∈ composeSteps name value := by
  cases target with
  | selfAttribute member =>
    rcases List.mem_cons.mp hs with rfl | hs
    · exact Or.inl rfl
    · exact Or.inr hs
  | name id => exact absurd hs (by simp [assignSelfSteps])
  | other => exact absurd hs (by simp [assignSelfSteps])

theorem call_assignSteps {name : String} {value : Option CallSite} {targets : List Target} {s : Step}
    (hs : s ∈ assignSteps name targets value) : s.call? = none ∨ s ∈ composeSteps name value := by
  rcases List.mem_append.mp hs with hs | hs
  · obtain ⟨target, -, hs⟩ := List.mem_flatMap.mp hs
    cases target with
    | name id => rw [List.mem_singleton.mp hs]; exact Or.inl rfl
    | selfAttribute member => exact call_assignSelfSteps (.selfAttribute member) hs
    | other => exact absurd hs (by simp [assignTargetSteps, assignSelfSteps])
  · split at hs
    · exact absurd hs (by simp)
    · exact Or.inr hs

/-- Calls in two parts, all with different numbers. -/
theorem nodup_ids_append {calls more : List CallSite} (h : ((calls ++ more).map (·.id)).Nodup) :
    (calls.map (·.id)).Nodup ∧ (more.map (·.id)).Nodup
      ∧ ∀ id ∈ calls.map (·.id), id ∉ more.map (·.id) := by
  rw [List.map_append, List.nodup_append] at h
  exact ⟨h.1, h.2.1, fun id hid hmore => h.2.2 id hid id hmore rfl⟩

/-- Calls in front of a body, and what the body does. -/
theorem Tame.callSteps_append {name : String} {calls : List CallSite} {body : List Outline}
    (hproper : properOutlines body) (hids : ((calls ++ outlinesCalls body).map (·.id)).Nodup)
    (h : Tame (walkAllSteps name body)) : Tame (callSteps name calls ++ walkAllSteps name body) := by
  refine (tame_of_forgetful forgetful_callSteps).append h fun s hs t ht call hfirst hlater => ?_
  refine (nodup_ids_append hids).2.2 call ?_ ?_
  · exact (by_callSteps id_mem_ids hs).call_mem hfirst
  · exact (by_walkAllSteps body hproper id_mem_ids t ht).call_mem hlater

mutual

theorem tame_walkSteps {name : String} : ∀ o : Outline, properOutline o →
    ((outlineCalls o).map (·.id)).Nodup → Tame (walkSteps name o)
  | .classDef _ _ _ calls body, hproper, hids =>
      Tame.callSteps_append hproper hids (tame_walkAllSteps body hproper (nodup_ids_append hids).2.1)
  | .function _ _ calls body, hproper, hids =>
      Tame.callSteps_append hproper hids (tame_walkAllSteps body hproper (nodup_ids_append hids).2.1)
  | .assign targets value calls, hproper, hids => by
      have hassign : Tame (targets.flatMap (assignSelfSteps name value)) := by
        refine tame_of_composeSteps name value fun s hs => ?_
        obtain ⟨target, -, hs⟩ := List.mem_flatMap.mp hs
        exact call_assignSelfSteps target hs
      -- the calls of an assignment come after it, so that they only ask
      refine List.pairwise_append.mpr ⟨hassign, tame_of_forgetful forgetful_callSteps, ?_⟩
      intro s _ t ht call hlater _
      rw [forgetful_callSteps t ht] at hlater
      exact absurd hlater (by simp)
  | .annAssign target types calls, _, _ => by
      refine tame_of_forgetful fun s hs => ?_
      rcases List.mem_append.mp hs with hs | hs
      · exact (by_annotateSelfSteps target hs).forgetful
      · exact forgetful_callSteps s hs
  | .other calls body, hproper, hids =>
      Tame.callSteps_append hproper hids (tame_walkAllSteps body hproper (nodup_ids_append hids).2.1)

theorem tame_walkAllSteps {name : String} : ∀ body : List Outline, properOutlines body →
    ((outlinesCalls body).map (·.id)).Nodup → Tame (walkAllSteps name body)
  | [], _, _ => List.Pairwise.nil
  | o :: rest, hproper, hids => by
      have hparts := nodup_ids_append hids
      refine (tame_walkSteps o hproper.1 hparts.1).append
        (tame_walkAllSteps rest hproper.2 hparts.2.1) fun s hs t ht call hfirst hlater => ?_
      refine hparts.2.2 call ?_ ?_
      · exact (by_walkSteps o hproper.1 id_mem_ids s hs).call_mem hfirst
      · exact (by_walkAllSteps rest hproper.2 id_mem_ids t ht).call_mem hlater

end

theorem tame_functionSteps {name function : String} {types : List String} {calls : List CallSite}
    {body : List Outline} (hproper : properOutlines body)
    (hids : ((calls ++ outlinesCalls body).map (·.id)).Nodup) :
    Tame (functionSteps name function types calls body) := by
  rw [functionSteps, List.append_assoc]
  refine Tame.quiet_append (fun s hs => ?_) (Tame.callSteps_append hproper hids
    (tame_walkAllSteps body hproper (nodup_ids_append hids).2.1))
  rcases List.mem_cons.mp hs with rfl | hs
  · rfl
  · split at hs
    · obtain ⟨t, -, rfl⟩ := List.mem_map.mp hs
      rfl
    · exact absurd hs (by simp)

theorem tame_enterSteps {node : ClassNode} {bases : List String} {steps : List Step} (h : Tame steps) :
    Tame (enterSteps node bases ++ steps) := by
  refine Tame.quiet_append (fun s hs => ?_) h
  rcases List.mem_append.mp hs with hs | hs
  · obtain ⟨base, -, rfl⟩ := List.mem_map.mp hs
    rfl
  · rw [List.mem_singleton.mp hs]
    rfl

theorem tame_memberTrace {current : Option String} {steps : String → List Step}
    (h : ∀ name, Tame (steps name)) : Tame (memberTrace current steps).steps := by
  cases current with
  | none => exact List.Pairwise.nil
  | some name => exact h name

mutual

/-- **When all calls have different numbers, none is asked for before it is remembered.** -/
theorem tame_trace (config : Document) : ∀ (o : Outline) (current : Option String), properOutline o →
    ((outlineCalls o).map (·.id)).Nodup → Tame (trace config o current).steps
  | .classDef name decorators bases calls body, current, hproper, hids => by
      rw [trace]
      match opening config name decorators bases with
      | .error fault => exact List.Pairwise.nil
      | .ok none => exact List.Pairwise.nil
      | .ok (some node) =>
        exact tame_enterSteps (tame_traceAll config body _ hproper (nodup_ids_append hids).2.1)
  | .function name types calls body, current, hproper, hids =>
      tame_memberTrace fun _ => tame_functionSteps hproper hids
  | .assign targets value calls, current, _, _ =>
      tame_memberTrace fun name => tame_of_composeSteps name value fun _ hs => call_assignSteps hs
  | .annAssign target types calls, current, _, _ =>
      tame_memberTrace fun name => tame_of_forgetful fun _ hs => (by_annotateSteps hs).forgetful
  | .other calls body, current, hproper, hids =>
      tame_traceAll config body current hproper (nodup_ids_append hids).2.1

theorem tame_traceAll (config : Document) : ∀ (outlines : List Outline) (current : Option String),
    properOutlines outlines → ((outlinesCalls outlines).map (·.id)).Nodup →
      Tame (traceAll config outlines current).steps
  | [], _, _, _ => List.Pairwise.nil
  | o :: rest, current, hproper, hids => by
      have hparts := nodup_ids_append hids
      have hfirst := tame_trace config o current hproper.1 hparts.1
      rw [traceAll]
      cases hfault : (trace config o current).fault with
      | some fault =>
        rw [Trace.andThen_of_fault hfault]
        exact hfirst
      | none =>
        rw [Trace.andThen_of_done hfault]
        -- different statements have different calls
        refine hfirst.append (tame_traceAll config rest _ hproper.2 hparts.2.1) ?_
        intro s hs t ht call hfirst hlater
        refine hparts.2.2 call ?_ ?_
        · exact (placed_trace config o current hproper.1 id_mem_ids s
            hs).call_mem hfirst
        · exact (placed_traceAll config rest _ hproper.2 id_mem_ids t
            ht).call_mem hlater

end

end ClassAtlas.Proofs
