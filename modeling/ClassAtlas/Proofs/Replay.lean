import ClassAtlas.Proofs.GraphLaws
import ClassAtlas.Proofs.Steps

/-!
# What replayed steps leave behind

The four results of a replay, each described by the list of steps alone and the state it started from:
the names of the classes, the class under a name, the remembered calls, and the relations.

Relations are the delicate ones. A step only *tries* a relation; whether the relation is accepted depends
on the classes that arrived before, and whether it is tried at all may depend on the calls remembered
before. `mem_relations_replay` says this once, with the steps cut in two at the one that succeeded.
-/

namespace ClassAtlas.Proofs

open ClassAtlas Analysis ClassGraph

/-! ## Names -/

/-- The name of the class that a step brings. -/
def Step.arrival? : Step → Option String
  | .addClass node => some node.name
  | _ => none

/-- The names of the classes that steps bring, in order. -/
def arrivals (steps : List Step) : List String :=
  steps.filterMap Step.arrival?

theorem arrivals_cons (s : Step) (steps : List Step) :
    arrivals (s :: steps) = s.arrival?.toList ++ arrivals steps := by
  unfold arrivals
  rw [List.filterMap_cons]
  cases s.arrival? <;> rfl

theorem arrivals_append (steps more : List Step) :
    arrivals (steps ++ more) = arrivals steps ++ arrivals more :=
  List.filterMap_append

theorem apply_names (s : Step) (st : Analysis) :
    (s.apply st).graph.names = match s.arrival? with
      | some name => arrive st.graph.names name
      | none => st.graph.names := by
  cases s with
  | addClass node => exact names_addNode st.graph node
  | addAttribute name member => exact names_modifyNode st.graph name fun n _ => rfl
  | addFunction name function => exact names_modifyNode st.graph name fun n _ => rfl
  | relate r => exact names_addRelation st.graph r
  | compose call r =>
    simp only [Step.apply, Step.arrival?]
    split
    · rfl
    · exact names_addRelation st.graph r
  | depend call r =>
    simp only [Step.apply, Step.arrival?]
    split
    · rfl
    · exact names_addRelation st.graph r

/-- The names after a replay: those that arrive go behind those that were there. -/
theorem replay_names (steps : List Step) (st : Analysis) :
    (replay steps st).graph.names = (arrivals steps).foldl arrive st.graph.names := by
  induction steps generalizing st with
  | nil => rfl
  | cons s steps ih =>
    rw [replay_cons, ih, apply_names, arrivals_cons]
    cases s.arrival? <;> rfl

theorem mem_foldl_arrive {new names : List String} {name : String} :
    name ∈ new.foldl arrive names ↔ name ∈ new ∨ name ∈ names := by
  induction new generalizing names with
  | nil => simp
  | cons n new ih =>
    rw [List.foldl_cons, ih, mem_arrive, List.mem_cons]
    exact ⟨fun h => h.elim (Or.inl ∘ Or.inr) fun h => h.elim (Or.inl ∘ Or.inl) Or.inr,
      fun h => h.elim (fun h => h.elim (Or.inr ∘ Or.inl) Or.inl) (Or.inr ∘ Or.inr)⟩

theorem nodup_foldl_arrive {new names : List String} (h : names.Nodup) :
    (new.foldl arrive names).Nodup := by
  induction new generalizing names with
  | nil => exact h
  | cons n new ih => exact ih (nodup_arrive h)

theorem foldl_arrive_of_subset {new names : List String} (h : ∀ n ∈ new, n ∈ names) :
    new.foldl arrive names = names := by
  induction new with
  | nil => rfl
  | cons n new ih =>
    rw [List.foldl_cons, arrive_of_mem (h n List.mem_cons_self)]
    exact ih fun m hm => h m (List.mem_cons_of_mem n hm)

theorem mem_names_replay {steps : List Step} {st : Analysis} {name : String} :
    name ∈ (replay steps st).graph.names ↔ name ∈ arrivals steps ∨ name ∈ st.graph.names := by
  rw [replay_names, mem_foldl_arrive]

/-! ## Remembered calls -/

/-- The call that a step remembers. -/
def Step.remembered? : Step → Option Nat
  | .compose call _ => some call
  | _ => none

/-- The calls that steps remember. -/
def remembered (steps : List Step) : List Nat :=
  steps.filterMap Step.remembered?

theorem remembered_cons (s : Step) (steps : List Step) :
    remembered (s :: steps) = s.remembered?.toList ++ remembered steps := by
  unfold remembered
  rw [List.filterMap_cons]
  cases s.remembered? <;> rfl

theorem remembered_append (steps more : List Step) :
    remembered (steps ++ more) = remembered steps ++ remembered more :=
  List.filterMap_append

theorem mem_composed_apply {s : Step} {st : Analysis} {call : Nat} :
    call ∈ (s.apply st).composed ↔ s.remembered? = some call ∨ call ∈ st.composed := by
  cases s with
  | compose c r =>
    simp only [Step.apply, Step.remembered?, Option.some.injEq]
    split
    · rename_i h
      rw [List.contains_iff_mem] at h
      exact ⟨Or.inr, fun hc => hc.elim (fun e => e ▸ h) id⟩
    · rw [List.mem_cons]
      exact ⟨fun hc => hc.imp_left Eq.symm, fun hc => hc.imp_left Eq.symm⟩
  | depend c r =>
    simp only [Step.apply, Step.remembered?]
    split <;> simp
  | addClass node => simp [Step.apply, Step.remembered?]
  | addAttribute name member => simp [Step.apply, Step.remembered?, addAttribute]
  | addFunction name function => simp [Step.apply, Step.remembered?]
  | relate r => simp [Step.apply, Step.remembered?]

theorem mem_composed_replay {steps : List Step} {st : Analysis} {call : Nat} :
    call ∈ (replay steps st).composed ↔ call ∈ remembered steps ∨ call ∈ st.composed := by
  induction steps generalizing st with
  | nil => simp [remembered]
  | cons s steps ih =>
    rw [replay_cons, ih, mem_composed_apply, remembered_cons, List.mem_append, Option.mem_toList]
    exact ⟨fun h => h.elim (Or.inl ∘ Or.inr) fun h => h.elim (Or.inl ∘ Or.inl) Or.inr,
      fun h => h.elim (fun h => h.elim (Or.inr ∘ Or.inl) Or.inl) (Or.inr ∘ Or.inr)⟩

/-- Steps that remember nothing new leave the remembered calls as they are. -/
theorem composed_replay_of_subset {steps : List Step} {st : Analysis}
    (h : ∀ call ∈ remembered steps, call ∈ st.composed) :
    (replay steps st).composed = st.composed := by
  induction steps generalizing st with
  | nil => rfl
  | cons s steps ih =>
    have hs : (s.apply st).composed = st.composed := by
      cases s with
      | compose c r =>
        have hc : st.composed.contains c = true := by
          rw [List.contains_iff_mem]
          exact h c List.mem_cons_self
        simp only [Step.apply, hc, if_true]
      | depend c r => simp only [Step.apply]; split <;> rfl
      | addClass node => rfl
      | addAttribute name member => rfl
      | addFunction name function => rfl
      | relate r => rfl
    rw [replay_cons, ih, hs]
    intro call hcall
    rw [hs]
    refine h call ?_
    rw [remembered_cons]
    exact List.mem_append_right _ hcall

/-! ## Relations -/

/-- The relation that a step tries when these calls are remembered. -/
def Step.tries? (composed : List Nat) : Step → Option Relation
  | .relate r => some r
  | .compose call r => if composed.contains call then none else some r
  | .depend call r => if composed.contains call then none else some r
  | _ => none

theorem mem_relations_apply {s : Step} {st : Analysis} {r : Relation} :
    r ∈ (s.apply st).graph.relations ↔
      r ∈ st.graph.relations ∨ (s.tries? st.composed = some r ∧ st.graph.Knows r) := by
  have hadd : ∀ q : Relation, r ∈ (st.graph.addRelation q).relations ↔
      r ∈ st.graph.relations ∨ (some q = some r ∧ st.graph.Knows r) := by
    intro q
    rw [mem_relations_addRelation, Option.some.injEq]
    constructor
    · rintro (h | ⟨rfl, hk⟩)
      · exact Or.inl h
      · exact Or.inr ⟨rfl, hk⟩
    · rintro (h | ⟨rfl, hk⟩)
      · exact Or.inl h
      · exact Or.inr ⟨rfl, hk⟩
  cases s with
  | relate q => exact hadd q
  | compose call q =>
    simp only [Step.apply, Step.tries?]
    split
    · simp
    · exact hadd q
  | depend call q =>
    simp only [Step.apply, Step.tries?]
    split
    · simp
    · exact hadd q
  | addClass node => simp [Step.apply, Step.tries?]
  | addAttribute name member => simp [Step.apply, Step.tries?, addAttribute]
  | addFunction name function => simp [Step.apply, Step.tries?]

/-- **A relation is there after a replay iff it was there before, or some step tried it when both its
classes were known.** -/
theorem mem_relations_replay {steps : List Step} {st : Analysis} {r : Relation} :
    r ∈ (replay steps st).graph.relations ↔ r ∈ st.graph.relations ∨
      ∃ done s rest, steps = done ++ s :: rest ∧ s.tries? (replay done st).composed = some r
        ∧ (replay done st).graph.Knows r := by
  induction steps generalizing st with
  | nil => simp
  | cons s steps ih =>
    rw [replay_cons, ih, mem_relations_apply, or_assoc]
    refine or_congr_right ?_
    constructor
    -- the step that succeeded is `s` itself, or stands further on
    · rintro (⟨htry, hk⟩ | ⟨done, t, rest, hsplit, htry, hk⟩)
      · exact ⟨[], s, steps, rfl, htry, hk⟩
      · exact ⟨s :: done, t, rest, by rw [hsplit, List.cons_append], htry, hk⟩
    · rintro ⟨done, t, rest, hsplit, htry, hk⟩
      cases done with
      | nil =>
        rw [List.nil_append] at hsplit
        injection hsplit with h₁ h₂
        subst h₁
        exact Or.inl ⟨htry, hk⟩
      | cons u done =>
        rw [List.cons_append] at hsplit
        injection hsplit with h₁ h₂
        subst h₁
        exact Or.inr ⟨done, t, rest, h₂, htry, hk⟩

/-! ## The class under a name -/

/-- What a step makes of the class under a name. -/
def Step.touch (name : String) (node : Option ClassNode) : Step → Option ClassNode
  | .addClass new => if new.name = name then some new else node
  | .addAttribute owner member => if owner = name then node.map (·.addAttribute member) else node
  | .addFunction owner function =>
    if owner = name then node.map (·.addFunction { name := function }) else node
  | _ => node

theorem node?_addRelation (g : ClassGraph) (r : Relation) (name : String) :
    (g.addRelation r).node? name = g.node? name := by
  unfold node?
  rw [nodes_addRelation]

theorem apply_node? (s : Step) (st : Analysis) (name : String) :
    (s.apply st).graph.node? name = s.touch name (st.graph.node? name) := by
  cases s with
  | addClass node => exact node?_addNode st.graph node name
  | addAttribute owner member => exact node?_modifyNode st.graph owner name fun n _ => rfl
  | addFunction owner function => exact node?_modifyNode st.graph owner name fun n _ => rfl
  | relate r => exact node?_addRelation st.graph r name
  | compose call r =>
    simp only [Step.apply, Step.touch]
    split
    · rfl
    · exact node?_addRelation st.graph r name
  | depend call r =>
    simp only [Step.apply, Step.touch]
    split
    · rfl
    · exact node?_addRelation st.graph r name

/-- The class under a name after a replay. -/
theorem replay_node? (steps : List Step) (st : Analysis) (name : String) :
    (replay steps st).graph.node? name = steps.foldl (Step.touch name) (st.graph.node? name) := by
  induction steps generalizing st with
  | nil => rfl
  | cons s steps ih => rw [replay_cons, ih, apply_node?, List.foldl_cons]

/-- A class that arrives makes the ones before it forgotten. -/
theorem foldl_touch_eq_of_mem {steps : List Step} {name : String} (h : name ∈ arrivals steps)
    (a b : Option ClassNode) :
    steps.foldl (Step.touch name) a = steps.foldl (Step.touch name) b := by
  induction steps generalizing a b with
  | nil => exact absurd h (by simp [arrivals])
  | cons s steps ih =>
    rw [List.foldl_cons, List.foldl_cons]
    rw [arrivals_cons, List.mem_append, Option.mem_toList] at h
    rcases h with hnow | hlater
    · cases s with
      | addClass node =>
        have hname : node.name = name := Option.some.inj hnow
        simp only [Step.touch, hname, if_true]
      | _ => exact absurd hnow (by simp [Step.arrival?])
    · exact ih hlater _ _

/-- No step gives a class to a name under which none arrives. -/
theorem foldl_touch_none {steps : List Step} {name : String} (h : name ∉ arrivals steps) :
    steps.foldl (Step.touch name) none = none := by
  induction steps with
  | nil => rfl
  | cons s steps ih =>
    rw [arrivals_cons, List.mem_append, Option.mem_toList, not_or] at h
    have hs : s.touch name none = none := by
      cases s with
      | addClass node => exact if_neg fun e => h.1 (congrArg some e)
      | addAttribute owner member => simp [Step.touch]
      | addFunction owner function => simp [Step.touch]
      | relate r => rfl
      | compose call r => rfl
      | depend call r => rfl
    rw [List.foldl_cons, hs]
    exact ih h.2

end ClassAtlas.Proofs
