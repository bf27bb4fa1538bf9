import ClassAtlas.Proofs.Relations
import Mathlib.Data.List.Forall2

/-!
# Does the order of definitions matter?

Two passes find the same relations in whatever order the statements stand, with one exception: a
composition for an assigned call is tried only once, so it needs the class of the call to stand before
the statement. `Indifferent` says of a statement that this is no obstacle with regard to another one.

`relations_order_free_iff` is exact: when all classes have different names, the relations do not depend
on the order of modules and statements iff the statements are pairwise indifferent to each other.
-/

namespace ClassAtlas.Proofs

open ClassAtlas Analysis Source

/-! ## Statements that do not care where another stands -/

/-- The compositions that a statement makes of assigned calls. -/
def assignedCompositions (config : Document) (s : Stmt) : List Relation :=
  (stmtSteps config s).filterMap fun
    | .compose _ r => some r
    | _ => none

/-- The relations that a statement makes of bases, of annotations and of parameters. -/
def statedRelations (config : Document) (s : Stmt) : List Relation :=
  (stmtSteps config s).filterMap fun
    | .relate r => some r
    | _ => none

/-- Whatever the statement composes by an assigned call of a class of the other one, it states besides. -/
def Indifferent (config : Document) (s other : Stmt) : Prop :=
  ∀ r ∈ assignedCompositions config s,
    r.target ∈ (visible (leavesOut config) other).map (·.name) → r ∈ statedRelations config s

theorem mem_assignedCompositions {config : Document} {s : Stmt} {r : Relation} :
    r ∈ assignedCompositions config s ↔ ∃ call, .compose call r ∈ stmtSteps config s := by
  unfold assignedCompositions
  rw [List.mem_filterMap]
  constructor
  · rintro ⟨step, hstep, he⟩
    cases step with
    | compose call q => exact ⟨call, Option.some.inj he ▸ hstep⟩
    | _ => exact absurd he (by simp)
  · rintro ⟨call, hstep⟩
    exact ⟨_, hstep, rfl⟩

theorem mem_statedRelations {config : Document} {s : Stmt} {r : Relation} :
    r ∈ statedRelations config s ↔ .relate r ∈ stmtSteps config s := by
  unfold statedRelations
  rw [List.mem_filterMap]
  constructor
  · rintro ⟨step, hstep, he⟩
    cases step with
    | relate q => exact Option.some.inj he ▸ hstep
    | _ => exact absurd he (by simp)
  · intro hstep
    exact ⟨_, hstep, rfl⟩

theorem tries?_cases {step : Step} {ids : List Nat} {r : Relation} (h : step.tries? ids = some r) :
    step = .relate r ∨ (∃ call, step = .compose call r) ∨ ∃ call, step = .depend call r := by
  cases step with
  | relate q => exact Or.inl (congrArg _ (Option.some.inj h))
  | compose call q =>
    simp only [Step.tries?] at h
    split at h
    · exact absurd h (by simp)
    · exact Or.inr (Or.inl ⟨call, congrArg _ (Option.some.inj h)⟩)
  | depend call q =>
    simp only [Step.tries?] at h
    split at h
    · exact absurd h (by simp)
    · exact Or.inr (Or.inr ⟨call, congrArg _ (Option.some.inj h)⟩)
  | _ => exact absurd h (by simp [Step.tries?])

/-- Outside of any class, whoever takes a step arrives in the statement. -/
theorem by_stmtSteps {config : Document} {s : Stmt} {step : Step} (hstep : step ∈ stmtSteps config s)
    (hclass : ∀ node, step ≠ .addClass node) :
    ∃ name ids, step.By name ids ∧ name ∈ arrivals (stmtSteps config s) := by
  have hplaced := placed_trace config (outlineOf s) none (proper_outlineOf s)
    id_mem_ids step hstep
  rcases hplaced with ⟨node, rfl⟩ | ⟨name, hby, hcurrent | harrives⟩
  · exact absurd rfl (hclass node)
  · exact absurd hcurrent (by simp)
  · exact ⟨name, _, hby, harrives⟩

/-- The source of a relation arrives in the statement that tries it. -/
theorem source_mem_arrivals {config : Document} {s : Stmt} {step : Step} {ids : List Nat} {r : Relation}
    (hstep : step ∈ stmtSteps config s) (htry : step.tries? ids = some r) :
    r.source ∈ arrivals (stmtSteps config s) := by
  rcases tries?_cases htry with rfl | ⟨call, rfl⟩ | ⟨call, rfl⟩
  · obtain ⟨name, ids, hby, hname⟩ := by_stmtSteps hstep (by simp)
    exact (show r.source = name from hby) ▸ hname
  · obtain ⟨name, ids, hby, hname⟩ := by_stmtSteps hstep (by simp)
    exact hby.1 ▸ hname
  · obtain ⟨name, ids, hby, hname⟩ := by_stmtSteps hstep (by simp)
    exact hby.1 ▸ hname

/-- A composition for an assigned call is no dependency. -/
theorem compose_ne_depend {config : Document} {s t : Stmt} {call call' : Nat} {r : Relation}
    (hcompose : .compose call r ∈ stmtSteps config s) : .depend call' r ∉ stmtSteps config t := by
  intro hdepend
  obtain ⟨_, _, hby, -⟩ := by_stmtSteps hcompose (by simp)
  obtain ⟨_, _, hby', -⟩ := by_stmtSteps hdepend (by simp)
  have hkind : RelationKind.composition = .dependency := hby.2.1.symm.trans hby'.2.1
  exact absurd hkind (by simp)

/-- When a call is composed, its class has arrived in the statement. -/
theorem source_mem_done {config : Document} {s : Stmt} {done rest : List Step} {call : Nat} {r : Relation}
    (h : stmtSteps config s = done ++ .compose call r :: rest) : r.source ∈ arrivals done := by
  have hsettled : Settled [] (stmtSteps config s) :=
    settled_trace config (outlineOf s) none [] (proper_outlineOf s) (by simp)
  rw [h] at hsettled
  exact hsettled.source_mem.resolve_right (by simp)

theorem Indifferent.stated {config : Document} {s other : Stmt} (h : Indifferent config s other)
    (hsound : Sound config other) {call : Nat} {r : Relation} (hstep : .compose call r ∈ stmtSteps config s)
    (htarget : r.target ∈ arrivals (stmtSteps config other)) : .relate r ∈ stmtSteps config s := by
  rw [arrivals_stmtSteps hsound] at htarget
  exact mem_statedRelations.mp (h r (mem_assignedCompositions.mpr ⟨call, hstep⟩) htarget)

/-! ## Indifferent statements can be rearranged -/

theorem mem_broughtBy {config : Document} {statements : List Stmt} {name : String} :
    name ∈ broughtBy config statements ↔ ∃ s ∈ statements, name ∈ arrivals (stmtSteps config s) :=
  List.mem_flatMap

/-- A relation that a statement states is formed as soon as both its classes are there at the end. -/
theorem formedIn_of_stated {config : Document} {before all : List String} {s : Stmt} {r : Relation}
    (hstep : .relate r ∈ stmtSteps config s) (hjoins : Joins all r) : FormedIn config before all s r := by
  obtain ⟨done, rest, hsplit⟩ := List.append_of_mem hstep
  exact ⟨done, .relate r, rest, hsplit, rfl, Or.inr ⟨rfl, hjoins⟩⟩

/-- A statement that is indifferent to those before it forms what it forms without them. -/
theorem formedIn_alone {config : Document} {before statements : List Stmt} {s : Stmt} {r : Relation}
    (hbefore : ∀ t ∈ before, t ∈ statements) (hs : s ∈ statements)
    (hsound : ∀ t ∈ statements, Sound config t) (hindifferent : ∀ t ∈ before, Indifferent config s t)
    (h : FormedIn config (broughtBy config before) (broughtBy config statements) s r) :
    FormedIn config [] (broughtBy config statements) s r := by
  obtain ⟨done, step, rest, hsplit, htry, hjoins⟩ := h
  have hstep : step ∈ stmtSteps config s := by
    rw [hsplit]
    exact List.mem_append_right _ List.mem_cons_self
  have hall : ∀ name ∈ broughtBy config before ++ arrivals done, name ∈ broughtBy config statements := by
    intro name hname
    rw [mem_broughtBy]
    rcases List.mem_append.mp hname with hname | hname
    · obtain ⟨t, ht, hname⟩ := mem_broughtBy.mp hname
      exact ⟨t, hbefore t ht, hname⟩
    · refine ⟨s, hs, ?_⟩
      rw [hsplit, arrivals_append]
      exact List.mem_append_left _ hname
  rcases hjoins with hnow | hlater
  · rcases tries?_cases htry with rfl | ⟨call, rfl⟩ | ⟨call, rfl⟩
    · exact formedIn_of_stated hstep (hnow.mono hall)
    · rcases List.mem_append.mp hnow.2 with htarget | htarget
      · -- the class of the call stands before: the relation is stated besides
        obtain ⟨t, ht, htarget⟩ := mem_broughtBy.mp htarget
        have hstated := (hindifferent t ht).stated (hsound t (hbefore t ht)) hstep htarget
        exact formedIn_of_stated hstated (hnow.mono hall)
      · exact ⟨done, _, rest, hsplit, htry, Or.inl ⟨source_mem_done hsplit, htarget⟩⟩
    · exact ⟨done, _, rest, hsplit, htry, Or.inr ⟨rfl, hnow.mono hall⟩⟩
  · exact ⟨done, step, rest, hsplit, htry, Or.inr hlater⟩

/-- Some statement of the list forms the relation where it stands. -/
def Forms (config : Document) (statements : List Stmt) (r : Relation) : Prop :=
  ∃ before s after, statements = before ++ s :: after
    ∧ FormedIn config (broughtBy config before) (broughtBy config statements) s r

/-- Each of the two statements is indifferent to the other. -/
def Unrelated (config : Document) (s t : Stmt) : Prop :=
  Indifferent config s t ∧ Indifferent config t s

theorem forms_iff_of_unrelated {config : Document} {statements : List Stmt}
    (hsound : ∀ s ∈ statements, Sound config s) (h : statements.Pairwise (Unrelated config))
    {r : Relation} :
    Forms config statements r ↔ ∃ s ∈ statements, FormedIn config [] (broughtBy config statements) s r := by
  constructor
  · rintro ⟨before, s, after, rfl, hformed⟩
    have hs : s ∈ before ++ s :: after := List.mem_append_right _ List.mem_cons_self
    refine ⟨s, hs, formedIn_alone (fun t ht => List.mem_append_left _ ht) hs hsound ?_ hformed⟩
    intro t ht
    exact ((List.pairwise_append.mp h).2.2 t ht s List.mem_cons_self).2
  · rintro ⟨s, hs, hformed⟩
    obtain ⟨before, after, hsplit⟩ := List.append_of_mem hs
    exact ⟨before, s, after, hsplit, hformed.mono (by simp) fun name hname => hname⟩

/-- **Statements that are pairwise unrelated form the same relations in any order.** -/
theorem forms_perm {config : Document} {statements rearranged : List Stmt}
    (hsound : ∀ s ∈ statements, Sound config s) (h : statements.Pairwise (Unrelated config))
    (hperm : statements.Perm rearranged) {r : Relation} :
    Forms config rearranged r ↔ Forms config statements r := by
  have hbrought : ∀ name, name ∈ broughtBy config rearranged ↔ name ∈ broughtBy config statements := by
    intro name
    rw [mem_broughtBy, mem_broughtBy]
    exact exists_congr fun s => and_congr_left fun _ => hperm.mem_iff.symm
  have hpairwise : rearranged.Pairwise (Unrelated config) :=
    (hperm.pairwise_iff fun hst => hst.symm).mp h
  rw [forms_iff_of_unrelated hsound h,
    forms_iff_of_unrelated (fun s hs => hsound s (hperm.mem_iff.mpr hs)) hpairwise]
  refine exists_congr fun s => and_congr hperm.mem_iff.symm ⟨fun hf => ?_, fun hf => ?_⟩
  · exact hf.mono (by simp) fun name hname => (hbrought name).mp hname
  · exact hf.mono (by simp) fun name hname => (hbrought name).mpr hname

/-! ## Statements that are not indifferent betray their order -/

/-- A class that only one statement brings stands in one place only. -/
theorem split_unique {α : Type} {f : α → List String} {before after before' after' : List α} {x y : α}
    {name : String} (h : before ++ x :: after = before' ++ y :: after')
    (hnodup : ((before ++ x :: after).flatMap f).Nodup) (hx : name ∈ f x) (hy : name ∈ f y) :
    before = before' ∧ x = y := by
  rcases List.append_eq_append_iff.mp h with ⟨between, rfl, hrest⟩ | ⟨between, rfl, hrest⟩
  · cases between with
    | nil => exact ⟨(List.append_nil _).symm, (List.cons.inj hrest).1⟩
    | cons z between =>
      -- `y` stands behind `x`, so the name is brought twice
      rw [(List.cons.inj hrest).2, List.flatMap_append, List.flatMap_cons, List.nodup_append,
        List.nodup_append] at hnodup
      exact absurd rfl (hnodup.2.1.2.2 name hx name (List.mem_flatMap.mpr ⟨y, by simp, hy⟩))
  · cases between with
    | nil => exact ⟨List.append_nil _, (List.cons.inj hrest).1.symm⟩
    | cons z between =>
      have hz := (List.cons.inj hrest).1
      subst hz
      rw [List.append_assoc, List.cons_append, List.flatMap_append, List.flatMap_cons, List.nodup_append,
        List.nodup_append] at hnodup
      exact absurd rfl (hnodup.2.1.2.2 name hy name (List.mem_flatMap.mpr ⟨x, by simp, hx⟩))

/-- A composition for an assigned call is formed if its class stands before the statement. -/
theorem formedIn_of_before {config : Document} {before all : List String} {s : Stmt} {call : Nat}
    {r : Relation} (hstep : .compose call r ∈ stmtSteps config s) (htarget : r.target ∈ before) :
    FormedIn config before all s r := by
  -- the first step for the call is this one
  obtain ⟨done, rest, hsplit, hfirst⟩ := List.eq_append_cons_of_mem hstep
  have hnew : call ∉ remembered done := by
    intro hcall
    obtain ⟨t, ht, hrem⟩ := mem_remembered.mp hcall
    have htame := tame_stmtSteps config s
    rw [hsplit] at htame
    have he := (List.pairwise_append.mp htame).2.2 t ht _ List.mem_cons_self call rfl
      (Step.call?_of_remembered? hrem)
    exact hfirst (he ▸ ht)
  refine ⟨done, .compose call r, rest, hsplit, ?_, Or.inl ⟨?_, List.mem_append_left _ htarget⟩⟩
  · rw [Step.tries?, if_neg fun hc => hnew (List.contains_iff_mem.mp hc)]
  · exact List.mem_append_right _ (source_mem_done hsplit)

/-- If all of the relations are also found in the reverse order, then every statement is indifferent to
those before it. -/
theorem indifferent_of_reverse {config : Document} {statements : List Stmt}
    (hsound : ∀ s ∈ statements, Sound config s) (hnodup : (broughtBy config statements).Nodup)
    (hsame : ∀ r, Forms config statements r → Forms config statements.reverse r) :
    statements.Pairwise fun s t => Indifferent config t s := by
  refine List.pairwise_iff_forall_sublist.mpr fun {s t} hsub => ?_
  -- cut the statements at `t`; then `s` stands somewhere before
  obtain ⟨front, back, rfl, hs, hback⟩ := List.cons_sublist_iff.mp hsub
  obtain ⟨between, after, rfl⟩ := List.append_of_mem (List.singleton_sublist.mp hback)
  rw [← List.append_assoc] at hsound hnodup hsame
  have hs := List.mem_append_left between hs
  generalize front ++ between = before at *
  intro r hr htarget
  obtain ⟨call, hstep⟩ := mem_assignedCompositions.mp hr
  rw [← arrivals_stmtSteps (hsound s (List.mem_append_left _ hs))] at htarget
  have hforms : Forms config (before ++ t :: after) r :=
    ⟨before, t, after, rfl, formedIn_of_before hstep (mem_broughtBy.mpr ⟨s, hs, htarget⟩)⟩
  have hsource : r.source ∈ arrivals (stmtSteps config t) := by
    obtain ⟨name, ids, hby, hname⟩ := by_stmtSteps hstep (by simp)
    exact hby.1 ▸ hname
  -- in the reverse order it is `t` again that forms the relation, now without `s` before it
  obtain ⟨before', t', after', hsplit, done, step, rest, hown, htry, hjoins⟩ := hsame r hforms
  have hstep' : step ∈ stmtSteps config t' := by
    rw [hown]
    exact List.mem_append_right _ List.mem_cons_self
  have hsource' := source_mem_arrivals hstep' htry
  have hreverse : (before ++ t :: after).reverse = after.reverse ++ t :: before.reverse := by simp
  have hnodup' : (broughtBy config (after.reverse ++ t :: before.reverse)).Nodup := by
    rw [← hreverse]
    exact ((List.reverse_perm _).flatMap_right _).nodup_iff.mpr hnodup
  obtain ⟨rfl, rfl⟩ := split_unique (hreverse.symm.trans hsplit) hnodup' hsource hsource'
  rcases tries?_cases htry with rfl | ⟨call', rfl⟩ | ⟨call', rfl⟩
  · exact mem_statedRelations.mpr hstep'
  · -- a composition again: but then its class is brought by `t` or behind it as well
    have hnow := (hjoins.resolve_right fun h => absurd h.1 (by simp [Step.remembered?])).2
    have hother : r.target ∈ broughtBy config (t :: after) := by
      rw [broughtBy, List.flatMap_cons, List.mem_append]
      rcases List.mem_append.mp hnow with hnow | hnow
      · obtain ⟨u, hu, htarget'⟩ := mem_broughtBy.mp hnow
        exact Or.inr (mem_broughtBy.mpr ⟨u, List.mem_reverse.mp hu, htarget'⟩)
      · rw [hown, arrivals_append]
        exact Or.inl (List.mem_append_left _ hnow)
    rw [broughtBy, List.flatMap_append, List.nodup_append] at hnodup
    exact absurd rfl (hnodup.2.2 r.target (mem_broughtBy.mpr ⟨s, hs, htarget⟩) r.target hother)
  · exact absurd hstep' (compose_ne_depend hstep)

/-! ## Rearranged modules -/

/-- The same modules in any order, each with its statements in any order. -/
def Rearranged (modules rearranged : List (List Stmt)) : Prop :=
  ∃ middle, List.Forall₂ List.Perm modules middle ∧ middle.Perm rearranged

theorem Rearranged.flatten_perm {modules rearranged : List (List Stmt)}
    (h : Rearranged modules rearranged) : modules.flatten.Perm rearranged.flatten := by
  obtain ⟨middle, hinner, houter⟩ := h
  refine List.Perm.trans ?_ houter.flatten
  clear houter
  induction hinner with
  | nil => exact List.Perm.refl _
  | cons hhead _ ih => exact hhead.append ih

/-- Everything in the reverse order. -/
theorem rearranged_reverse (modules : List (List Stmt)) :
    Rearranged modules (modules.map List.reverse).reverse :=
  ⟨modules.map List.reverse,
    List.forall₂_map_right_iff.mpr (List.forall₂_same.mpr fun m _ => (List.reverse_perm m).symm),
    (List.reverse_perm _).symm⟩

instance (config : Document) (s other : Stmt) : Decidable (Indifferent config s other) :=
  inferInstanceAs (Decidable (∀ r ∈ assignedCompositions config s,
    r.target ∈ (visible (leavesOut config) other).map (·.name) → r ∈ statedRelations config s))

instance (config : Document) (s t : Stmt) : Decidable (Unrelated config s t) :=
  inferInstanceAs (Decidable (Indifferent config s t ∧ Indifferent config t s))

/--
**When the order of definitions does not matter.**

Let no visit end in a fault and let all visible classes have different names. Then no rearrangement of
modules and statements ends in a fault either. All of them give the same relations iff the statements are
pairwise unrelated: no statement assigns a call of a class that another one defines, except where it
states that composition in an annotation besides.
-/
theorem relations_order_free_iff (config : Document) (modules : List (List Stmt))
    (hran : (twoPasses config modules).2 = none)
    (hnames : ((visibleAll (leavesOut config) modules.flatten).map (·.name)).Nodup) :
    (∀ rearranged, Rearranged modules rearranged → (twoPasses config rearranged).2 = none)
      ∧ ((∀ rearranged, Rearranged modules rearranged → ∀ r,
            r ∈ (twoPasses config rearranged).1.graph.relations
              ↔ r ∈ (twoPasses config modules).1.graph.relations)
          ↔ modules.flatten.Pairwise (Unrelated config)) := by
  have hsound := (twoPasses_sound_iff config modules).mp hran
  have hsound' : ∀ rearranged, Rearranged modules rearranged →
      ∀ s ∈ rearranged.flatten, Sound config s :=
    fun _ hre s hs => hsound s (hre.flatten_perm.mem_iff.mpr hs)
  rw [← arrivals_eq_visibleAll hsound] at hnames
  -- necessary: the reverse of everything is a rearrangement, and so is its own reverse
  refine ⟨fun rearranged hre => (twoPasses_sound_iff config rearranged).mpr (hsound' rearranged hre),
    fun hsame => ?_, fun hpair rearranged hre r => ?_⟩
  · have hreverse : ∀ r, Forms config modules.flatten.reverse r ↔ Forms config modules.flatten r := by
      intro r
      have hrev := hsame _ (rearranged_reverse modules) r
      rw [mem_relations_twoPasses hsound, mem_relations_twoPasses (hsound' _ (rearranged_reverse modules)),
        ← List.reverse_flatten] at hrev
      exact hrev
    have hforward := indifferent_of_reverse hsound hnames fun r h => (hreverse r).mpr h
    have hbackward : modules.flatten.reverse.Pairwise fun s t => Indifferent config t s := by
      refine indifferent_of_reverse (fun s hs => hsound s (List.mem_reverse.mp hs)) ?_ fun r h => ?_
      · exact ((List.reverse_perm _).flatMap_right _).nodup_iff.mpr hnames
      · rw [List.reverse_reverse]
        exact (hreverse r).mp h
    exact (List.pairwise_reverse.mp hbackward).and hforward
  · rw [mem_relations_twoPasses hsound, mem_relations_twoPasses (hsound' rearranged hre)]
    exact forms_perm hsound hpair hre.flatten_perm

/-- A class whose constructor assigns the value of a call to an attribute, behind these statements. -/
def keeper (behind : List Stmt) : Stmt :=
  .classDef "Keeper" [] []
    (behind ++ [.functionDef false "__init__" (.mk [] [.mk "self" none none] none [] none)
      [.assign [.member (.name "self") "kept"] (.call (.name "Kept") [] [])] [] none]) []

/-- The class that is called there. -/
def kept : Stmt := .classDef "Kept" [] [] [.pass] []

/-- An annotation that states the same composition. -/
def statedKept : Stmt := .annAssign (.name "kept") (.name "Kept") none

/-- A class derived from the one that is called, inside of another statement. -/
def heir : Stmt := .conditional (.name "ready") [.classDef "Heir" [.name "Kept"] [] [.pass] []] []

theorem annotated_keeper_order_free :
    (twoPasses errorsLeftOut [[keeper [statedKept]], [kept, heir]]).2 = none
      ∧ ((visibleAll (leavesOut errorsLeftOut) [keeper [statedKept], kept, heir]).map (·.name)).Nodup
      ∧ ∀ rearranged, Rearranged [[keeper [statedKept]], [kept, heir]] rearranged → ∀ r,
        r ∈ (twoPasses errorsLeftOut rearranged).1.graph.relations
          ↔ r ∈ (twoPasses errorsLeftOut [[keeper [statedKept]], [kept, heir]]).1.graph.relations :=
  ⟨by decide +kernel, by decide, (relations_order_free_iff errorsLeftOut [[keeper [statedKept]], [kept, heir]]
    (by decide +kernel) (by decide)).2.mpr (by decide)⟩

/-- Without the annotation the composition is found in one order only. -/
theorem keeper_order_shows :
    Rearranged [[keeper [], kept]] [[kept, keeper []]]
      ∧ (twoPasses errorsLeftOut [[keeper [], kept]]).2 = none
      ∧ ((visibleAll (leavesOut errorsLeftOut) [keeper [], kept]).map (·.name)).Nodup
      ∧ (twoPasses errorsLeftOut [[kept, keeper []]]).1.graph.relations
        = [⟨"Keeper", "Kept", .composition⟩]
      ∧ (twoPasses errorsLeftOut [[keeper [], kept]]).1.graph.relations = [] :=
  ⟨⟨[[kept, keeper []]], List.Forall₂.cons (List.Perm.swap _ _ _) .nil, List.Perm.refl _⟩, by rfl,
    by decide, by rfl, by rfl⟩

end ClassAtlas.Proofs
