import ClassAtlas.Proofs.Order

/-!
# Relations that get a second chance

Bases, annotations, parameters and calls in functions are all looked at in both passes. So a relation
that is no composition is found iff some statement *attempts* it and both its classes are there in the
end: the order in which they came plays no part (`mem_relations_iff_attempts`). A statement attempts
what it states outright, and what it asks for by a call that it never remembers.
-/

namespace ClassAtlas.Proofs

open ClassAtlas Analysis Source

/-! ## Attempts of a list of steps -/

/-- The steps state the relation, or ask for it by a call that none of them remembers. -/
def Attempts (steps : List Step) (r : Relation) : Prop :=
  .relate r ∈ steps ∨ ∃ call, .depend call r ∈ steps ∧ call ∉ remembered steps

theorem not_attempts_nil (r : Relation) : ¬ Attempts [] r := by
  rintro (h | ⟨call, h, -⟩)
  · exact absurd h (by simp)
  · exact absurd h (by simp)

/-- A call that is remembered is asked for by the step that remembers it. -/
theorem call?_of_mem_remembered {steps : List Step} {call : Nat} (h : call ∈ remembered steps) :
    ∃ s ∈ steps, s.call? = some call := by
  obtain ⟨s, hs, hcall⟩ := mem_remembered.mp h
  exact ⟨s, hs, Step.call?_of_remembered? hcall⟩

/-- **Steps that ask for different calls attempt what each part attempts.** -/
theorem attempts_append {steps more : List Step} {r : Relation}
    (hapart : ∀ s ∈ steps, ∀ t ∈ more, ∀ call, s.call? = some call → t.call? ≠ some call) :
    Attempts (steps ++ more) r ↔ Attempts steps r ∨ Attempts more r := by
  constructor
  · rintro (h | ⟨call, h, hnew⟩)
    · exact (List.mem_append.mp h).imp Or.inl Or.inl
    · rw [remembered_append, List.mem_append, not_or] at hnew
      rcases List.mem_append.mp h with h | h
      · exact Or.inl (Or.inr ⟨call, h, hnew.1⟩)
      · exact Or.inr (Or.inr ⟨call, h, hnew.2⟩)
  · rintro ((h | ⟨call, h, hnew⟩) | (h | ⟨call, h, hnew⟩))
    · exact Or.inl (List.mem_append_left _ h)
    · -- the other part does not know the call at all
      refine Or.inr ⟨call, List.mem_append_left _ h, ?_⟩
      rw [remembered_append, List.mem_append, not_or]
      refine ⟨hnew, fun hmore => ?_⟩
      obtain ⟨t, ht, hcall⟩ := call?_of_mem_remembered hmore
      exact hapart _ h t ht call rfl hcall
    · exact Or.inl (List.mem_append_right _ h)
    · refine Or.inr ⟨call, List.mem_append_right _ h, ?_⟩
      rw [remembered_append, List.mem_append, not_or]
      refine ⟨fun hsteps => ?_, hnew⟩
      obtain ⟨s, hs, hcall⟩ := call?_of_mem_remembered hsteps
      exact hapart s hs _ h call hcall rfl

/-- Steps that ask for nothing attempt what they state. -/
theorem attempts_quiet_append {quiet steps : List Step} {r : Relation}
    (hquiet : ∀ s ∈ quiet, s.call? = none) :
    Attempts (quiet ++ steps) r ↔ .relate r ∈ quiet ∨ Attempts steps r := by
  have hown : Attempts quiet r ↔ .relate r ∈ quiet := by
    refine or_iff_left ?_
    rintro ⟨call, h, -⟩
    exact absurd (hquiet _ h) (by simp [Step.call?])
  rw [attempts_append fun s hs t _ call hcall => absurd ((hquiet s hs).symm.trans hcall) (by simp), hown]

/-- Steps of several things, each of which has numbers of its own. -/
theorem attempts_flatMap {α : Type} {f : α → List Step} {ids : α → List Nat} {l : List α} {r : Relation}
    (hids : ∀ a ∈ l, ∀ s ∈ f a, ∀ call, s.call? = some call → call ∈ ids a)
    (hnodup : (l.flatMap ids).Nodup) : Attempts (l.flatMap f) r ↔ ∃ a ∈ l, Attempts (f a) r := by
  induction l with
  | nil => simp [not_attempts_nil]
  | cons a l ih =>
    rw [List.flatMap_cons, List.nodup_append] at hnodup
    have hmine := hids a List.mem_cons_self
    have hrest : ∀ b ∈ l, ∀ s ∈ f b, ∀ call, s.call? = some call → call ∈ ids b :=
      fun b hb => hids b (List.mem_cons_of_mem a hb)
    have hapart : ∀ s ∈ f a, ∀ t ∈ l.flatMap f, ∀ call, s.call? = some call → t.call? ≠ some call := by
      intro s hs t ht call hfirst hlater
      obtain ⟨b, hb, ht⟩ := List.mem_flatMap.mp ht
      have hother : call ∈ l.flatMap ids := List.mem_flatMap.mpr ⟨b, hb, hrest b hb t ht call hlater⟩
      exact hnodup.2.2 call (hmine s hs call hfirst) call hother rfl
    rw [List.flatMap_cons, attempts_append hapart, ih hrest hnodup.2.1]
    simp

/-! ## Two passes -/

/-- A relation that is no composition is tried by a step that remembers nothing. -/
theorem forgetful_of_tries {config : Document} {s : Stmt} {step : Step} {ids : List Nat} {r : Relation}
    (hstep : step ∈ stmtSteps config s) (htry : step.tries? ids = some r) (hkind : r.kind ≠ .composition) :
    step.remembered? = none := by
  rcases tries?_cases htry with rfl | ⟨call, rfl⟩ | ⟨call, rfl⟩
  · rfl
  · obtain ⟨_, _, hby, -⟩ := by_stmtSteps hstep (by simp)
    exact absurd hby.2.1 hkind
  · rfl

/-- A statement attempts a relation iff one of its steps tries it and remembers nothing. -/
theorem attempts_iff_tries {config : Document} {s : Stmt} {r : Relation} :
    Attempts (stmtSteps config s) r ↔ ∃ done step rest, stmtSteps config s = done ++ step :: rest
      ∧ step.tries? (remembered done) = some r ∧ step.remembered? = none := by
  constructor
  · rintro (h | ⟨call, h, hnew⟩)
    · obtain ⟨done, rest, hsplit⟩ := List.append_of_mem h
      exact ⟨done, _, rest, hsplit, rfl, rfl⟩
    · obtain ⟨done, rest, hsplit⟩ := List.append_of_mem h
      refine ⟨done, _, rest, hsplit, ?_, rfl⟩
      rw [hsplit, remembered_append, List.mem_append, not_or] at hnew
      rw [Step.tries?, if_neg fun hc => hnew.1 (List.contains_iff_mem.mp hc)]
  · rintro ⟨done, step, rest, hsplit, htry, hforgets⟩
    have htame := tame_stmtSteps config s
    have hstep : step ∈ stmtSteps config s := by
      rw [hsplit]
      exact List.mem_append_right _ List.mem_cons_self
    -- what is not remembered when it is asked for is not remembered later either
    rw [hsplit] at htame
    have hall := htame.tries?_all hforgets htry
    rw [← hsplit] at hall
    rcases tries?_cases htry with rfl | ⟨call, rfl⟩ | ⟨call, rfl⟩
    · exact Or.inl hstep
    · exact absurd hforgets (by simp [Step.remembered?])
    · refine Or.inr ⟨call, hstep, fun hcall => ?_⟩
      rw [Step.tries?, if_pos (List.contains_iff_mem.mpr hcall)] at hall
      exact absurd hall (by simp)

theorem mem_names_twoPasses {config : Document} {modules : List (List Stmt)}
    (h : ∀ s ∈ modules.flatten, Sound config s) {name : String} :
    name ∈ (twoPasses config modules).1.graph.names ↔ name ∈ broughtBy config modules.flatten := by
  rw [twoPasses_graph h, mem_names_replay, mem_names_replay, arrivals_numberedSteps]
  simp [broughtBy, ClassGraph.names]

/-- **A relation that is no composition is found iff a statement attempts it and its target is there.** -/
theorem mem_relations_iff_attempts {config : Document} {modules : List (List Stmt)}
    (h : ∀ s ∈ modules.flatten, Sound config s) {r : Relation} (hkind : r.kind ≠ .composition) :
    r ∈ (twoPasses config modules).1.graph.relations ↔
      r.target ∈ (twoPasses config modules).1.graph.names
        ∧ ∃ s ∈ modules.flatten, Attempts (stmtSteps config s) r := by
  rw [mem_relations_twoPasses h, mem_names_twoPasses h]
  constructor
  · rintro ⟨before, s, after, hmodules, done, step, rest, hsplit, htry, hjoins⟩
    have hs : s ∈ modules.flatten := by
      rw [hmodules]
      exact List.mem_append_right _ List.mem_cons_self
    have hstep : step ∈ stmtSteps config s := by
      rw [hsplit]
      exact List.mem_append_right _ List.mem_cons_self
    refine ⟨?_, s, hs, attempts_iff_tries.mpr
      ⟨done, step, rest, hsplit, htry, forgetful_of_tries hstep htry hkind⟩⟩
    rcases hjoins with hnow | ⟨-, hall⟩
    · -- what was there in time is there in the end
      rw [mem_broughtBy]
      rcases List.mem_append.mp hnow.2 with htarget | htarget
      · obtain ⟨t, ht, htarget⟩ := mem_broughtBy.mp htarget
        exact ⟨t, hmodules ▸ List.mem_append_left _ ht, htarget⟩
      · refine ⟨s, hs, ?_⟩
        rw [hsplit, arrivals_append]
        exact List.mem_append_left _ htarget
    · exact hall.2
  · rintro ⟨htarget, s, hs, hattempts⟩
    obtain ⟨done, step, rest, hsplit, htry, hforgets⟩ := attempts_iff_tries.mp hattempts
    obtain ⟨before, after, hmodules⟩ := List.append_of_mem hs
    have hstep : step ∈ stmtSteps config s := by
      rw [hsplit]
      exact List.mem_append_right _ List.mem_cons_self
    have hsource : r.source ∈ broughtBy config modules.flatten :=
      mem_broughtBy.mpr ⟨s, hs, source_mem_arrivals hstep htry⟩
    exact ⟨before, s, after, hmodules, done, step, rest, hsplit, htry,
      Or.inr ⟨hforgets, hsource, htarget⟩⟩

end ClassAtlas.Proofs
