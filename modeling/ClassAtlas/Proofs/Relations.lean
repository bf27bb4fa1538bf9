import ClassAtlas.Proofs.Fixpoint
import ClassAtlas.Proofs.Visible

/-!
# Which relations two passes find

In two passes most relations get a second chance: what was refused because a class was missing is tried
again when all classes are there. A composition for an assigned call gets no second chance, since the
first try makes the call remembered, whether it was accepted or not. `Lands` says this of a list of
steps, `FormedIn` of a single statement among others, and `mem_relations_twoPasses` puts the two together.
-/

namespace ClassAtlas.Proofs

open ClassAtlas Analysis ClassGraph Source

/-! ## Steps -/

/-- Both classes of the relation are among these. -/
def Joins (names : List String) (r : Relation) : Prop :=
  r.source ∈ names ∧ r.target ∈ names

theorem Joins.mono {names more : List String} {r : Relation} (h : Joins names r)
    (hsub : ∀ name ∈ names, name ∈ more) : Joins more r :=
  ⟨hsub _ h.1, hsub _ h.2⟩

/-- Some step tries the relation in time: a step that remembers a call has to find both classes on the
spot, for any other step they may come later. -/
def Lands (steps : List Step) (r : Relation) : Prop :=
  ∃ done s rest, steps = done ++ s :: rest ∧ s.tries? (remembered done) = some r
    ∧ (Joins (arrivals done) r ∨ s.remembered? = none ∧ Joins (arrivals steps) r)

theorem tries?_congr {a b : List Nat} (h : ∀ call, call ∈ a ↔ call ∈ b) (s : Step) :
    s.tries? a = s.tries? b := by
  have hcontains : ∀ call, a.contains call = b.contains call := by
    intro call
    rw [Bool.eq_iff_iff, List.contains_iff_mem, List.contains_iff_mem]
    exact h call
  cases s with
  | compose call r => simp only [Step.tries?, hcontains]
  | depend call r => simp only [Step.tries?, hcontains]
  | _ => rfl

/-- A step that tries a relation tries it also when fewer calls are remembered. -/
theorem tries?_of_subset {a b : List Nat} {s : Step} {r : Relation} (hsub : ∀ call ∈ a, call ∈ b)
    (h : s.tries? b = some r) : s.tries? a = some r := by
  have hcontains : ∀ call, ¬ b.contains call = true → ¬ a.contains call = true := by
    intro call hb ha
    exact hb (List.contains_iff_mem.mpr (hsub call (List.contains_iff_mem.mp ha)))
  cases s with
  | compose call q =>
    simp only [Step.tries?] at h ⊢
    split at h
    · exact absurd h (by simp)
    · rename_i hb
      rw [if_neg (hcontains call hb)]
      exact h
  | depend call q =>
    simp only [Step.tries?] at h ⊢
    split at h
    · exact absurd h (by simp)
    · rename_i hb
      rw [if_neg (hcontains call hb)]
      exact h
  | _ => exact h

theorem mem_remembered {steps : List Step} {call : Nat} :
    call ∈ remembered steps ↔ ∃ s ∈ steps, s.remembered? = some call :=
  List.mem_filterMap

/-- Among tame steps, a step that only asks for a call finds it remembered at once or never. -/
theorem Tame.tries?_all {done rest : List Step} {s : Step} {r : Relation}
    (h : Tame (done ++ s :: rest)) (hs : s.remembered? = none) (htry : s.tries? (remembered done) = some r) :
    s.tries? (remembered (done ++ s :: rest)) = some r := by
  -- a step that remembered the call further on would have to be this very step
  have hlater := (List.pairwise_cons.mp (List.pairwise_append.mp h).2.1).1
  cases s with
  | depend call q =>
    have hnew : call ∉ remembered done := by
      intro hcall
      rw [Step.tries?, if_pos (List.contains_iff_mem.mpr hcall)] at htry
      exact absurd htry (by simp)
    have hall : call ∉ remembered (done ++ .depend call q :: rest) := by
      rw [remembered_append, remembered_cons, List.mem_append, not_or]
      refine ⟨hnew, fun hcall => ?_⟩
      obtain ⟨t, ht, hrem⟩ := mem_remembered.mp hcall
      have he := hlater t ht call hrem rfl
      rw [← he] at hrem
      exact absurd hrem (by simp [Step.remembered?])
    rw [Step.tries?, if_neg fun hc => hnew (List.contains_iff_mem.mp hc)] at htry
    rw [Step.tries?, if_neg fun hc => hall (List.contains_iff_mem.mp hc)]
    exact htry
  | compose call q => exact absurd hs (by simp [Step.remembered?])
  | _ => exact htry

theorem knows_replay {done : List Step} {r : Relation} :
    (replay done {}).graph.Knows r ↔ Joins (arrivals done) r := by
  have hnames : ∀ name, name ∈ (replay done {}).graph.names ↔ name ∈ arrivals done := by
    intro name
    rw [mem_names_replay]
    exact or_iff_left (by simp [ClassGraph.names])
  unfold Knows Joins
  rw [hnames, hnames]

theorem mem_composed_replay_empty {done : List Step} (call : Nat) :
    call ∈ (replay done {}).composed ↔ call ∈ remembered done := by
  rw [mem_composed_replay]
  exact or_iff_left (by simp)

/-- **The relations after two replays of tame steps are those that land.** -/
theorem mem_relations_twice {steps : List Step} (h : Tame steps) {r : Relation} :
    r ∈ (replay steps (replay steps {})).graph.relations ↔ Lands steps r := by
  have hcomplete := complete_replay steps
  rw [mem_relations_replay, mem_relations_replay]
  constructor
  · rintro ((hold | ⟨done, s, rest, hsplit, htry, hknown⟩) | ⟨done, s, rest, hsplit, htry, hknown⟩)
    · exact absurd hold (by simp)
    · -- in the first pass both classes were there already
      rw [tries?_congr mem_composed_replay_empty] at htry
      exact ⟨done, s, rest, hsplit, htry, Or.inl (knows_replay.mp hknown)⟩
    · -- in the second pass all calls are remembered, so it was no composition
      rw [hcomplete.composed_replay hsplit, tries?_congr mem_composed_replay_empty] at htry
      unfold Knows at hknown
      rw [hcomplete.names_replay hsplit] at hknown
      refine ⟨done, s, rest, hsplit, tries?_of_subset (fun call hcall => ?_) htry,
        Or.inr ⟨?_, knows_replay.mp hknown⟩⟩
      · rw [hsplit, remembered_append]
        exact List.mem_append_left _ hcall
      · cases s with
        | compose call q =>
          have hcall : call ∈ remembered steps :=
            mem_remembered.mpr ⟨.compose call q, by rw [hsplit]; simp, rfl⟩
          rw [Step.tries?, if_pos (List.contains_iff_mem.mpr hcall)] at htry
          exact absurd htry (by simp)
        | _ => rfl
  · rintro ⟨done, s, rest, hsplit, htry, hnow | ⟨hs, hall⟩⟩
    · refine Or.inl (Or.inr ⟨done, s, rest, hsplit, ?_, knows_replay.mpr hnow⟩)
      rw [tries?_congr mem_composed_replay_empty]
      exact htry
    · refine Or.inr ⟨done, s, rest, hsplit, ?_, ?_⟩
      · rw [hcomplete.composed_replay hsplit, tries?_congr mem_composed_replay_empty]
        subst hsplit
        exact h.tries?_all hs htry
      · unfold Knows
        rw [hcomplete.names_replay hsplit]
        exact knows_replay.mpr hall

/-! ## Numbers of different statements -/

theorem call_lt_callCount {config : Document} {s : Stmt} {step : Step} {call : Nat}
    (hstep : step ∈ stmtSteps config s) (hcall : step.call? = some call) : call < callCount s := by
  have hids : ∀ c ∈ outlineCalls (outlineOf s), c.id ∈ List.range (callCount s) := by
    intro c hc
    rw [← ids_outlineOf]
    exact List.mem_map_of_mem hc
  exact List.mem_range.mp
    ((placed_trace config (outlineOf s) none (proper_outlineOf s) hids step hstep).call_mem hcall)

theorem call?_renumber (f : Nat → Nat) (s : Step) : (s.renumber f).call? = s.call?.map f := by
  cases s <;> rfl

theorem remembered?_renumber (f : Nat → Nat) (s : Step) :
    (s.renumber f).remembered? = s.remembered?.map f := by
  cases s <;> rfl

theorem remembered_map_renumber (f : Nat → Nat) (steps : List Step) :
    remembered (steps.map (Step.renumber f)) = (remembered steps).map f := by
  unfold remembered
  rw [List.filterMap_map, List.map_filterMap]
  exact congrArg (List.filterMap · steps) (funext fun s => remembered?_renumber f s)

theorem tame_stmtSteps (config : Document) (s : Stmt) : Tame (stmtSteps config s) := by
  refine tame_trace config (outlineOf s) none (proper_outlineOf s) ?_
  rw [ids_outlineOf]
  exact List.nodup_range

theorem Tame.map_renumber {steps : List Step} (h : Tame steps) (n : Nat) :
    Tame (steps.map (Step.renumber (n + ·))) := by
  refine List.pairwise_map.mpr (h.imp fun {s t} hagree call hlater hfirst => ?_)
  rw [remembered?_renumber, Option.map_eq_some_iff] at hlater
  rw [call?_renumber, Option.map_eq_some_iff] at hfirst
  obtain ⟨c, hc, rfl⟩ := hlater
  obtain ⟨c', hc', he⟩ := hfirst
  rw [Nat.add_left_cancel he] at hc'
  rw [hagree c hc hc']

/-- A step of an earlier statement asks for a smaller call than one of a later statement. -/
theorem call_lt_of_earlier {config : Document} {p q : Nat × Stmt} (hle : p.1 + callCount p.2 ≤ q.1)
    {s t : Step} (hs : s ∈ movedSteps config p) (ht : t ∈ movedSteps config q) {call later : Nat}
    (hcall : s.call? = some call) (hlater : t.call? = some later) : call < later := by
  obtain ⟨s', hs', rfl⟩ := List.mem_map.mp hs
  obtain ⟨t', ht', rfl⟩ := List.mem_map.mp ht
  rw [call?_renumber, Option.map_eq_some_iff] at hcall hlater
  obtain ⟨c, hc, rfl⟩ := hcall
  obtain ⟨c', -, rfl⟩ := hlater
  have hlt := call_lt_callCount hs' hc
  omega

theorem tame_numberedSteps (config : Document) (statements : List Stmt) :
    Tame (numberedSteps config statements) := by
  refine List.pairwise_flatMap.mpr ⟨fun p _ => (tame_stmtSteps config p.2).map_renumber p.1, ?_⟩
  refine (pairwise_numbered 0 statements).imp fun {p q} hle s hs t ht call hlater hfirst => ?_
  have hlt := call_lt_of_earlier hle hs ht hfirst (Step.call?_of_remembered? hlater)
  exact absurd hlt (Nat.lt_irrefl call)

/-- A step finds the same of its own calls remembered under every numbering, whatever else is. -/
theorem tries?_renumber {s : Step} (n : Nat) (own : List Nat) {others : List Nat}
    (hothers : ∀ call, s.call? = some call → n + call ∉ others) :
    (s.renumber (n + ·)).tries? (others ++ own.map (n + ·)) = s.tries? own := by
  have hcontains : ∀ call, s.call? = some call →
      (others ++ own.map (n + ·)).contains (n + call) = own.contains call := by
    intro call hcall
    rw [Bool.eq_iff_iff, List.contains_iff_mem, List.contains_iff_mem, List.mem_append, List.mem_map]
    constructor
    · rintro (h | ⟨c, hc, he⟩)
      · exact absurd h (hothers call hcall)
      · exact Nat.add_left_cancel he ▸ hc
    · exact fun h => Or.inr ⟨call, h, rfl⟩
  cases s with
  | compose call r => simp only [Step.renumber, Step.tries?, hcontains call rfl]
  | depend call r => simp only [Step.renumber, Step.tries?, hcontains call rfl]
  | _ => rfl

/-! ## Statements -/

/-- A statement forms the relation, with these classes before it and these in all. -/
def FormedIn (config : Document) (before all : List String) (s : Stmt) (r : Relation) : Prop :=
  ∃ done step rest, stmtSteps config s = done ++ step :: rest ∧ step.tries? (remembered done) = some r
    ∧ (Joins (before ++ arrivals done) r ∨ step.remembered? = none ∧ Joins all r)

theorem FormedIn.mono {config : Document} {before before' all all' : List String} {s : Stmt}
    {r : Relation} (h : FormedIn config before all s r) (hbefore : ∀ name ∈ before, name ∈ before')
    (hall : ∀ name ∈ all, name ∈ all') : FormedIn config before' all' s r := by
  obtain ⟨done, step, rest, hsplit, htry, hjoins⟩ := h
  refine ⟨done, step, rest, hsplit, htry, hjoins.imp (fun hj => hj.mono fun name hname => ?_)
    fun hj => ⟨hj.1, hj.2.mono hall⟩⟩
  rw [List.mem_append] at hname ⊢
  exact hname.imp_left (hbefore name)

/-- The classes that statements bring. -/
def broughtBy (config : Document) (statements : List Stmt) : List String :=
  statements.flatMap fun s => arrivals (stmtSteps config s)

/-- A place in a list of lists is a place in one of them. -/
theorem flatMap_eq_append_cons {α β : Type} {f : α → List β} {l : List α} {done rest : List β} {b : β}
    (h : l.flatMap f = done ++ b :: rest) :
    ∃ before a after d e, l = before ++ a :: after ∧ f a = d ++ b :: e
      ∧ done = before.flatMap f ++ d := by
  induction l generalizing done with
  | nil => exact absurd h (by simp)
  | cons a l ih =>
    rw [List.flatMap_cons] at h
    rcases List.append_eq_append_iff.mp h with ⟨later, rfl, hlater⟩ | ⟨mine, ha, hmine⟩
    · obtain ⟨before, x, after, d, e, rfl, hx, rfl⟩ := ih hlater
      exact ⟨a :: before, x, after, d, e, rfl, hx, by rw [List.flatMap_cons, List.append_assoc]⟩
    · cases mine with
      | nil =>
        -- the place is at the very start of what follows `a`
        have hlater : l.flatMap f = [] ++ b :: rest := hmine.symm
        obtain ⟨before, x, after, d, e, rfl, hx, hd⟩ := ih hlater
        refine ⟨a :: before, x, after, d, e, rfl, hx, ?_⟩
        rw [List.flatMap_cons, List.append_assoc, ← hd, ha, List.append_nil, List.append_nil]
      | cons c mine =>
        rw [List.cons_append] at hmine
        injection hmine with hb _
        subst hb
        exact ⟨[], a, l, done, mine, rfl, ha, rfl⟩

/-- Where a step of a statement stands among all steps: what it tries, and which classes came before. -/
theorem place_in_numberedSteps {config : Document} {ps qs : List (Nat × Stmt)} {p : Nat × Stmt}
    (hnumbers : (ps ++ p :: qs).Pairwise fun p q => p.1 + callCount p.2 ≤ q.1) {done rest : List Step}
    {step : Step} (hown : stmtSteps config p.2 = done ++ step :: rest) :
    let earlier := ps.flatMap (movedSteps config) ++ done.map (Step.renumber (p.1 + ·))
    (step.renumber (p.1 + ·)).tries? (remembered earlier) = step.tries? (remembered done)
      ∧ arrivals earlier = broughtBy config (ps.map Prod.snd) ++ arrivals done := by
  refine ⟨?_, ?_⟩
  · rw [remembered_append, remembered_map_renumber]
    refine tries?_renumber p.1 _ fun call hcall hearlier => ?_
    -- an earlier statement has only smaller numbers
    obtain ⟨t, ht, hrem⟩ := mem_remembered.mp hearlier
    obtain ⟨q, hq, ht⟩ := List.mem_flatMap.mp ht
    have hle := (List.pairwise_append.mp hnumbers).2.2 q hq p List.mem_cons_self
    have hmine : step.renumber (p.1 + ·) ∈ movedSteps config p := by
      rw [movedSteps, hown]
      exact List.mem_map_of_mem (List.mem_append_right _ List.mem_cons_self)
    have hask : (step.renumber (p.1 + ·)).call? = some (p.1 + call) := by
      rw [call?_renumber, hcall]
      rfl
    have hlt := call_lt_of_earlier hle ht hmine (Step.call?_of_remembered? hrem) hask
    exact Nat.lt_irrefl _ hlt
  · rw [arrivals_append, arrivals_map_renumber, arrivals_flatMap, broughtBy, List.flatMap_map]
    exact congrArg (· ++ _) (congrArg (List.flatMap · ps) (funext fun q => arrivals_movedSteps config q))

/-- **A relation lands in a pass iff one of the statements forms it.** -/
theorem lands_numberedSteps_iff {config : Document} {statements : List Stmt} {r : Relation} :
    Lands (numberedSteps config statements) r ↔
      ∃ before s after, statements = before ++ s :: after
        ∧ FormedIn config (broughtBy config before) (broughtBy config statements) s r := by
  have hnumbers := pairwise_numbered 0 statements
  have hall : arrivals (numberedSteps config statements) = broughtBy config statements :=
    arrivals_numberedSteps config statements
  constructor
  · rintro ⟨done, s, rest, hsplit, htry, hjoins⟩
    obtain ⟨ps, p, qs, d, e, hps, hp, rfl⟩ := flatMap_eq_append_cons hsplit
    obtain ⟨own, more, hown, rfl, hmore⟩ := List.map_eq_append_iff.mp hp
    obtain ⟨step, rest', rfl, rfl, -⟩ := List.map_eq_cons_iff.mp hmore
    rw [hps] at hnumbers
    have hplace := place_in_numberedSteps hnumbers hown
    refine ⟨ps.map Prod.snd, p.2, qs.map Prod.snd, ?_, own, step, rest', hown, ?_, ?_⟩
    · rw [← numbered_map_snd 0 statements, hps, List.map_append, List.map_cons]
    · exact hplace.1 ▸ htry
    · rw [← hplace.2, ← hall]
      refine hjoins.imp_right fun h => ⟨?_, h.2⟩
      rw [remembered?_renumber, Option.map_eq_none_iff] at h
      exact h.1
  · rintro ⟨before, s, after, hstatements, done, step, rest, hown, htry, hjoins⟩
    have hsnd := (numbered_map_snd 0 statements).trans hstatements
    obtain ⟨ps, more, hps, rfl, hmore⟩ := List.map_eq_append_iff.mp hsnd
    obtain ⟨p, qs, rfl, rfl, -⟩ := List.map_eq_cons_iff.mp hmore
    rw [hps] at hnumbers
    have hplace := place_in_numberedSteps hnumbers hown
    refine ⟨_, step.renumber (p.1 + ·), rest.map (Step.renumber (p.1 + ·)) ++ qs.flatMap (movedSteps config),
      ?_, hplace.1.trans htry, ?_⟩
    · rw [numberedSteps, hps, List.flatMap_append, List.flatMap_cons, movedSteps, hown, List.map_append,
        List.map_cons, List.append_assoc, List.append_assoc, List.cons_append]
    · rw [hplace.2, hall, remembered?_renumber, Option.map_eq_none_iff]
      exact hjoins

/-- **The relations after two passes are those that the statements form.** -/
theorem mem_relations_twoPasses {config : Document} {modules : List (List Stmt)}
    (h : ∀ s ∈ modules.flatten, Sound config s) {r : Relation} :
    r ∈ (twoPasses config modules).1.graph.relations ↔
      ∃ before s after, modules.flatten = before ++ s :: after
        ∧ FormedIn config (broughtBy config before) (broughtBy config modules.flatten) s r := by
  rw [twoPasses_graph h, mem_relations_twice (tame_numberedSteps config modules.flatten),
    lands_numberedSteps_iff]

end ClassAtlas.Proofs
