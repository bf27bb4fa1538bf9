import ClassAtlas.Proofs.Replay

/-!
# Passes

A pass visits a list of statements in turn. It starts outside of any class and ends there, so every pass
over the same statements replays the same steps (`visitAll_pass`), and so does every statement of a pass
by itself (`passSteps_eq_flatMap`). Whether a pass ends in a fault does not depend on the state either.
-/

namespace ClassAtlas.Proofs

open ClassAtlas Analysis

/-! ## The current class -/

/-- A sequence that ends in no fault starts with a statement that does not. -/
theorem sound_of_traceAll_cons {config : Document} {o : Outline} {rest : List Outline}
    {current : Option String} (h : (traceAll config (o :: rest) current).fault = none) :
    (trace config o current).fault = none := by
  rw [traceAll] at h
  cases hfirst : (trace config o current).fault with
  | none => rfl
  | some fault => rw [Trace.andThen_of_fault hfirst, hfirst] at h; exact h

mutual

/-- A visit without a fault keeps the current class, or leaves it. -/
theorem trace_current (config : Document) : ∀ (o : Outline) (current : Option String),
    (trace config o current).fault = none →
      (trace config o current).current = current ∨ (trace config o current).current = none
  | .classDef name decorators bases calls body, current, hfault => by
      rw [trace] at hfault ⊢
      match hopen : opening config name decorators bases with
      | .error fault => rw [hopen] at hfault; exact absurd hfault (by simp [classTrace])
      | .ok none => exact Or.inl rfl
      | .ok (some node) =>
        right
        rw [hopen] at hfault
        simp only [classTrace] at hfault ⊢
        rw [hfault]
        rfl
  | .function .., current, _ => Or.inl rfl
  | .assign .., current, _ => Or.inl rfl
  | .annAssign .., current, _ => Or.inl rfl
  | .other calls body, current, hfault => traceAll_current config body current hfault

theorem traceAll_current (config : Document) : ∀ (outlines : List Outline) (current : Option String),
    (traceAll config outlines current).fault = none →
      (traceAll config outlines current).current = current
        ∨ (traceAll config outlines current).current = none
  | [], current, _ => Or.inl rfl
  | o :: rest, current, hfault => by
      have hfirst := sound_of_traceAll_cons hfault
      rw [traceAll, Trace.andThen_of_done hfirst] at hfault ⊢
      have hrest := traceAll_current config rest _ hfault
      rcases trace_current config o current hfirst with he | he
      · rw [he] at hrest ⊢
        exact hrest
      · rw [he] at hrest ⊢
        exact Or.inr (hrest.elim id id)

end

/-! ## One pass -/

/-- The steps of a statement outside of any class. -/
def topSteps (config : Document) (o : Outline) : List Step :=
  (trace config o none).steps

/-- The steps of a pass. -/
def passSteps (config : Document) (outlines : List Outline) : List Step :=
  (traceAll config outlines none).steps

theorem trace_current_none {config : Document} {o : Outline} (h : (trace config o none).fault = none) :
    (trace config o none).current = none :=
  (trace_current config o none h).elim id id

/-- A pass ends in no fault iff none of its statements does. -/
theorem traceAll_fault_iff (config : Document) (outlines : List Outline) :
    (traceAll config outlines none).fault = none
      ↔ ∀ o ∈ outlines, (trace config o none).fault = none := by
  induction outlines with
  | nil => simp [traceAll]
  | cons o rest ih =>
    rw [traceAll, List.forall_mem_cons]
    cases hfirst : (trace config o none).fault with
    | some fault => rw [Trace.andThen_of_fault hfirst, hfirst]; simp
    | none =>
      -- the rest starts outside of any class again
      rw [Trace.andThen_of_done hfirst, trace_current_none hfirst, ← ih]
      exact ⟨fun h => ⟨rfl, h⟩, fun h => h.2⟩

/-- **The steps of a pass are those of its statements.** -/
theorem passSteps_eq_flatMap {config : Document} {outlines : List Outline}
    (h : (traceAll config outlines none).fault = none) :
    passSteps config outlines = outlines.flatMap (topSteps config) := by
  induction outlines with
  | nil => rfl
  | cons o rest ih =>
    have hall := (traceAll_fault_iff config (o :: rest)).mp h
    have hfirst := hall o List.mem_cons_self
    have hrest := (traceAll_fault_iff config rest).mpr fun p hp => hall p (List.mem_cons_of_mem o hp)
    rw [List.flatMap_cons, ← ih hrest]
    unfold passSteps
    rw [traceAll, Trace.andThen_of_done hfirst, trace_current_none hfirst]
    rfl

/-- Whether a pass ends in a fault is fixed by the statements and the configuration. -/
theorem visitAll_fault (config : Document) (outlines : List Outline) (st : Analysis)
    (hst : st.current = none) :
    (visitAll config outlines st).2 = (traceAll config outlines none).fault := by
  rw [visitAll_snd, hst]

/-- **A pass that ends in no fault replays its steps.** -/
theorem visitAll_pass {config : Document} {outlines : List Outline}
    (h : (traceAll config outlines none).fault = none) (st : Analysis) (hst : st.current = none) :
    ∃ printed, visitAll config outlines st
      = (situated (replay (passSteps config outlines) st) none printed, none) := by
  obtain ⟨printed, hvisit⟩ := visitAll_eq_replay config outlines st
  have hcurrent : (traceAll config outlines none).current = none :=
    (traceAll_current config outlines none h).elim id id
  rw [hst, h, hcurrent] at hvisit
  exact ⟨printed, hvisit⟩

/-- Two passes replay the steps of one pass twice. -/
theorem visitTwice_eq_replay {config : Document} {outlines : List Outline}
    (h : (traceAll config outlines none).fault = none) :
    ∃ printed, visitTwice config outlines {}
      = (situated (replay (passSteps config outlines) (replay (passSteps config outlines) {})) none
          printed, none) := by
  obtain ⟨printed, hfirst⟩ := visitAll_pass h {} rfl
  obtain ⟨more, hsecond⟩ :=
    visitAll_pass h (situated (replay (passSteps config outlines) {}) none printed) rfl
  rw [replay_situated] at hsecond
  unfold visitTwice
  rw [hfirst]
  exact ⟨more, hsecond⟩

/-- Two passes end in a fault iff one does. -/
theorem visitTwice_fault (config : Document) (outlines : List Outline) :
    (visitTwice config outlines {}).2 = (traceAll config outlines none).fault := by
  cases h : (traceAll config outlines none).fault with
  | none =>
    obtain ⟨printed, htwice⟩ := visitTwice_eq_replay h
    rw [htwice]
  | some fault =>
    have hfirst := visitAll_fault config outlines {} rfl
    rw [h] at hfirst
    unfold visitTwice
    split
    · rename_i heq
      rw [heq] at hfirst
      exact hfirst
    · rename_i heq
      rw [heq] at hfirst
      exact absurd hfirst (by simp)

end ClassAtlas.Proofs
