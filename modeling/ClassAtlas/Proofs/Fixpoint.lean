import ClassAtlas.Proofs.Passes

/-!
# Two passes are enough

The first pass brings every class and remembers every assigned call. From then on a pass meets the same
classes and the same remembered calls at each of its steps, so it tries the same relations, and all of
them that can be accepted are accepted by the second pass. Further passes change nothing.

The state after the first pass is `Complete`; the argument is about any list of steps, and nothing in it
asks for names or calls to be distinct.
-/

namespace ClassAtlas.Proofs

open ClassAtlas Analysis ClassGraph

/-- Replaying the steps again meets no new class and no new call. -/
structure Complete (steps : List Step) (st : Analysis) : Prop where
  /-- The classes are those that the steps bring, in their order. -/
  names : st.graph.names = (arrivals steps).foldl arrive []
  /-- Every class is as the steps make it. -/
  nodes : ∀ name, st.graph.node? name = steps.foldl (Step.touch name) none
  /-- The calls that the steps remember are remembered. -/
  calls : ∀ call ∈ remembered steps, call ∈ st.composed

/-- **One replay completes the empty analysis.** -/
theorem complete_replay (steps : List Step) : Complete steps (replay steps {}) where
  names := replay_names steps {}
  nodes := replay_node? steps {}
  calls := fun _ h => mem_composed_replay.mpr (Or.inl h)

section

variable {steps : List Step} {st : Analysis}

theorem Complete.arrived (h : Complete steps st) {name : String} (hn : name ∈ arrivals steps) :
    name ∈ st.graph.names := by
  rw [h.names, mem_foldl_arrive]
  exact Or.inl hn

/-- Any first part of the steps brings no new name. -/
theorem Complete.names_replay (h : Complete steps st) {done rest : List Step}
    (hsplit : steps = done ++ rest) : (replay done st).graph.names = st.graph.names := by
  rw [replay_names]
  refine foldl_arrive_of_subset fun name hname => h.arrived ?_
  rw [hsplit, arrivals_append]
  exact List.mem_append_left _ hname

/-- Any first part of the steps remembers no new call. -/
theorem Complete.composed_replay (h : Complete steps st) {done rest : List Step}
    (hsplit : steps = done ++ rest) : (replay done st).composed = st.composed := by
  refine composed_replay_of_subset fun call hcall => h.calls call ?_
  rw [hsplit, remembered_append]
  exact List.mem_append_left _ hcall

/-- The steps leave every class as it is. -/
theorem Complete.node?_replay (h : Complete steps st) (name : String) :
    (replay steps st).graph.node? name = st.graph.node? name := by
  rw [replay_node?, h.nodes]
  by_cases hname : name ∈ arrivals steps
  · exact foldl_touch_eq_of_mem hname _ _
  · rw [foldl_touch_none hname, foldl_touch_none hname]

theorem Complete.nodes_replay (h : Complete steps st) :
    (replay steps st).graph.nodes = st.graph.nodes := by
  have hnames := h.names_replay (List.append_nil steps).symm
  refine nodes_ext hnames ?_ h.node?_replay
  rw [hnames, h.names]
  exact nodup_foldl_arrive List.nodup_nil

/-- A complete state stays complete. -/
theorem Complete.again (h : Complete steps st) : Complete steps (replay steps st) where
  names := (h.names_replay (List.append_nil steps).symm).trans h.names
  nodes := fun name => (h.node?_replay name).trans (h.nodes name)
  calls := fun call hcall => mem_composed_replay.mpr (Or.inr (h.calls call hcall))

end

/-- A replay that adds no member to the relations leaves their list as it is. -/
theorem relations_replay_of_subset {steps : List Step} {st : Analysis}
    (h : ∀ r ∈ (replay steps st).graph.relations, r ∈ st.graph.relations) :
    (replay steps st).graph.relations = st.graph.relations := by
  induction steps generalizing st with
  | nil => rfl
  | cons s steps ih =>
    have hgrow : ∀ r ∈ (s.apply st).graph.relations, r ∈ st.graph.relations := by
      intro r hr
      refine h r ?_
      rw [replay_cons]
      exact mem_relations_replay.mpr (Or.inl hr)
    have hs : (s.apply st).graph.relations = st.graph.relations := by
      have hadd : ∀ q : Relation, (∀ r ∈ (st.graph.addRelation q).relations, r ∈ st.graph.relations) →
          (st.graph.addRelation q).relations = st.graph.relations := by
        intro q hq
        by_cases hk : st.graph.Knows q
        · rw [addRelation_of_mem (hq q (mem_relations_addRelation.mpr (Or.inr ⟨rfl, hk⟩)))]
        · rw [addRelation_of_not_knows hk]
      cases s with
      | relate q => exact hadd q hgrow
      | compose call q =>
        simp only [Step.apply] at hgrow ⊢
        split at hgrow
        · rename_i hc
          simp only [hc, if_true]
        · rename_i hc
          simp only [hc]
          exact hadd q hgrow
      | depend call q =>
        simp only [Step.apply] at hgrow ⊢
        split at hgrow
        · rename_i hc
          simp only [hc, if_true]
        · rename_i hc
          simp only [hc]
          exact hadd q hgrow
      | addClass node => rfl
      | addAttribute name member => rfl
      | addFunction name function => rfl
    rw [replay_cons, ih, hs]
    intro r hr
    rw [hs]
    exact h r hr

/-- The second replay after a complete state tries nothing that the first one did not. -/
theorem Complete.relations_replay {steps : List Step} {st : Analysis} (h : Complete steps st) :
    (replay steps (replay steps st)).graph.relations = (replay steps st).graph.relations := by
  refine relations_replay_of_subset fun r hr => ?_
  rcases mem_relations_replay.mp hr with hr | ⟨done, s, rest, hsplit, htry, hknown⟩
  · exact hr
  · -- the step found the same names and calls one replay earlier, and so was accepted there
    rw [h.again.composed_replay hsplit, h.composed_replay (List.append_nil steps).symm] at htry
    unfold Knows at hknown
    rw [h.again.names_replay hsplit, h.names_replay (List.append_nil steps).symm] at hknown
    refine mem_relations_replay.mpr (Or.inr ⟨done, s, rest, hsplit, ?_, ?_⟩)
    · rw [h.composed_replay hsplit]
      exact htry
    · unfold Knows
      rw [h.names_replay hsplit]
      exact hknown

/-- **Two replays are a fixpoint.** -/
theorem replay_fixed (steps : List Step) :
    replay steps (replay steps (replay steps {})) = replay steps (replay steps {}) := by
  have hfirst := complete_replay steps
  have hsecond := hfirst.again
  have hnodes := hsecond.nodes_replay
  have hrelations := hfirst.relations_replay
  have hcomposed := hsecond.composed_replay (List.append_nil steps).symm
  -- the graph and the remembered calls are all that steps can change
  rw [← situated_replay steps (replay steps (replay steps {}))]
  generalize replay steps (replay steps (replay steps {})) = again at *
  generalize replay steps (replay steps {}) = twice at *
  obtain ⟨⟨nodes, relations⟩, current, composed, printed⟩ := again
  simp only at hnodes hrelations hcomposed
  subst hnodes hrelations hcomposed
  rfl

/-! ## Passes -/

/-- Visits statements a number of times, up to the first fault. -/
def visitTimes (config : Document) (outlines : List Outline) : Nat → Analysis → Analysis × Option Fault
  | 0, st => (st, none)
  | n + 1, st =>
    match visitAll config outlines st with
    | (st, some fault) => (st, some fault)
    | (st, none) => visitTimes config outlines n st

theorem visitTimes_of_fixed {config : Document} {outlines : List Outline}
    (hfault : (traceAll config outlines none).fault = none) {st : Analysis}
    (hfixed : replay (passSteps config outlines) st = st) (n : Nat) (printed : String) :
    ∃ more, visitTimes config outlines n (situated st none printed) = (situated st none more, none) := by
  induction n generalizing printed with
  | zero => exact ⟨printed, rfl⟩
  | succ n ih =>
    obtain ⟨more, hpass⟩ := visitAll_pass hfault (situated st none printed) rfl
    rw [replay_situated, hfixed] at hpass
    rw [visitTimes, hpass]
    exact ih more

/--
**After two passes, further passes change nothing.**

Whatever the statements and however often their names repeat: if a pass over them ends in no fault, then
neither do two passes nor any number of passes after them, and classes, relations and remembered calls
stay what they were after the second.
-/
theorem further_passes_change_nothing (config : Document) (outlines : List Outline)
    (hran : (visitAll config outlines {}).2 = none) :
    ∃ st, visitTwice config outlines {} = (st, none)
      ∧ ∀ n, ∃ st', visitTimes config outlines n st = (st', none)
        ∧ st'.graph = st.graph ∧ st'.composed = st.composed := by
  rw [visitAll_fault config outlines {} rfl] at hran
  obtain ⟨printed, htwice⟩ := visitTwice_eq_replay hran
  refine ⟨_, htwice, fun n => ?_⟩
  obtain ⟨more, htimes⟩ := visitTimes_of_fixed hran (replay_fixed (passSteps config outlines)) n printed
  exact ⟨_, htimes, rfl, rfl⟩

/-- A configuration that leaves out exceptions. -/
def errorsLeftOut : Document :=
  .table [("exception", .table [("name", .text "*Error")]),
    ("exclude", .table [("types", .list [.text "exception"])])]

/-- Two classes that refer to each other, one of which is defined a second time inside of a third class,
and an exception. -/
def entangledClasses : List Outline :=
  [.classDef "A" [some "dataclass"] ["B"] []
      [.function "__init__" ["B"] []
        [.assign [.selfAttribute "b"] (some ⟨0, .name "B"⟩) [⟨0, .name "B"⟩]]],
    .classDef "B" [] ["Enum"] [] [.annAssign (.name "a") ["A"] []],
    .other [] [.classDef "C" [] [] [] [.classDef "A" [] ["C"] [] []]],
    .classDef "OwnError" [] [] [] []]

theorem further_passes_over_entangledClasses :
    (visitAll errorsLeftOut entangledClasses {}).2 = none
      ∧ ∃ st, visitTwice errorsLeftOut entangledClasses {} = (st, none)
        ∧ ∀ n, ∃ st', visitTimes errorsLeftOut entangledClasses n st = (st', none)
          ∧ st'.graph = st.graph ∧ st'.composed = st.composed :=
  ⟨by rfl, further_passes_change_nothing errorsLeftOut entangledClasses (by rfl)⟩

end ClassAtlas.Proofs
