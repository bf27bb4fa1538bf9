import ClassAtlas.Proofs.Drawing
import ClassAtlas.Proofs.Trimming
import Mathlib.Data.List.Flatten

/-!
# Leaving out more removes lines

Three lists say what is left out of a diagram, and each acts in its own place: on the blocks of classes, on the
lines of methods inside of a block, and on the lines of relations. A relation may join names of which no class
is there. It has a line as long as no kind of classes is left out. With the first such kind its classes are
looked up, the look-up fails, and the line is gone (`Exclusions.draws`).

So a longer list never brings a line back. What is left are the lines from before without some of them, in
their order. The remarks in place of blocks and lines go by the graph alone and stay.
-/

namespace ClassAtlas.Proofs

open ClassAtlas Diagram ClassGraph

/-- What is left out of a diagram. -/
structure Exclusions where
  /-- Kinds of classes. -/
  classes : List String
  /-- Kinds of relations. -/
  kinds : List String
  /-- Kinds of methods. -/
  methods : List String

namespace Exclusions

/-- The configuration has these lists under the three keys. -/
structure In (x : Exclusions) (config : Document) : Prop where
  classes : config.find? "exclude.classes" = some (Document.ofTexts x.classes)
  kinds : config.find? "exclude.relationships" = some (Document.ofTexts x.kinds)
  methods : config.find? "exclude.methods" = some (Document.ofTexts x.methods)

/-- Each list is contained in that of the other. -/
structure Within (x y : Exclusions) : Prop where
  classes : x.classes ⊆ y.classes
  kinds : x.kinds ⊆ y.kinds
  methods : x.methods ⊆ y.methods

/-- Is there a class of this name, of a kind that is not left out? -/
def keepsClass (x : Exclusions) (g : ClassGraph) (name : String) : Bool :=
  (g.node? name).any (·.kind.word ∉ x.classes)

/-- Does the relation have a line? Where some kind of classes is left out, both its classes have to be there. -/
def draws (x : Exclusions) (g : ClassGraph) (r : Relation) : Bool :=
  (x.classes.isEmpty || x.keepsClass g r.source && x.keepsClass g r.target) && r.kind.word ∉ x.kinds

/-- The lines of the diagram of any graph. -/
def drawnLines (x : Exclusions) (title : String) (g : ClassGraph) : List String :=
  openingLines title
    ++ (if g.nodes.isEmpty then ["' No classes found"]
      else (shownClasses x.classes g).flatMap fun node => classBlock x.methods node ++ [""])
    ++ (if g.relations.isEmpty then ["' No relationships found"]
      else "' Relationships" :: (g.relations.filter (x.draws g)).map relationLine)
    ++ ["", "@enduml"]

/-- The text of the diagram of any graph. -/
def drawnText (x : Exclusions) (title : String) (g : ClassGraph) : String :=
  String.intercalate "\n" (x.drawnLines title g)

/-! ## Relations in any graph -/

section

variable {x : Exclusions} {g : ClassGraph} {exclude : Document}

/-- Neither end of a relation is left out iff nothing is, or both its classes are there and of other kinds. -/
theorem endLeftOut_eq_false_iff (r : Relation) :
    endLeftOut g (Document.ofTexts x.classes) r = .ok false
      ↔ (x.classes.isEmpty || x.keepsClass g r.source && x.keepsClass g r.target) = true := by
  unfold endLeftOut keepsClass kindWord
  by_cases hnone : x.classes = []
  · rw [hnone]
    exact iff_of_true rfl rfl
  · have hyes : (Document.ofTexts x.classes).isYes = true := by
      simpa [Document.ofTexts, Document.isYes] using hnone
    rw [if_pos hyes, List.isEmpty_eq_false_iff.mpr hnone, Bool.false_or]
    -- the target is looked up only if the source is there and of another kind
    cases g.node? r.source with
    | none => simp [bind, Except.bind]
    | some source =>
      simp only [ok_bind, holds_ofTexts]
      by_cases hsource : source.kind.word ∈ x.classes
      · simp [hsource, pure, Except.pure]
      · cases g.node? r.target with
        | none => simp [hsource, bind, Except.bind]
        | some target => simp [hsource, ok_bind]

/-- **A relation is shown iff it has a line**, in every graph. -/
theorem showsRelation_eq_true_iff
    (hkinds : Config.entry exclude "relationships" = .ok (Document.ofTexts x.kinds)) (r : Relation) :
    showsRelation g exclude (Document.ofTexts x.classes) r = .ok true ↔ x.draws g r = true := by
  unfold draws showsRelation
  rw [Bool.and_eq_true, ← endLeftOut_eq_false_iff, hkinds]
  cases endLeftOut g (Document.ofTexts x.classes) r with
  | error fault => simp [bind, Except.bind]
  | ok leftOut =>
    cases leftOut with
    | true => simp [ok_bind, pure, Except.pure]
    | false => simp [ok_bind, leavesOut_ofTexts, pure, Except.pure]

theorem relationLines_fst_eq
    (hkinds : Config.entry exclude "relationships" = .ok (Document.ofTexts x.kinds)) (rs : List Relation) :
    (relationLines g exclude (Document.ofTexts x.classes) rs).1 = (rs.filter (x.draws g)).map relationLine := by
  induction rs with
  | nil => rfl
  | cons r rest ih =>
    have hshows := @showsRelation_eq_true_iff x g exclude hkinds r
    rw [relationLines, List.filter_cons]
    generalize showsRelation g exclude (Document.ofTexts x.classes) r = shows at hshows
    -- a look-up that fails leaves the relation without a line, as a kind that is left out does
    cases shows with
    | error fault =>
      have hnot : x.draws g r = false := by simpa using hshows
      rw [hnot]
      exact ih
    | ok shown =>
      cases shown with
      | true =>
        rw [if_pos (hshows.mp rfl), List.map_cons, ← ih]
      | false =>
        have hnot : x.draws g r = false := by simpa using hshows
        rw [hnot]
        exact ih

/-- **There is a diagram of every graph**, and this is its text. -/
theorem text_eq_drawnText {config : Document} (hx : x.In config) (g : ClassGraph) (title : String) :
    (Diagram.text config g title).outcome.1 = .ok (x.drawnText title g) := by
  have harrows : relationLines g ((config.find? "exclude").getD Document.empty)
      (Document.ofTexts x.classes) g.relations = ((g.relations.filter (x.draws g)).map relationLine, _) :=
    Prod.ext (relationLines_fst_eq (entry_of_follow? hx.kinds) g.relations) rfl
  rw [text_of_lines (lines_eq hx.classes hx.methods harrows "")]
  rfl

end

/-! ## Fewer lines -/

section

variable {x y : Exclusions}

theorem classBlock_sublist (h : x.methods ⊆ y.methods) (node : ClassNode) :
    (classBlock y.methods node).Sublist (classBlock x.methods node) := by
  unfold classBlock
  refine ((List.Sublist.refl _).append (List.Sublist.map functionLine ?_)).append (List.Sublist.refl _)
  refine List.monotone_filter_right _ fun f hf => ?_
  rw [decide_eq_true_iff] at hf ⊢
  exact fun hskip => hf ⟨h hskip.1, hskip.2⟩

theorem shownClasses_sublist (h : x.classes ⊆ y.classes) (g : ClassGraph) :
    (shownClasses y.classes g).Sublist (shownClasses x.classes g) := by
  refine List.monotone_filter_right _ fun node hnode => ?_
  rw [decide_eq_true_iff] at hnode ⊢
  exact fun hmem => hnode (h hmem)

theorem blocks_sublist (h : x.Within y) (g : ClassGraph) :
    ((shownClasses y.classes g).flatMap fun node => classBlock y.methods node ++ [""]).Sublist
      ((shownClasses x.classes g).flatMap fun node => classBlock x.methods node ++ [""]) := by
  refine List.Sublist.trans (List.Sublist.flatMap_right _ fun node _ => ?_)
    ((shownClasses_sublist h.classes g).flatMap _)
  exact (classBlock_sublist h.methods node).append (List.Sublist.refl _)

theorem keepsClass_of_within (h : x.Within y) {g : ClassGraph} {name : String}
    (hkeeps : y.keepsClass g name = true) : x.keepsClass g name = true := by
  unfold keepsClass at hkeeps ⊢
  rw [Option.any_eq_true] at hkeeps ⊢
  obtain ⟨node, hnode, hkind⟩ := hkeeps
  rw [decide_eq_true_iff] at hkind
  exact ⟨node, hnode, decide_eq_true fun hmem => hkind (h.classes hmem)⟩

/-- **A relation that has a line with more left out has one with less.** -/
theorem draws_of_within (h : x.Within y) {g : ClassGraph} {r : Relation} (hdraws : y.draws g r = true) :
    x.draws g r = true := by
  unfold draws at hdraws ⊢
  simp only [Bool.and_eq_true, Bool.or_eq_true, decide_eq_true_iff, List.isEmpty_iff] at hdraws ⊢
  obtain ⟨hends, hkind⟩ := hdraws
  refine ⟨?_, fun hmem => hkind (h.kinds hmem)⟩
  rcases hends with hnone | ⟨hsource, htarget⟩
  · -- where nothing more is left out, nothing is
    have hless := h.classes
    rw [hnone] at hless
    exact Or.inl (List.subset_nil.mp hless)
  · exact Or.inr ⟨keepsClass_of_within h hsource, keepsClass_of_within h htarget⟩

theorem drawnLines_sublist (h : x.Within y) (title : String) (g : ClassGraph) :
    (y.drawnLines title g).Sublist (x.drawnLines title g) := by
  have harrows : ((g.relations.filter (y.draws g)).map relationLine).Sublist
      ((g.relations.filter (x.draws g)).map relationLine) :=
    (List.monotone_filter_right _ fun r hr => draws_of_within h hr).map relationLine
  unfold drawnLines
  refine ((List.Sublist.append (List.Sublist.refl _) ?_).append ?_).append (List.Sublist.refl _)
  · split
    · exact List.Sublist.refl _
    · exact blocks_sublist h g
  · split
    · exact List.Sublist.refl _
    · exact harrows.cons_cons _

end

end Exclusions

/-! ## Lines of a text -/

/-- The lines of a text: what stands between its line ends. -/
def linesOf (text : String) : List String :=
  (text.toList.splitOn '\n').map String.ofList

/-- The lines of a text that is joined from others are theirs. A name may have line ends in it, so each of them
may have several. -/
theorem linesOf_intercalate {parts : List String} (h : parts ≠ []) :
    linesOf (String.intercalate "\n" parts) = parts.flatMap linesOf := by
  induction parts with
  | nil => exact absurd rfl h
  | cons part rest ih =>
    by_cases hrest : rest = []
    · subst hrest
      rw [String.intercalate_singleton, List.flatMap_singleton]
    · have hend : (part ++ "\n" ++ String.intercalate "\n" rest).toList
          = part.toList ++ '\n' :: (String.intercalate "\n" rest).toList := by
        rw [String.toList_append, String.toList_append, List.append_assoc]
        rfl
      rw [String.intercalate_cons_of_ne_nil hrest, List.flatMap_cons, ← ih hrest]
      unfold linesOf
      rw [hend, List.splitOn_append_cons_self, List.map_append]

/--
**Leaving out more only removes lines.**

Take any graph, also one with relations between names of which no class is there, and two configurations with
lists of names under the three keys, where each list of the first is contained in that of the second. Then both
have a diagram, and the lines of the second are those of the first without some of them, in the same order.
-/
theorem excluding_more_removes_lines (x y : Exclusions) (config further : Document) (hx : x.In config)
    (hy : y.In further) (h : x.Within y) (g : ClassGraph) (title : String) :
    (Diagram.text config g title).outcome.1 = .ok (x.drawnText title g)
      ∧ (Diagram.text further g title).outcome.1 = .ok (y.drawnText title g)
      ∧ (linesOf (y.drawnText title g)).Sublist (linesOf (x.drawnText title g)) := by
  refine ⟨Exclusions.text_eq_drawnText hx g title, Exclusions.text_eq_drawnText hy g title, ?_⟩
  have hne : ∀ z : Exclusions, z.drawnLines title g ≠ [] := fun z => List.cons_ne_nil _ _
  unfold Exclusions.drawnText
  rw [linesOf_intercalate (hne x), linesOf_intercalate (hne y)]
  exact (Exclusions.drawnLines_sublist h title g).flatMap linesOf

/-- A graph with a relation to a class that is not there. -/
def stall : ClassGraph :=
  shop.insertRelation ⟨"Till", "Bank", .association⟩

theorem stall_loses_lines :
    (⟨[], [], []⟩ : Exclusions).In lenient
      ∧ (⟨["exception"], ["dependency"], ["magic"]⟩ : Exclusions).In sparse
      ∧ (⟨[], [], []⟩ : Exclusions).Within ⟨["exception"], ["dependency"], ["magic"]⟩
      ∧ ∃ more fewer, (Diagram.text lenient stall "Trade").outcome.1 = .ok more
        ∧ (Diagram.text sparse stall "Trade").outcome.1 = .ok fewer
        ∧ more = String.intercalate "\n" ["@startuml", "title Trade", "", "skinparam classFontStyle bold", "",
            "class Shop \x7b", "  +till", "  +__init__()", "  +open(day)", "\x7d", "",
            "exception Closed \x7b", "\x7d", "", "class Till << (D,#FFDD55) >> \x7b", "\x7d", "",
            "' Relationships", "Shop *-- Closed", "Shop *-- Till", "Shop ..> Till", "Till -- Bank",
            "Till --|> Shop", "", "@enduml"]
        ∧ fewer = String.intercalate "\n" ["@startuml", "title Trade", "", "skinparam classFontStyle bold", "",
            "class Shop \x7b", "  +till", "  +open(day)", "\x7d", "",
            "class Till << (D,#FFDD55) >> \x7b", "\x7d", "",
            "' Relationships", "Shop *-- Till", "Till --|> Shop", "", "@enduml"]
        ∧ (linesOf fewer).Sublist (linesOf more) := by
  have hlenient : (⟨[], [], []⟩ : Exclusions).In lenient := ⟨rfl, rfl, rfl⟩
  have hsparse : (⟨["exception"], ["dependency"], ["magic"]⟩ : Exclusions).In sparse := ⟨rfl, rfl, rfl⟩
  have hwithin : (⟨[], [], []⟩ : Exclusions).Within ⟨["exception"], ["dependency"], ["magic"]⟩ :=
    ⟨List.nil_subset _, List.nil_subset _, List.nil_subset _⟩
  obtain ⟨hmore, hfewer, hsublist⟩ :=
    excluding_more_removes_lines _ _ lenient sparse hlenient hsparse hwithin stall "Trade"
  exact ⟨hlenient, hsparse, hwithin, _, _, hmore, hfewer, rfl, rfl, hsublist⟩

end ClassAtlas.Proofs
