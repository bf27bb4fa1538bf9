import ClassAtlas.Proofs.Drawing
import ClassAtlas.Proofs.LastDefinition
import ClassAtlas.Proofs.Scanning

/-!
# The settings that the guide describes

The guide to configuration files knows four keys: the lists `exclude.directories`, `exclude.types` and
`exclude.methods`, and the pattern `exception.name`. Visiting modules asks for none but these. Drawing a
diagram asks for two more. Without the list `exclude.classes` there is no diagram of any graph, and without
`exclude.relationships` there is one that shows no relation; every look-up that fails then is one of these
two. A configuration that has both, and leaves them empty, gives every relation its line.
-/

namespace ClassAtlas.Proofs

open ClassAtlas Analysis Diagram ClassGraph Source

/-- What the guide describes. -/
structure Guide where
  directories : List String
  types : List String
  methods : List String
  pattern : String

/-- The configuration has these settings under the keys of the guide. -/
structure Guide.In (s : Guide) (config : Document) : Prop where
  directories : config.find? "exclude.directories" = some (Document.ofTexts s.directories)
  types : config.find? "exclude.types" = some (Document.ofTexts s.types)
  methods : config.find? "exclude.methods" = some (Document.ofTexts s.methods)
  pattern : config.find? "exception.name" = some (.text s.pattern)

/-! ## Keys that are missing -/

/-- A table that has some entry, but not this one, is asked for it in vain. -/
theorem entry_of_missing {d v : Document} {outer other inner : String}
    (hother : d.follow? [outer, other] = some v) (hinner : d.follow? [outer, inner] = none) :
    Config.entry ((d.follow? [outer]).getD Document.empty) inner = .error (.missingKey inner) := by
  simp only [Document.follow?] at hother hinner ⊢
  cases houter : d.field? outer with
  | none => rw [houter] at hother; exact absurd hother (by simp)
  | some e =>
    simp only [houter] at hother hinner
    cases e with
    | table entries =>
      cases hlookup : entries.lookup inner with
      | none => simp only [Option.getD_some, Config.entry, hlookup]
      | some w => simp [Document.field?, hlookup] at hinner
    | _ => exact absurd hother (by simp [Document.field?])

/-- **Without the list of classes there is no diagram**, of whatever graph. -/
theorem text_of_missing_classes {config v : Document} {other : String}
    (hother : config.follow? ["exclude", other] = some v) (hclasses : config.find? "exclude.classes" = none)
    (g : ClassGraph) (title : String) :
    (Diagram.text config g title).outcome = (.error (.missingKey "classes"), "") := by
  obtain ⟨exclude, hexclude⟩ := Option.isSome_iff_exists.mp (isSome_of_follow? hother)
  have hfound : config.find? "exclude" = some exclude := hexclude
  have hnone : config.follow? ["exclude", "classes"] = none := hclasses
  have hentry := entry_of_missing hother hnone
  rw [hexclude, Option.getD_some] at hentry
  have hlines : Diagram.lines config g title "" = (.error (.missingKey "classes"), "") := by
    unfold Diagram.lines
    rw [bind_of_ok (get_of_find? hfound ""), hentry]
    rfl
  unfold Action.outcome Diagram.text
  rw [bind_of_error hlines]

/-- A relation of which the kind cannot be looked up is not shown. -/
theorem not_showsRelation_of_missing {g : ClassGraph} {exclude : Document} {classes : List String}
    (hkinds : Config.entry exclude "relationships" = .error (.missingKey "relationships")) {r : Relation}
    (hr : g.Knows r) : showsRelation g exclude (Document.ofTexts classes) r ≠ .ok true := by
  obtain ⟨source, hsource⟩ := exists_node?_of_mem hr.1
  obtain ⟨target, htarget⟩ := exists_node?_of_mem hr.2
  unfold showsRelation
  rw [endLeftOut_eq hsource htarget, ok_bind, hkinds]
  by_cases hends : source.kind.word ∈ classes ∨ target.kind.word ∈ classes
  · simp [hends, pure, Except.pure]
  · simp [hends, bind, Except.bind]

/-- Without the list of kinds no relation has a line. -/
theorem relationLines_of_missing {g : ClassGraph} {exclude : Document} {classes : List String}
    (hkinds : Config.entry exclude "relationships" = .error (.missingKey "relationships"))
    {rs : List Relation} (hrs : ∀ r ∈ rs, g.Knows r) :
    (relationLines g exclude (Document.ofTexts classes) rs).1 = [] := by
  induction rs with
  | nil => rfl
  | cons r rest ih =>
    have hrest := ih fun s hs => hrs s (List.mem_cons_of_mem r hs)
    have hshows := @not_showsRelation_of_missing g exclude classes hkinds r (hrs r List.mem_cons_self)
    rw [relationLines]
    generalize showsRelation g exclude (Document.ofTexts classes) r = shows at hshows
    cases shows with
    | error fault => exact hrest
    | ok shown =>
      cases shown with
      | true => exact absurd rfl hshows
      | false => exact hrest

/-! ## Graphs of modules -/

/-- Two passes make a graph with referential integrity, also if a fault ends them. -/
theorem integrity_twoPasses (config : Document) (modules : List (List Stmt)) :
    Integrity (twoPasses config modules).1.graph := by
  rw [twoPasses, visitTwice_eq_visitAll]
  obtain ⟨printed, hvisit⟩ := visitAll_eq_replay config
    ((Outline.ofStmts 0 modules.flatten).1 ++ (Outline.ofStmts 0 modules.flatten).1) {}
  rw [hvisit]
  exact integrity_replay integrity_empty _

/-- Nothing is left out by empty lists. -/
theorem shownRelations_nil {g : ClassGraph} (hg : Integrity g) : shownRelations [] [] g = g.relations := by
  refine List.filter_eq_self.mpr fun r hr => ?_
  have hall : shownClasses [] g = g.nodes := List.filter_eq_self.mpr fun node _ => by simp
  have hends := hg.ends r hr
  rw [decide_eq_true_iff, IsShown, hall]
  exact ⟨hends.1, hends.2, by simp⟩

/-- No relation is shown if all kinds are left out. -/
theorem shownRelations_all (classes : List String) (g : ClassGraph) :
    shownRelations classes (RelationKind.all.map RelationKind.word) g = [] := by
  refine List.filter_eq_nil_iff.mpr fun r _ hshown => ?_
  have hkind : r.kind ∈ RelationKind.all := by cases r.kind <;> decide
  exact (of_decide_eq_true hshown).2.2 (List.mem_map_of_mem hkind)

/--
**What the settings of the guide lead to.**

Let a configuration have the settings of the guide. Visiting modules ends in a fault only if a decorator of
a visible definition has no text. What is drawn of the graph depends on two further keys. Without
`exclude.classes` nothing is: drawing ends in a missing key. With this list, but without
`exclude.relationships`, the diagram is the one that leaves out all kinds of relations. With both lists it
leaves out what they name, and if both are empty every relation has its line.
-/
theorem guide_settings_draw_iff_lists (config : Document) (s : Guide) (hguide : s.In config)
    (modules : List (List Stmt)) (title : String) :
    let g := (twoPasses config modules).1.graph
    ((twoPasses config modules).2 = none
        ↔ ∀ d ∈ visibleAll (leavesOut config) modules.flatten, ∀ e ∈ d.decorators, e.text?.isSome = true)
      ∧ (config.find? "exclude.classes" = none →
        (Diagram.text config g title).outcome = (.error (.missingKey "classes"), ""))
      ∧ ∀ classes, config.find? "exclude.classes" = some (Document.ofTexts classes) →
        (config.find? "exclude.relationships" = none →
            (Diagram.text config g title).outcome.1 = .ok (String.intercalate "\n"
              (drawing title classes (RelationKind.all.map RelationKind.word) s.methods g)))
          ∧ ∀ kinds, config.find? "exclude.relationships" = some (Document.ofTexts kinds) →
            (Diagram.text config g title).outcome.1
                = .ok (String.intercalate "\n" (drawing title classes kinds s.methods g))
              ∧ (classes = [] → kinds = [] →
                ∀ r ∈ g.relations, relationLine r ∈ drawing title classes kinds s.methods g) := by
  intro g
  have hg : Integrity g := integrity_twoPasses config modules
  have hrules := rulesOf_eq hguide.pattern hguide.types
  refine ⟨twoPasses_printable_iff (opensPrintable hrules) modules,
    fun hclasses => text_of_missing_classes hguide.directories hclasses g title,
    fun classes hclasses => ⟨fun hmissing => ?_, fun kinds hkinds => ⟨?_, ?_⟩⟩⟩
  · -- a list that is missing acts as one that names every kind
    have hkinds : config.follow? ["exclude", "relationships"] = none := hmissing
    have hentry := entry_of_missing hguide.directories hkinds
    have hnone : (relationLines g _ (Document.ofTexts classes) g.relations).1 = [] :=
      relationLines_of_missing hentry hg.ends
    have harrows : relationLines g ((config.find? "exclude").getD Document.empty)
        (Document.ofTexts classes) g.relations = ([], _) := Prod.ext hnone rfl
    rw [text_of_lines (lines_eq hclasses hguide.methods harrows ""), drawing, shownRelations_all]
    rfl
  · rw [text_of_lines (lines_eq_drawing hg hclasses hkinds hguide.methods "")]
  · intro hnoClasses hnoKinds r hr
    subst hnoClasses hnoKinds
    have hfull : g.relations.isEmpty = false := by
      rw [List.isEmpty_eq_false_iff]
      exact List.ne_nil_of_mem hr
    have hline : relationLine r ∈ (shownRelations [] [] g).map relationLine := by
      rw [shownRelations_nil hg]
      exact List.mem_map_of_mem hr
    unfold drawing
    rw [hfull]
    simp only [List.mem_append, Bool.false_eq_true, if_false, List.mem_cons]
    exact Or.inl (Or.inr (Or.inr hline))

/-- The settings of the example in the guide. -/
def exampleGuide : Guide :=
  ⟨["tests"], ["exception"], ["magic"], "*Exception"⟩

/-- A configuration with these settings, and others in the table `exclude`. -/
def exampleConfig (others : List (String × Document)) : Document :=
  .table [("exclude", .table ([("directories", Document.ofTexts ["tests"]),
      ("types", Document.ofTexts ["exception"]), ("methods", Document.ofTexts ["magic"])] ++ others)),
    ("exception", .table [("name", .text "*Exception")])]

/-- A class with an attribute of another one. -/
def car : List (List Stmt) :=
  [[.classDef "Wheel" [] [] [.pass] [],
    .classDef "Car" [] [] [.annAssign (.name "wheel") (.name "Wheel") none] []]]

/-- The example with the two lists that drawing asks for, both empty. -/
def completeConfig : Document :=
  exampleConfig [("classes", Document.ofTexts []), ("relationships", Document.ofTexts [])]

theorem car_drawn_with_lists :
    exampleGuide.In completeConfig
      ∧ (Diagram.text completeConfig (twoPasses completeConfig car).1.graph "Car").outcome.1
        = .ok (String.intercalate "\n" ["@startuml", "title Car", "", "skinparam classFontStyle bold", "",
            "class Wheel \x7b", "\x7d", "", "class Car \x7b", "  +wheel", "\x7d", "",
            "' Relationships", "Car *-- Wheel", "", "@enduml"]) := by
  have hguide : exampleGuide.In completeConfig := ⟨rfl, rfl, rfl, rfl⟩
  have hclasses : completeConfig.find? "exclude.classes" = some (Document.ofTexts []) := rfl
  have hkinds : completeConfig.find? "exclude.relationships" = some (Document.ofTexts []) := rfl
  have hnodes : (twoPasses completeConfig car).1.graph.nodes
      = [{ name := "Wheel" }, { name := "Car", attributes := some ["wheel"] }] := by decide +kernel
  have hrelations : (twoPasses completeConfig car).1.graph.relations
      = [⟨"Car", "Wheel", .composition⟩] := by decide +kernel
  have hdrawn := (guide_settings_draw_iff_lists completeConfig exampleGuide hguide car "Car").2.2 [] hclasses
  refine ⟨hguide, ((hdrawn.2 [] hkinds).1).trans ?_⟩
  generalize (twoPasses completeConfig car).1.graph = g at hnodes hrelations
  obtain ⟨nodes, relations⟩ := g
  subst hnodes hrelations
  rfl

/-- With the settings of the guide alone there is a relation, but no diagram. -/
theorem car_not_drawn_by_guide :
    exampleGuide.In (exampleConfig [])
      ∧ (twoPasses (exampleConfig []) car).2 = none
      ∧ (twoPasses (exampleConfig []) car).1.graph.relations = [⟨"Car", "Wheel", .composition⟩]
      ∧ (Diagram.text (exampleConfig []) (twoPasses (exampleConfig []) car).1.graph "Car").outcome
        = (.error (.missingKey "classes"), "") := by
  have hguide : exampleGuide.In (exampleConfig []) := ⟨rfl, rfl, rfl, rfl⟩
  have hclasses : (exampleConfig []).find? "exclude.classes" = none := rfl
  exact ⟨hguide, by decide +kernel, by decide +kernel,
    text_of_missing_classes hguide.directories hclasses _ "Car"⟩

end ClassAtlas.Proofs
