import ClassAtlas.Diagram
import ClassAtlas.Proofs.Integrity
import ClassAtlas.Proofs.Settings
import Mathlib.Data.List.Nodup

/-!
# A diagram is closed and complete

Classes and relations are left out by separate rules. Classes go by their kind; a relation goes by its own
kind, and by the kinds of the two classes, which it looks up by name. The rules agree for every graph with
referential integrity: a look-up never fails, and finds the class that has, or has not, got a block. So an
arrow joins two blocks, and no arrow between two blocks is missing but those of a kind that is left out.
-/

namespace ClassAtlas.Proofs

open ClassAtlas Diagram ClassGraph

/-! ## What is shown -/

/-- The classes that are shown if these kinds are left out. -/
def shownClasses (classes : List String) (g : ClassGraph) : List ClassNode :=
  g.nodes.filter (·.kind.word ∉ classes)

/-- A relation is shown if its classes are, and if its kind is not left out. -/
def IsShown (classes kinds : List String) (g : ClassGraph) (r : Relation) : Prop :=
  r.source ∈ (shownClasses classes g).map (·.name) ∧ r.target ∈ (shownClasses classes g).map (·.name)
    ∧ r.kind.word ∉ kinds

instance (classes kinds : List String) (g : ClassGraph) : DecidablePred (IsShown classes kinds g) :=
  fun _ => inferInstanceAs (Decidable (_ ∧ _ ∧ _))

/-- The relations that are shown. -/
def shownRelations (classes kinds : List String) (g : ClassGraph) : List Relation :=
  g.relations.filter fun r => IsShown classes kinds g r

/-- The block of a class. -/
def classBlock (methods : List String) (node : ClassNode) : List String :=
  headLine node :: (node.attributes.getD []).map attributeLine
    ++ ((node.functions.getD []).filter fun f => ¬ ("magic" ∈ methods ∧ Visibility.isMagic f.name)).map
      functionLine
    ++ ["\x7d"]

/-- What is printed about relations, all of which are shown. -/
def addedReport : List Relation → String
  | [] => ""
  | r :: rest => "관계 추가됨: " ++ relationLine r ++ "\n" ++ addedReport rest

/-! ## Blocks -/

section

variable {exclude : Document} {methods : List String}

theorem shownFunction_eq (hmethods : Config.entry exclude "methods" = .ok (Document.ofTexts methods))
    (f : Method) : shownFunction exclude f
      = .ok (if "magic" ∈ methods ∧ Visibility.isMagic f.name then none else some (functionLine f)) := by
  unfold shownFunction
  rw [hmethods, ok_bind, holds_ofTexts, ok_bind]
  simp [pure, Except.pure]

theorem mapM_of_ok {α β : Type} {f : α → Except Fault β} {g : α → β} (h : ∀ a, f a = .ok (g a))
    (l : List α) : l.mapM f = .ok (l.map g) := by
  have hf : f = fun a => pure (g a) := funext h
  rw [hf, List.mapM_pure]
  rfl

theorem filterMap_unless {α β : Type} (p : α → Prop) [DecidablePred p] (g : α → β) (l : List α) :
    (l.map fun a => if p a then none else some (g a)).filterMap id = (l.filter fun a => ¬ p a).map g := by
  induction l with
  | nil => rfl
  | cons a l ih =>
    rw [List.map_cons, List.filterMap_cons, ih]
    by_cases hp : p a
    · simp [hp]
    · simp [hp]

/-- Every class has a block. -/
theorem classLines_eq (hmethods : Config.entry exclude "methods" = .ok (Document.ofTexts methods))
    (node : ClassNode) : classLines exclude node = .ok (classBlock methods node) := by
  unfold classLines classBlock
  rw [mapM_of_ok (shownFunction_eq hmethods), ok_bind, filterMap_unless]
  rfl

theorem leavesOut_ofTexts (texts : List String) (word : String) :
    Diagram.leavesOut (Document.ofTexts texts) word = .ok (decide (word ∈ texts)) := by
  unfold Diagram.leavesOut
  rw [holds_ofTexts]
  -- an empty list counts as no setting at all, and holds no word either
  cases texts with
  | nil => simp [Document.ofTexts, Document.isYes]
  | cons text rest => simp [Document.ofTexts, Document.isYes]

/-- **There is a block for every class of a kind that is not left out, in order.** -/
theorem allClassLines_eq (hmethods : Config.entry exclude "methods" = .ok (Document.ofTexts methods))
    (classes : List String) (nodes : List ClassNode) :
    allClassLines exclude (Document.ofTexts classes) nodes
      = .ok ((nodes.filter (·.kind.word ∉ classes)).flatMap fun node => classBlock methods node ++ [""]) := by
  induction nodes with
  | nil => rfl
  | cons node rest ih =>
    rw [allClassLines, leavesOut_ofTexts, ih, classLines_eq hmethods]
    by_cases hkind : node.kind.word ∈ classes
    · simp [hkind, bind, Except.bind]
    · simp [hkind, bind, Except.bind, pure, Except.pure]

end

/-! ## Arrows -/

/-- The class of a name is shown iff its kind is not left out. -/
theorem mem_shownClasses_iff {classes : List String} {g : ClassGraph} {name : String} {node : ClassNode}
    (hkeys : g.names.Nodup) (hnode : g.node? name = some node) :
    name ∈ (shownClasses classes g).map (·.name) ↔ node.kind.word ∉ classes := by
  have hmem : node ∈ g.nodes := List.mem_of_find?_eq_some hnode
  have hname : node.name = name := name_of_node? hnode
  unfold shownClasses
  rw [List.mem_map]
  constructor
  · rintro ⟨other, hother, he⟩
    rw [List.mem_filter, decide_eq_true_iff] at hother
    have hsame : other = node := List.inj_on_of_nodup_map hkeys hother.1 hmem (he.trans hname.symm)
    exact hsame ▸ hother.2
  · intro hkind
    exact ⟨node, List.mem_filter.mpr ⟨hmem, decide_eq_true hkind⟩, hname⟩

theorem kindWord_eq {g : ClassGraph} {name : String} {node : ClassNode} (hnode : g.node? name = some node) :
    kindWord g name = .ok node.kind.word := by
  unfold kindWord
  rw [hnode]

/-- A known name is that of a class. -/
theorem exists_node?_of_mem {g : ClassGraph} {name : String} (h : name ∈ g.names) :
    ∃ node, g.node? name = some node := by
  cases hnode : g.node? name with
  | none => exact absurd h (node?_eq_none_iff.mp hnode)
  | some node => exact ⟨node, rfl⟩

/-- Looking up the kinds of two known classes tells whether one of them is left out. -/
theorem endLeftOut_eq {g : ClassGraph} {r : Relation} {source target : ClassNode}
    (hsource : g.node? r.source = some source) (htarget : g.node? r.target = some target)
    (classes : List String) :
    endLeftOut g (Document.ofTexts classes) r
      = .ok (decide (source.kind.word ∈ classes ∨ target.kind.word ∈ classes)) := by
  unfold endLeftOut
  rw [kindWord_eq hsource, kindWord_eq htarget]
  cases classes with
  | nil => rfl
  | cons word rest =>
    -- the target's kind is looked at only if the source's is not left out
    show (Except.ok _ >>= fun word => _) = _
    rw [ok_bind, holds_ofTexts, ok_bind, ok_bind, holds_ofTexts]
    by_cases hkind : source.kind.word ∈ word :: rest
    · simp [hkind, pure, Except.pure]
    · simp [hkind]

/-- **A relation between known classes is shown iff both have a block and its kind is not left out.** -/
theorem showsRelation_eq {g : ClassGraph} (hkeys : g.names.Nodup) {exclude : Document}
    {classes kinds : List String}
    (hkinds : Config.entry exclude "relationships" = .ok (Document.ofTexts kinds)) {r : Relation}
    (hr : g.Knows r) :
    showsRelation g exclude (Document.ofTexts classes) r = .ok (decide (IsShown classes kinds g r)) := by
  -- both ends are classes, so the kinds that are looked up decide which blocks there are
  obtain ⟨source, hsource⟩ := exists_node?_of_mem hr.1
  obtain ⟨target, htarget⟩ := exists_node?_of_mem hr.2
  have hshown : IsShown classes kinds g r
      ↔ ¬ (source.kind.word ∈ classes ∨ target.kind.word ∈ classes) ∧ r.kind.word ∉ kinds := by
    rw [IsShown, mem_shownClasses_iff hkeys hsource, mem_shownClasses_iff hkeys htarget, not_or, and_assoc]
  simp only [hshown]
  unfold showsRelation
  rw [endLeftOut_eq hsource htarget, ok_bind, hkinds, ok_bind, leavesOut_ofTexts, ok_bind]
  by_cases hends : source.kind.word ∈ classes ∨ target.kind.word ∈ classes
  · simp [hends, pure, Except.pure]
  · simp [hends, pure, Except.pure]

/-- **The arrows of a diagram are those of the relations that are shown.** -/
theorem relationLines_eq {g : ClassGraph} (hkeys : g.names.Nodup) {exclude : Document}
    {classes kinds : List String}
    (hkinds : Config.entry exclude "relationships" = .ok (Document.ofTexts kinds)) (rs : List Relation)
    (hrs : ∀ r ∈ rs, g.Knows r) :
    let shown := rs.filter fun r => IsShown classes kinds g r
    relationLines g exclude (Document.ofTexts classes) rs = (shown.map relationLine, addedReport shown) := by
  induction rs with
  | nil => rfl
  | cons r rest ih =>
    have hrest := ih fun s hs => hrs s (List.mem_cons_of_mem r hs)
    simp only [relationLines, hrest, showsRelation_eq hkeys hkinds (hrs r List.mem_cons_self),
      List.filter_cons]
    by_cases hr : IsShown classes kinds g r
    · simp only [hr]
      rfl
    · simp only [hr, decide_false]
      rfl

/-! ## The whole diagram -/

/-- The lines of a diagram, by the classes and relations that are shown in it. -/
def drawing (title : String) (classes kinds methods : List String) (g : ClassGraph) : List String :=
  openingLines title
    ++ (if g.nodes.isEmpty then ["' No classes found"]
      else (shownClasses classes g).flatMap fun node => classBlock methods node ++ [""])
    ++ (if g.relations.isEmpty then ["' No relationships found"]
      else "' Relationships" :: (shownRelations classes kinds g).map relationLine)
    ++ ["", "@enduml"]

/-- What is printed in the meantime: every relation that is shown, and what there is none of. -/
def drawingReport (classes kinds : List String) (g : ClassGraph) : String :=
  (if g.nodes.isEmpty then "경고: 클래스가 발견되지 않았습니다!\n" else "")
    ++ if g.relations.isEmpty then "경고: 관계가 발견되지 않았습니다!\n"
      else addedReport (shownRelations classes kinds g)

/-- The lines of a diagram, by what is written and printed for its relations. -/
theorem lines_eq {config : Document} {g : ClassGraph} {title : String} {classes methods arrows : List String}
    {report : String} (hclasses : config.find? "exclude.classes" = some (Document.ofTexts classes))
    (hmethods : config.find? "exclude.methods" = some (Document.ofTexts methods))
    (harrows : relationLines g ((config.find? "exclude").getD Document.empty) (Document.ofTexts classes)
      g.relations = (arrows, report)) (printed : String) :
    Diagram.lines config g title printed
      = (.ok (openingLines title
          ++ (if g.nodes.isEmpty then ["' No classes found"]
            else (shownClasses classes g).flatMap fun node => classBlock methods node ++ [""])
          ++ (if g.relations.isEmpty then ["' No relationships found"] else "' Relationships" :: arrows)
          ++ ["", "@enduml"]),
        printed ++ ((if g.nodes.isEmpty then "경고: 클래스가 발견되지 않았습니다!\n" else "")
          ++ if g.relations.isEmpty then "경고: 관계가 발견되지 않았습니다!\n" else report)) := by
  obtain ⟨exclude, hexclude⟩ : ∃ d, config.find? "exclude" = some d :=
    Option.isSome_iff_exists.mp (isSome_of_follow? hclasses)
  have hfound : (config.find? "exclude").getD Document.empty = exclude := by
    rw [hexclude]
    rfl
  rw [hfound] at harrows
  have hclasses : Config.entry exclude "classes" = .ok (Document.ofTexts classes) :=
    hfound ▸ entry_of_follow? hclasses
  have hmethods : Config.entry exclude "methods" = .ok (Document.ofTexts methods) :=
    hfound ▸ entry_of_follow? hmethods
  have hblocks := allClassLines_eq hmethods classes g.nodes
  -- the four cases differ in the notices that are printed before the report
  unfold Diagram.lines shownClasses
  rw [bind_of_ok (get_of_find? hexclude printed), hclasses, ofExcept_bind, hblocks, ofExcept_bind, harrows]
  cases g.nodes.isEmpty with
  | true =>
    cases g.relations.isEmpty with
    | true => exact congrArg (Prod.mk _) String.append_assoc
    | false => exact congrArg (Prod.mk _) String.append_assoc
  | false =>
    cases g.relations.isEmpty with
    | true => exact congrArg (Prod.mk _) (congrArg _ String.empty_append.symm)
    | false => exact congrArg (Prod.mk _) (congrArg _ String.empty_append.symm)

/-- The text of a diagram is made of its lines. -/
theorem text_of_lines {config : Document} {g : ClassGraph} {title report : String} {lines : List String}
    (h : Diagram.lines config g title "" = (.ok lines, report)) :
    (Diagram.text config g title).outcome = (.ok (String.intercalate "\n" lines), report) := by
  unfold Action.outcome Diagram.text
  rw [bind_of_ok h]
  rfl

/-- **The lines of a diagram are its drawing, and no relation is reported as failed.** -/
theorem lines_eq_drawing {config : Document} {g : ClassGraph} (hg : Integrity g) {title : String}
    {classes kinds methods : List String}
    (hclasses : config.find? "exclude.classes" = some (Document.ofTexts classes))
    (hkinds : config.find? "exclude.relationships" = some (Document.ofTexts kinds))
    (hmethods : config.find? "exclude.methods" = some (Document.ofTexts methods)) (printed : String) :
    Diagram.lines config g title printed
      = (.ok (drawing title classes kinds methods g), printed ++ drawingReport classes kinds g) :=
  lines_eq hclasses hmethods (relationLines_eq hg.keys (entry_of_follow? hkinds) g.relations hg.ends) printed

/--
**A diagram is closed and complete.**

For a graph with referential integrity, and lists of names under the three keys, there is a diagram, and
no relation is reported as failed. It has one block for each class of a kind that is not left out, in
order and all under different names. It has one line for each relation, exactly once, iff both its classes
have a block and its kind is not left out.
-/
theorem diagram_closed_and_complete (config : Document) (g : ClassGraph) (title : String)
    (classes kinds methods : List String) (hg : Integrity g)
    (hclasses : config.find? "exclude.classes" = some (Document.ofTexts classes))
    (hkinds : config.find? "exclude.relationships" = some (Document.ofTexts kinds))
    (hmethods : config.find? "exclude.methods" = some (Document.ofTexts methods)) :
    (Diagram.text config g title).outcome
        = (.ok (String.intercalate "\n" (drawing title classes kinds methods g)),
          drawingReport classes kinds g)
      ∧ ((shownClasses classes g).map (·.name)).Nodup
      ∧ (shownRelations classes kinds g).Nodup
      ∧ ∀ r ∈ g.relations, (r ∈ shownRelations classes kinds g ↔
        (∃ node ∈ shownClasses classes g, node.name = r.source)
          ∧ (∃ node ∈ shownClasses classes g, node.name = r.target) ∧ r.kind.word ∉ kinds) := by
  have hlines : Diagram.lines config g title "" = _ := lines_eq_drawing hg hclasses hkinds hmethods ""
  refine ⟨?_, ?_, hg.once.filter _, fun r hr => ?_⟩
  · unfold Action.outcome Diagram.text
    rw [bind_of_ok hlines, String.empty_append]
    rfl
  · exact hg.keys.sublist (List.filter_sublist.map _)
  · unfold shownRelations
    rw [List.mem_filter, decide_eq_true_iff, IsShown, List.mem_map, List.mem_map]
    exact and_iff_right hr

/-- A configuration that leaves out nothing. -/
def lenient : Document :=
  .table [("exclude", .table [("classes", Document.ofTexts []), ("relationships", Document.ofTexts []),
    ("methods", Document.ofTexts [])])]

/-- A configuration that leaves out exceptions, dependencies and magic functions. -/
def sparse : Document :=
  .table [("exclude", .table [("classes", Document.ofTexts ["exception"]),
    ("relationships", Document.ofTexts ["dependency"]), ("methods", Document.ofTexts ["magic"])])]

/-- A class with an attribute, a magic function and another one. -/
def shopClass : ClassNode :=
  { name := "Shop"
    attributes := some ["till"]
    functions := some [{ name := "__init__" }, { name := "open", fields := some ["day"] }] }

/-- The class, an exception, and one more; a dependency, and a composition of the exception. -/
def shop : ClassGraph :=
  { nodes := [shopClass, { name := "Closed", kind := .exception }, { name := "Till", kind := .dataclass }]
    relations := [⟨"Shop", "Closed", .composition⟩, ⟨"Shop", "Till", .composition⟩,
      ⟨"Shop", "Till", .dependency⟩, ⟨"Till", "Shop", .inheritance⟩] }

theorem shop_diagram :
    Integrity shop
      ∧ sparse.find? "exclude.classes" = some (Document.ofTexts ["exception"])
      ∧ sparse.find? "exclude.relationships" = some (Document.ofTexts ["dependency"])
      ∧ sparse.find? "exclude.methods" = some (Document.ofTexts ["magic"])
      ∧ (Diagram.text sparse shop "Trade").outcome
        = (.ok (String.intercalate "\n" ["@startuml", "title Trade", "", "skinparam classFontStyle bold", "",
            "class Shop \x7b", "  +till", "  +open(day)", "\x7d", "",
            "class Till << (D,#FFDD55) >> \x7b", "\x7d", "",
            "' Relationships", "Shop *-- Till", "Till --|> Shop", "", "@enduml"]),
          "관계 추가됨: Shop *-- Till\n관계 추가됨: Till --|> Shop\n") := by
  have hends : ∀ r ∈ shop.relations, r.source ∈ shop.names ∧ r.target ∈ shop.names := by decide
  have hg : Integrity shop := ⟨hends, by decide, by decide⟩
  have hclasses : sparse.find? "exclude.classes" = some (Document.ofTexts ["exception"]) := by rfl
  have hkinds : sparse.find? "exclude.relationships" = some (Document.ofTexts ["dependency"]) := by rfl
  have hmethods : sparse.find? "exclude.methods" = some (Document.ofTexts ["magic"]) := by rfl
  have hdiagram := (diagram_closed_and_complete sparse shop "Trade" ["exception"] ["dependency"] ["magic"] hg
    hclasses hkinds hmethods).1
  exact ⟨hg, hclasses, hkinds, hmethods, hdiagram.trans (by rfl)⟩

end ClassAtlas.Proofs
