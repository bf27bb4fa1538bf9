import ClassAtlas.Proofs.Jobs
import ClassAtlas.Proofs.Settings

/-!
# What is printed

Drawing a diagram prints notices, and a scan draws by printing them line by line on a console that may refuse
one. The two agree: on a console that takes the lines, a scan draws the text of the diagram and prints what
belongs to it (`diagram_eq_text`). The report on a file that is saved is told from all other lines by its first
letter (`notice_ne`, `summaryLine_ne`).
-/

namespace ClassAtlas

/-! ## Drawing -/

/-- Drawing a diagram gives the same text whatever was printed before. -/
theorem gives_text (config : Document) (g : ClassGraph) (title : String) :
    Proofs.Gives (Diagram.text config g title) (Diagram.text config g title).outcome.1 := by
  have hexclude := Proofs.gives_outcome (Proofs.gives_get config "exclude")
  refine Proofs.gives_outcome_bind (Proofs.gives_outcome_bind hexclude fun exclude => ?_) fun lines _ => rfl
  refine Proofs.gives_outcome_bind (fun _ => rfl) fun classes => ?_
  refine Proofs.gives_outcome_bind (fun _ => rfl) fun blocks => ?_
  -- the warnings about an empty graph are printed and do not count
  cases g.nodes.isEmpty with
  | true =>
    cases g.relations.isEmpty with
    | true => exact fun _ => rfl
    | false => exact fun _ => rfl
  | false =>
    cases g.relations.isEmpty with
    | true => exact fun _ => rfl
    | false => exact fun _ => rfl

section
variable {g : ClassGraph}

/-- What is printed about relations are the lines of their notices. -/
theorem relationLines_printed (exclude classes : Document) (relations : List Relation) :
    (Diagram.relationLines g exclude classes relations).2
      = String.join ((relations.filterMap (Diagram.relationNotice g exclude classes)).map (·.line ++ "\n")) := by
  induction relations with
  | nil => rfl
  | cons r rest ih =>
    rw [Diagram.relationLines, List.filterMap_cons, Diagram.relationNotice]
    cases hshows : Diagram.showsRelation g exclude classes r with
    | error fault => simp only [ih, List.map_cons, String.join_cons, Diagram.Notice.line]
    | ok isShown =>
      cases isShown with
      | true => simp only [ih, List.map_cons, String.join_cons, Diagram.Notice.line]
      | false => exact ih

/-- What is printed once the blocks of all classes are there are the lines of the notices on the graph. -/
theorem join_graphNotices (exclude classes : Document) :
    String.join ((Diagram.graphNotices g exclude classes).map (·.line ++ "\n"))
      = (if g.nodes.isEmpty then Diagram.noClassesWarning ++ "\n" else "")
        ++ if g.relations.isEmpty then Diagram.noRelationsWarning ++ "\n"
          else (Diagram.relationLines g exclude classes g.relations).2 := by
  rw [relationLines_printed, Diagram.graphNotices, List.map_append, String.join_append]
  congr 1
  · split <;> rfl
  · split <;> rfl

/-- **Drawing prints the lines of its notices.** -/
theorem text_printed (config : Document) (g : ClassGraph) (title printed : String) :
    (Diagram.text config g title printed).2
      = printed ++ String.join ((Diagram.notices config g).map (·.line ++ "\n")) := by
  have hlines : (Diagram.text config g title printed).2 = (Diagram.lines config g title printed).2 := by
    unfold Diagram.text
    rcases hrun : Diagram.lines config g title printed with ⟨fault | lines, more⟩
    · rw [Proofs.bind_of_error hrun]
    · rw [Proofs.bind_of_ok hrun]
      rfl
  rw [hlines]
  unfold Diagram.lines Diagram.notices
  cases hfind : config.find? "exclude" with
  | none =>
    rw [Proofs.bind_of_ok (Proofs.get_of_find?_none hfind printed)]
    rfl
  | some exclude =>
    rw [Proofs.bind_of_ok (Proofs.get_of_find? hfind printed)]
    cases hclasses : Config.entry exclude "classes" with
    | error fault =>
      simp only [Proofs.ofExcept_error_bind, hclasses]
      exact String.append_empty.symm
    | ok classes =>
      rw [Proofs.ofExcept_bind]
      cases hblocks : Diagram.allClassLines exclude classes g.nodes with
      | error fault =>
        simp only [Proofs.ofExcept_error_bind, hclasses, hblocks]
        exact String.append_empty.symm
      | ok blocks =>
        simp only [Proofs.ofExcept_bind, hclasses, hblocks, join_graphNotices]
        cases g.nodes.isEmpty with
        | true =>
          cases g.relations.isEmpty with
          | true => exact String.append_assoc
          | false => exact String.append_assoc
        | false =>
          cases g.relations.isEmpty with
          | true => exact congrArg (printed ++ ·) String.empty_append.symm
          | false => exact congrArg (printed ++ ·) String.empty_append.symm

end

/-- **Drawing is the text of the diagram and what belongs to it**, on a console that takes the notices. -/
theorem diagram_eq_text {console : Console} {scan : Scan}
    (h : ∀ notice ∈ Diagram.notices scan.config scan.graph, console.Takes notice.line) (title : Option String)
    (s : Session) :
    let drawn := Diagram.text scan.config scan.graph (scan.titleOr s.workspace title) s.printed
    scan.diagram title console s = (drawn.1, { s with printed := drawn.2 }) := by
  intro drawn
  have hresult : drawn.1 = _ := gives_text scan.config scan.graph (scan.titleOr s.workspace title) s.printed
  have hprinted : drawn.2 = _ := text_printed scan.config scan.graph (scan.titleOr s.workspace title) s.printed
  have hworkspace : Job.workspace console s = (.ok s.workspace, s) := rfl
  rw [Scan.diagram, Job.bind_of_ok hworkspace, Job.bind_of_ok (Job.tellAll_of_takes h s), Job.ofExcept, hresult,
    hprinted]

/-! ## Which line is which

The report on a file that is saved starts with a letter that no line before it starts with. -/

/-- The first character of a line. -/
def initial (line : String) : Option Char :=
  line.toList.head?

theorem initial_append {front : String} {c : Char} (h : initial front = some c) (rest : String) :
    initial (front ++ rest) = some c := by
  unfold initial at h ⊢
  rw [String.toList_append, List.head?_append, h]
  rfl

theorem initial_savedReport (file : String) : initial (Scan.savedReport file) = some 'P' :=
  initial_append rfl file

theorem ne_savedReport {line : String} {c : Char} (h : initial line = some c) (hc : c ≠ 'P') (file : String) :
    line ≠ Scan.savedReport file := by
  intro hsame
  rw [hsame, initial_savedReport] at h
  exact hc (Option.some.inj h).symm

theorem unsavedReport_ne (fault : Fault) (file : String) : Scan.unsavedReport fault ≠ Scan.savedReport file :=
  ne_savedReport (c := '파') (initial_append rfl _) (by decide) file

theorem initial_graphNotice {g : ClassGraph} {exclude classes : Document} {notice : Diagram.Notice}
    (h : notice ∈ Diagram.graphNotices g exclude classes) :
    initial notice.line = some '경' ∨ initial notice.line = some '관' := by
  rcases List.mem_append.mp h with hclasses | hrelations
  · split at hclasses
    · rw [List.mem_singleton.mp hclasses]
      exact Or.inl rfl
    · exact absurd hclasses List.not_mem_nil
  · split at hrelations
    · rw [List.mem_singleton.mp hrelations]
      exact Or.inl rfl
    · obtain ⟨r, -, hnotice⟩ := List.mem_filterMap.mp hrelations
      unfold Diagram.relationNotice at hnotice
      refine Or.inr ?_
      split at hnotice
      · rw [← Option.some.inj hnotice]
        exact initial_append rfl _
      · exact absurd hnotice (by simp)
      · rw [← Option.some.inj hnotice]
        exact initial_append (initial_append (initial_append rfl _) _) _

theorem notice_ne {config : Document} {g : ClassGraph} {notice : Diagram.Notice}
    (h : notice ∈ Diagram.notices config g) (file : String) : notice.line ≠ Scan.savedReport file := by
  unfold Diagram.notices at h
  split at h
  · rw [List.mem_singleton.mp h]
    exact ne_savedReport (c := 'K') rfl (by decide) file
  · split at h
    · exact absurd h List.not_mem_nil
    · split at h
      · exact absurd h List.not_mem_nil
      · rcases initial_graphNotice h with hinitial | hinitial
        · exact ne_savedReport hinitial (by decide) file
        · exact ne_savedReport hinitial (by decide) file

theorem initial_summaryLine {scan : Scan} {line : String} (h : line ∈ scan.summaryLines) :
    initial line = some 'A' ∨ initial line = some '-' ∨ initial line = some ' ' := by
  unfold Scan.summaryLines at h
  simp only [List.mem_append, List.mem_cons, List.not_mem_nil, or_false] at h
  rcases h with (((rfl | rfl | rfl) | hclass) | hrelation) | rfl
  · exact Or.inl rfl
  · exact Or.inr (Or.inl (initial_append (initial_append rfl _) _))
  · exact Or.inr (Or.inl (initial_append (initial_append rfl _) _))
  · split at hclass
    · exact absurd hclass List.not_mem_nil
    · rcases List.mem_cons.mp hclass with rfl | hname
      · exact Or.inr (Or.inl rfl)
      · obtain ⟨name, -, rfl⟩ := List.mem_map.mp hname
        exact Or.inr (Or.inr (initial_append rfl name))
  · split at hrelation
    · exact absurd hrelation List.not_mem_nil
    · rcases List.mem_cons.mp hrelation with rfl | hcount
      · exact Or.inr (Or.inl rfl)
      · obtain ⟨count, -, rfl⟩ := List.mem_map.mp hcount
        exact Or.inr (Or.inr (initial_append (initial_append (initial_append (initial_append rfl _) _) _) _))
  · exact Or.inr (Or.inl rfl)

theorem summaryLine_ne {scan : Scan} {line : String} (h : line ∈ scan.summaryLines) (file : String) :
    line ≠ Scan.savedReport file := by
  rcases initial_summaryLine h with hinitial | hinitial | hinitial
  · exact ne_savedReport hinitial (by decide) file
  · exact ne_savedReport hinitial (by decide) file
  · exact ne_savedReport hinitial (by decide) file

end ClassAtlas
