import ClassAtlas.Proofs.Drawing
import ClassAtlas.Proofs.PathNames
import ClassAtlas.Text.Identifier
import Mathlib.Tactic.MkIffOfInductiveProp

/-!
# A diagram tells what it shows

With nothing left out, the text of a diagram can be read back. Lines end where a line end is; the block of a
class ends at the first closing brace; the words of an opening line and of an arrow stand between blanks; a
function has a parenthesis and an attribute has none; and a remark, unlike a block, opens with a quote. So two
graphs have the same text iff they show the same classes with the same members and have the same relations.
-/

namespace ClassAtlas.Proofs

open ClassAtlas Diagram Text

/-! ## What is drawn -/

/-- What a diagram shows of a class. -/
structure Depiction where
  name : String
  kind : ClassKind
  attributes : List String
  functions : List String
deriving DecidableEq

/-- What is shown of a class. Members that are not known are none. -/
def depict (node : ClassNode) : Depiction where
  name := node.name
  kind := node.kind
  attributes := node.attributes.getD []
  functions := (node.functions.getD []).map (·.name)

/-- A name that is an identifier. -/
def IsIdentifier (name : String) : Prop := isIdentifier name.toList = true

/-- All names that are shown are identifiers. -/
@[mk_iff]
structure Depiction.Plain (d : Depiction) : Prop where
  name : IsIdentifier d.name
  attributes : ∀ member ∈ d.attributes, IsIdentifier member
  functions : ∀ member ∈ d.functions, IsIdentifier member

/-- The kinds of relations that have an arrow of their own. -/
def arrowKinds : List RelationKind := [.inheritance, .composition, .dependency]

/-- A relation between identifiers, of a kind that has an arrow of its own. -/
@[mk_iff]
structure PlainRelation (r : Relation) : Prop where
  source : IsIdentifier r.source
  target : IsIdentifier r.target
  kind : r.kind ∈ arrowKinds

/-- A graph of identifiers, with functions of which no fields are known and relations that have arrows. -/
@[mk_iff]
structure PlainGraph (g : ClassGraph) : Prop where
  names : ∀ node ∈ g.nodes, (depict node).Plain
  fields : ∀ node ∈ g.nodes, ∀ f ∈ node.functions.getD [], f.fields.getD [] = []
  relations : ∀ r ∈ g.relations, PlainRelation r

instance (name : String) : Decidable (IsIdentifier name) := inferInstanceAs (Decidable (_ = _))

instance (d : Depiction) : Decidable d.Plain := decidable_of_iff' _ d.plain_iff

instance (r : Relation) : Decidable (PlainRelation r) := decidable_of_iff' _ (plainRelation_iff r)

instance (g : ClassGraph) : Decidable (PlainGraph g) := decidable_of_iff' _ (plainGraph_iff g)

theorem not_mem_of_isIdentifier {name : String} (h : IsIdentifier name) {c : Char}
    (hstart : isIdentifierStart c = false) (hpart : isIdentifierPart c = false) : c ∉ name.toList := by
  unfold IsIdentifier at h
  intro hc
  cases hcs : name.toList with
  | nil => rw [hcs] at hc; exact absurd hc List.not_mem_nil
  | cons first rest =>
    rw [hcs, isIdentifier, Bool.and_eq_true, List.all_eq_true] at h
    rw [hcs] at hc
    rcases List.mem_cons.mp hc with rfl | hrest
    · exact absurd h.1 (by simp [hstart])
    · exact absurd (h.2 c hrest) (by simp [hpart])

theorem blank_not_mem {name : String} (h : IsIdentifier name) : ' ' ∉ name.toList :=
  not_mem_of_isIdentifier h (by decide) (by decide)

theorem lineEnd_not_mem {name : String} (h : IsIdentifier name) : '\n' ∉ name.toList :=
  not_mem_of_isIdentifier h (by decide) (by decide)

theorem parenthesis_not_mem {name : String} (h : IsIdentifier name) : '(' ∉ name.toList :=
  not_mem_of_isIdentifier h (by decide) (by decide)

/-! ## Texts taken apart -/

/-- A common front can be cut off. -/
theorem intercalate_append_cancel {sep : String} {xs ys : List String} (hx : xs ≠ []) (hy : ys ≠ []) :
    ∀ front : List String, sep.intercalate (front ++ xs) = sep.intercalate (front ++ ys) →
      sep.intercalate xs = sep.intercalate ys
  | [], h => h
  | line :: front, h => by
    have hcons : ∀ {zs : List String}, zs ≠ [] →
        sep.intercalate (line :: (front ++ zs)) = line ++ sep ++ sep.intercalate (front ++ zs) :=
      fun hz => String.intercalate_cons_of_ne_nil (List.append_ne_nil_of_right_ne_nil _ hz)
    rw [List.cons_append, List.cons_append, hcons hx, hcons hy, String.append_right_inj] at h
    exact intercalate_append_cancel hx hy front h

/-- Two lists that agree up to the first `a` agree in front of it and behind it. -/
theorem append_cons_inj_of_first {α : Type} {a : α} {xs ys rest rest' : List α} (hxs : a ∉ xs)
    (hys : a ∉ ys) (h : xs ++ a :: rest = ys ++ a :: rest') : xs = ys ∧ rest = rest' := by
  induction xs generalizing ys with
  | nil =>
    cases ys with
    | nil => exact ⟨rfl, (List.cons.inj h).2⟩
    | cons y ys => exact absurd ((List.cons.inj h).1 ▸ List.mem_cons_self) hys
  | cons x xs ih =>
    cases ys with
    | nil => exact absurd ((List.cons.inj h).1 ▸ List.mem_cons_self) hxs
    | cons y ys =>
      obtain ⟨rfl, htail⟩ := List.cons.inj h
      obtain ⟨rfl, hrest⟩ := ih (List.not_mem_of_not_mem_cons hxs) (List.not_mem_of_not_mem_cons hys) htail
      exact ⟨rfl, hrest⟩

/-- Two lists agree part by part if a property tells the parts apart. -/
theorem append_inj_of_filter {α : Type} {p : α → Bool} {xs xs' ys ys' : List α}
    (hxs : ∀ x ∈ xs, p x) (hxs' : ∀ x ∈ xs', p x) (hys : ∀ y ∈ ys, ¬ p y) (hys' : ∀ y ∈ ys', ¬ p y)
    (h : xs ++ ys = xs' ++ ys') : xs = xs' ∧ ys = ys' := by
  have hfront : xs = xs' := by
    simpa [List.filter_append, List.filter_eq_self.mpr hxs, List.filter_eq_self.mpr hxs',
      List.filter_eq_nil_iff.mpr hys, List.filter_eq_nil_iff.mpr hys'] using congrArg (List.filter p) h
  subst hfront
  exact ⟨rfl, List.append_cancel_left h⟩

/-! ## Lines -/

/-- The words of the line that opens a block. -/
def headWords : ClassKind → String → List String
  | .enumeration, name => ["enum", name, "\x7b"]
  | .abstract, name => ["abstract", "class", name, "\x7b"]
  | .dataclass, name => ["class", name, "<<", "(D,#FFDD55)", ">>", "\x7b"]
  | .exception, name => ["exception", name, "\x7b"]
  | .plain, name => ["class", name, "\x7b"]

/-- **The words of an opening line tell the name and the kind of the class.** -/
theorem headWords_injective {kind kind' : ClassKind} {name name' : String}
    (h : headWords kind name = headWords kind' name') : name = name' ∧ kind = kind' := by
  -- the kinds differ in the first word or in the number of words
  cases kind <;> cases kind' <;> simp_all [headWords]

theorem blank_not_mem_headWords {name : String} (hname : IsIdentifier name) (kind : ClassKind) :
    ∀ word ∈ headWords kind name, ' ' ∉ word.toList := by
  cases kind <;> simp [headWords, blank_not_mem hname]

theorem headWords_ne_nil (kind : ClassKind) (name : String) : headWords kind name ≠ [] := by
  cases kind <;> simp [headWords]

theorem headLine_eq (node : ClassNode) :
    headLine node = String.intercalate " " (headWords node.kind node.name) := by
  apply String.toList_inj.mp
  unfold headLine
  cases node.kind <;> simp [headWords]

/-- The line of a function without fields. -/
def callLine (name : String) : String :=
  attributeLine name ++ "()"

theorem functionLine_eq {f : Method} (hf : f.fields.getD [] = []) : functionLine f = callLine f.name := by
  unfold functionLine callLine attributeLine
  rw [hf]
  simp [fieldText, String.append_assoc]

theorem toList_symbol (name : String) :
    (Visibility.symbol name).toList = Visibility.sign name :: name.toList := String.toList_ofList

theorem attributeLine_injective {a b : String} (h : attributeLine a = attributeLine b) : a = b := by
  have hchars := congrArg String.toList ((String.append_right_inj _).mp h)
  rw [toList_symbol, toList_symbol] at hchars
  exact String.toList_inj.mp (List.cons.inj hchars).2

theorem callLine_injective {a b : String} (h : callLine a = callLine b) : a = b :=
  attributeLine_injective ((String.append_left_inj _).mp h)

/-- In front of a member's name there are two blanks and the sign of its visibility. -/
theorem mem_attributeLine {c : Char} {name : String} (h : c ∈ (attributeLine name).toList) :
    c ∈ [' ', '-', '#', '+'] ∨ c ∈ name.toList := by
  unfold attributeLine at h
  rw [String.toList_append, toList_symbol, List.mem_append, List.mem_cons] at h
  rcases h with hblank | rfl | hname
  · exact Or.inl ((by decide : "  ".toList ⊆ [' ', '-', '#', '+']) hblank)
  · left
    unfold Visibility.sign
    split
    · simp
    · split <;> simp
  · exact Or.inr hname

theorem arrow_injective : ∀ k ∈ arrowKinds, ∀ l ∈ arrowKinds, arrow k = arrow l → k = l := by
  decide

/-- **The line of a relation tells its ends and its kind.** -/
theorem relationLine_injective {r s : Relation} (hr : PlainRelation r) (hs : PlainRelation s)
    (h : relationLine r = relationLine s) : r = s := by
  have heq : ∀ q : Relation, relationLine q = String.intercalate " " [q.source, arrow q.kind, q.target] := by
    intro q
    simp [relationLine, String.append_assoc]
  have hblank : ∀ {q : Relation}, PlainRelation q → ∀ word ∈ [q.source, arrow q.kind, q.target],
      ' ' ∉ word.toList := by
    intro q hq
    have harrow : ∀ kind, ' ' ∉ (arrow kind).toList := by
      intro kind
      cases kind <;> simp [arrow]
    simp [blank_not_mem hq.source, blank_not_mem hq.target, harrow]
  rw [heq, heq] at h
  have hwords := Path.intercalate_injective rfl (hblank hr) (hblank hs) (by simp) (by simp) h
  obtain ⟨hsource, harrow, htarget⟩ : r.source = s.source ∧ arrow r.kind = arrow s.kind ∧
      r.target = s.target := by simpa using hwords
  have hkind : r.kind = s.kind := arrow_injective _ hr.kind _ hs.kind harrow
  cases r
  cases s
  simp_all

theorem map_relationLine_injective {rs ss : List Relation} (hrs : ∀ r ∈ rs, PlainRelation r)
    (hss : ∀ s ∈ ss, PlainRelation s) (h : rs.map relationLine = ss.map relationLine) : rs = ss := by
  induction rs generalizing ss with
  | nil => exact (List.map_eq_nil_iff.mp h.symm).symm
  | cons r rs ih =>
    obtain ⟨s, ss, rfl, hline, hlines⟩ := List.map_eq_cons_iff.mp h.symm
    rw [relationLine_injective (hss s List.mem_cons_self) (hrs r List.mem_cons_self) hline,
      ih (fun q hq => hrs q (List.mem_cons_of_mem r hq)) (fun q hq => hss q (List.mem_cons_of_mem s hq))
        hlines.symm]

theorem lineEnd_not_mem_relationLine {r : Relation} (hr : PlainRelation r) :
    '\n' ∉ (relationLine r).toList := by
  have harrow : '\n' ∉ (arrow r.kind).toList := by
    cases r.kind <;> simp [arrow]
  simp [relationLine, lineEnd_not_mem hr.source, lineEnd_not_mem hr.target, harrow]

/-! ## Blocks -/

namespace Depiction

variable {d e : Depiction}

/-- The lines of a block between its first and its last. -/
def memberLines (d : Depiction) : List String :=
  d.attributes.map attributeLine ++ d.functions.map callLine

/-- The lines of a block. -/
def block (d : Depiction) : List String :=
  String.intercalate " " (headWords d.kind d.name) :: (d.memberLines ++ ["\x7d"])

/-- Members are indented. -/
theorem head?_of_mem_memberLines {line : String} (h : line ∈ d.memberLines) :
    line.toList.head? = some ' ' := by
  rcases List.mem_append.mp h with hattribute | hfunction
  · obtain ⟨member, -, rfl⟩ := List.mem_map.mp hattribute
    simp [attributeLine]
  · obtain ⟨member, -, rfl⟩ := List.mem_map.mp hfunction
    simp [callLine, attributeLine]

theorem brace_not_mem_memberLines (d : Depiction) : "\x7d" ∉ d.memberLines :=
  fun h => absurd (head?_of_mem_memberLines h) (by decide)

/-- **The lines of the members tell the attributes and the functions.** -/
theorem memberLines_injective (hd : d.Plain) (he : e.Plain) (h : d.memberLines = e.memberLines) :
    d.attributes = e.attributes ∧ d.functions = e.functions := by
  -- a function has a parenthesis, an attribute has none
  have hattribute : ∀ {names : List String}, (∀ name ∈ names, IsIdentifier name) →
      ∀ line ∈ names.map attributeLine, decide ('(' ∉ line.toList) = true := by
    intro names hnames line hline
    obtain ⟨name, hname, rfl⟩ := List.mem_map.mp hline
    have hparenthesis := parenthesis_not_mem (hnames name hname)
    exact decide_eq_true fun hc => by simpa [hparenthesis] using mem_attributeLine hc
  have hfunction : ∀ {names : List String}, ∀ line ∈ names.map callLine,
      ¬ decide ('(' ∉ line.toList) = true := by
    intro names line hline
    obtain ⟨name, -, rfl⟩ := List.mem_map.mp hline
    simp [callLine]
  obtain ⟨hattributes, hfunctions⟩ := append_inj_of_filter (hattribute hd.attributes)
    (hattribute he.attributes) hfunction hfunction h
  exact ⟨(List.map_inj_right fun _ _ => attributeLine_injective).mp hattributes,
    (List.map_inj_right fun _ _ => callLine_injective).mp hfunctions⟩

/-- **A block tells the class, and where it ends.** -/
theorem block_append_injective (hd : d.Plain) (he : e.Plain) {rest rest' : List String}
    (h : d.block ++ rest = e.block ++ rest') : d = e ∧ rest = rest' := by
  unfold block at h
  rw [List.cons_append, List.cons_append, List.append_assoc, List.append_assoc] at h
  obtain ⟨hhead, htail⟩ := List.cons.inj h
  have hwords := Path.intercalate_injective rfl (blank_not_mem_headWords hd.name d.kind)
    (blank_not_mem_headWords he.name e.kind) (headWords_ne_nil _ _) (headWords_ne_nil _ _) hhead
  obtain ⟨hname, hkind⟩ := headWords_injective hwords
  -- no member is a closing brace, so the first one ends the block
  obtain ⟨hmembers, hrest⟩ :=
    append_cons_inj_of_first d.brace_not_mem_memberLines e.brace_not_mem_memberLines htail
  obtain ⟨hattributes, hfunctions⟩ := memberLines_injective hd he hmembers
  refine ⟨?_, hrest⟩
  cases d
  cases e
  simp_all

/-- The lines of blocks hold no line end. -/
theorem lineEnd_not_mem_block (hd : d.Plain) : ∀ line ∈ d.block, '\n' ∉ line.toList := by
  have hmember : ∀ {name : String}, IsIdentifier name → '\n' ∉ (attributeLine name).toList :=
    fun hname hc => by simpa [lineEnd_not_mem hname] using mem_attributeLine hc
  intro line hline
  rcases List.mem_cons.mp hline with rfl | htail
  · cases hk : d.kind <;> simp [headWords, lineEnd_not_mem hd.name]
  · rcases List.mem_append.mp htail with hline | hbrace
    · rcases List.mem_append.mp hline with hattribute | hfunction
      · obtain ⟨name, hname, rfl⟩ := List.mem_map.mp hattribute
        exact hmember (hd.attributes name hname)
      · obtain ⟨name, hname, rfl⟩ := List.mem_map.mp hfunction
        simp [callLine, hmember (hd.functions name hname)]
    · rw [List.mem_singleton.mp hbrace]
      decide

end Depiction

/-- The lines of all blocks, each with an empty line behind it. -/
def blockLines (ds : List Depiction) : List String :=
  ds.flatMap fun d => d.block ++ [""]

theorem blockLines_cons_append (d : Depiction) (ds : List Depiction) (rest : List String) :
    blockLines (d :: ds) ++ rest = d.block ++ "" :: (blockLines ds ++ rest) := by
  simp [blockLines]

/-- A remark opens with a quote. -/
def IsRemark (line : String) : Prop := line.toList.head? = some '\''

/-- No block opens with a remark. -/
theorem cons_ne_blockLines {remark : String} (hremark : IsRemark remark) (d : Depiction)
    (ds : List Depiction) (rest rest' : List String) : remark :: rest ≠ blockLines (d :: ds) ++ rest' := by
  intro h
  rw [blockLines_cons_append, Depiction.block, List.cons_append] at h
  unfold IsRemark at hremark
  rw [(List.cons.inj h).1] at hremark
  cases hkind : d.kind <;> simp [hkind, headWords] at hremark

/-- **The blocks tell the classes.** What follows them opens with a remark. -/
theorem blockLines_append_injective {remark remark' : String} (hremark : IsRemark remark)
    (hremark' : IsRemark remark') {rest rest' : List String} {ds es : List Depiction}
    (hds : ∀ d ∈ ds, d.Plain) (hes : ∀ e ∈ es, e.Plain)
    (h : blockLines ds ++ remark :: rest = blockLines es ++ remark' :: rest') :
    ds = es ∧ remark :: rest = remark' :: rest' := by
  induction ds generalizing es with
  | nil =>
    cases es with
    | nil => exact ⟨rfl, h⟩
    | cons e es => exact absurd h (cons_ne_blockLines hremark e es rest _)
  | cons d ds ih =>
    cases es with
    | nil => exact absurd h.symm (cons_ne_blockLines hremark' d ds rest' _)
    | cons e es =>
      rw [blockLines_cons_append, blockLines_cons_append] at h
      obtain ⟨rfl, htail⟩ :=
        Depiction.block_append_injective (hds d List.mem_cons_self) (hes e List.mem_cons_self) h
      obtain ⟨rfl, hrest⟩ := ih (fun d' hd' => hds d' (List.mem_cons_of_mem d hd'))
        (fun e' he' => hes e' (List.mem_cons_of_mem d he')) (List.cons.inj htail).2
      exact ⟨rfl, hrest⟩

/-! ## The whole diagram -/

/-- The lines behind the blocks, the last two left aside: what there is none of, and the arrows. -/
def arrowLines (ds : List Depiction) (rs : List Relation) : List String :=
  (if ds.isEmpty then ["' No classes found"] else [])
    ++ (if rs.isEmpty then ["' No relationships found"] else "' Relationships" :: rs.map relationLine)

/-- The lines behind the opening ones. -/
def bodyLines (ds : List Depiction) (rs : List Relation) : List String :=
  blockLines ds ++ arrowLines ds rs ++ ["", "@enduml"]

theorem exists_remark (ds : List Depiction) (rs : List Relation) :
    ∃ remark rest, IsRemark remark ∧ arrowLines ds rs = remark :: rest := by
  unfold arrowLines IsRemark
  cases ds.isEmpty <;> cases rs.isEmpty <;> simp

/-- **The arrows tell the relations.** -/
theorem arrowLines_injective {ds : List Depiction} {rs ss : List Relation}
    (hrs : ∀ r ∈ rs, PlainRelation r) (hss : ∀ s ∈ ss, PlainRelation s)
    (h : arrowLines ds rs = arrowLines ds ss) : rs = ss := by
  have harrows := List.append_cancel_left h
  cases rs with
  | nil =>
    cases ss with
    | nil => rfl
    | cons s ss => simp at harrows
  | cons r rs =>
    cases ss with
    | nil => simp at harrows
    | cons s ss => exact map_relationLine_injective hrs hss (List.cons.inj harrows).2

/-- **What stands behind the title tells the classes and the relations.** -/
theorem bodyLines_injective {ds es : List Depiction} {rs ss : List Relation} (hds : ∀ d ∈ ds, d.Plain)
    (hes : ∀ e ∈ es, e.Plain) (hrs : ∀ r ∈ rs, PlainRelation r) (hss : ∀ s ∈ ss, PlainRelation s)
    (h : bodyLines ds rs = bodyLines es ss) : ds = es ∧ rs = ss := by
  obtain ⟨remark, rest, hremark, harrows⟩ := exists_remark ds rs
  obtain ⟨remark', rest', hremark', harrows'⟩ := exists_remark es ss
  have hlines : blockLines ds ++ arrowLines ds rs = blockLines es ++ arrowLines es ss :=
    List.append_cancel_right h
  rw [harrows, harrows'] at hlines
  obtain ⟨rfl, hrest⟩ := blockLines_append_injective hremark hremark' hds hes hlines
  have hsame : arrowLines ds rs = arrowLines ds ss := by
    rw [harrows, harrows', hrest]
  exact ⟨rfl, arrowLines_injective hrs hss hsame⟩

/-- Only the title may hold a line end. -/
theorem lineEnd_not_mem_bodyLines {ds : List Depiction} {rs : List Relation} (hds : ∀ d ∈ ds, d.Plain)
    (hrs : ∀ r ∈ rs, PlainRelation r) : ∀ line ∈ bodyLines ds rs, '\n' ∉ line.toList := by
  have hblocks : ∀ line ∈ blockLines ds, '\n' ∉ line.toList := by
    intro line hline
    obtain ⟨d, hd, hblock⟩ := List.mem_flatMap.mp hline
    rcases List.mem_append.mp hblock with hblock | hempty
    · exact Depiction.lineEnd_not_mem_block (hds d hd) line hblock
    · rw [List.mem_singleton.mp hempty]
      decide
  have harrows : ∀ line ∈ arrowLines ds rs, '\n' ∉ line.toList := by
    intro line hline
    unfold arrowLines at hline
    rcases List.mem_append.mp hline with hnone | harrow
    · split at hnone <;> simp_all
    · split at harrow
      · simp_all
      · rcases List.mem_cons.mp harrow with rfl | harrow
        · decide
        · obtain ⟨r, hr, rfl⟩ := List.mem_map.mp harrow
          exact lineEnd_not_mem_relationLine (hrs r hr)
  intro line hline
  rcases List.mem_append.mp hline with hline | hlast
  · exact (List.mem_append.mp hline).elim (hblocks line) (harrows line)
  · exact (by decide : ∀ line ∈ ["", "@enduml"], '\n' ∉ line.toList) line hlast

/-- Nothing is left out if nothing is to be left out, be the classes of a relation known or not. -/
theorem relationLines_all {g : ClassGraph} {exclude : Document}
    (hkinds : Config.entry exclude "relationships" = .ok (Document.ofTexts [])) (rs : List Relation) :
    relationLines g exclude (Document.ofTexts []) rs = (rs.map relationLine, addedReport rs) := by
  have hshows : ∀ r, showsRelation g exclude (Document.ofTexts []) r = .ok true := by
    intro r
    have hends : endLeftOut g (Document.ofTexts []) r = .ok false := rfl
    unfold showsRelation
    rw [hends, ok_bind, hkinds, ok_bind, leavesOut_ofTexts, ok_bind]
    rfl
  induction rs with
  | nil => rfl
  | cons r rest ih =>
    simp only [relationLines, ih, hshows]
    rfl

theorem classBlock_eq_block {node : ClassNode} (h : ∀ f ∈ node.functions.getD [], f.fields.getD [] = []) :
    classBlock [] node = (depict node).block := by
  have hfunctions : (node.functions.getD []).map functionLine
      = ((node.functions.getD []).map (·.name)).map callLine := by
    rw [List.map_map]
    exact List.map_congr_left fun f hf => functionLine_eq (h f hf)
  simp [classBlock, hfunctions, headLine_eq, Depiction.block, Depiction.memberLines, depict]

/-- **A diagram that leaves out nothing has all blocks and all arrows.** -/
theorem text_eq {config : Document} (hclasses : config.find? "exclude.classes" = some (Document.ofTexts []))
    (hkinds : config.find? "exclude.relationships" = some (Document.ofTexts []))
    (hmethods : config.find? "exclude.methods" = some (Document.ofTexts [])) {g : ClassGraph}
    (hg : PlainGraph g) (title : String) :
    (Diagram.text config g title).outcome.1
      = .ok (String.intercalate "\n"
        (openingLines title ++ bodyLines (g.nodes.map depict) g.relations)) := by
  have hblocks : (shownClasses [] g).flatMap (fun node => classBlock [] node ++ [""])
      = blockLines (g.nodes.map depict) := by
    have hshown : shownClasses [] g = g.nodes := List.filter_eq_self.mpr fun node _ => by simp
    rw [hshown, blockLines, List.flatMap_map]
    exact List.flatMap_congr fun node hnode => by rw [classBlock_eq_block (hg.fields node hnode)]
  have hlines : ∀ printed, Diagram.lines config g title printed = _ :=
    lines_eq hclasses hmethods (relationLines_all (entry_of_follow? hkinds) g.relations)
  have hbody : (if g.nodes.isEmpty then ["' No classes found"] else blockLines (g.nodes.map depict))
      ++ (if g.relations.isEmpty then ["' No relationships found"]
        else "' Relationships" :: g.relations.map relationLine)
      = blockLines (g.nodes.map depict) ++ arrowLines (g.nodes.map depict) g.relations := by
    unfold arrowLines
    cases g.nodes with
    | nil => rfl
    | cons node nodes => rfl
  unfold Action.outcome Diagram.text bodyLines
  rw [bind_of_ok (hlines ""), hblocks, List.append_assoc (openingLines title), hbody, List.append_assoc]
  rfl

/--
**A diagram that leaves out nothing tells its classes and relations.**

Two graphs whose names are identifiers, whose functions have no fields and whose relations are inheritances,
compositions and dependencies both have a text. It is the same iff they have classes of the same names in
the same order, each with the same kind, the same attributes and the same names of functions, and the same
relations.
-/
theorem same_text_iff_same_content (config : Document) (title : String)
    (hclasses : config.find? "exclude.classes" = some (Document.ofTexts []))
    (hkinds : config.find? "exclude.relationships" = some (Document.ofTexts []))
    (hmethods : config.find? "exclude.methods" = some (Document.ofTexts [])) (g h : ClassGraph)
    (hg : PlainGraph g) (hh : PlainGraph h) :
    ∃ s t, (Diagram.text config g title).outcome.1 = .ok s ∧ (Diagram.text config h title).outcome.1 = .ok t
      ∧ (s = t ↔ g.nodes.map depict = h.nodes.map depict ∧ g.relations = h.relations) := by
  have hds : ∀ {k : ClassGraph}, PlainGraph k → ∀ d ∈ k.nodes.map depict, d.Plain :=
    fun hk => List.forall_mem_map.mpr hk.names
  refine ⟨_, _, text_eq hclasses hkinds hmethods hg title, text_eq hclasses hkinds hmethods hh title, ?_, ?_⟩
  · intro htext
    -- the title may hold line ends, but it is the same in both
    have hbody := intercalate_append_cancel (by simp [bodyLines]) (by simp [bodyLines])
      (openingLines title) htext
    have hlines := Path.intercalate_injective rfl (lineEnd_not_mem_bodyLines (hds hg) hg.relations)
      (lineEnd_not_mem_bodyLines (hds hh) hh.relations) (by simp [bodyLines]) (by simp [bodyLines]) hbody
    exact bodyLines_injective (hds hg) (hds hh) hg.relations hh.relations hlines
  · rintro ⟨hnodes, hrelations⟩
    rw [hnodes, hrelations]

/-- A class with members, and a data class that has the relation to it. -/
def kennel (kind : RelationKind) : ClassGraph :=
  { nodes := [{ name := "Dog", attributes := some ["_age", "bark"],
                functions := some [{ name := "__init__" }, { name := "bark", fields := none }] },
              { name := "Kennel", kind := .dataclass, attributes := none }]
    relations := [⟨"Kennel", "Dog", kind⟩] }

theorem kennel_texts_differ :
    lenient.find? "exclude.classes" = some (Document.ofTexts [])
      ∧ lenient.find? "exclude.relationships" = some (Document.ofTexts [])
      ∧ lenient.find? "exclude.methods" = some (Document.ofTexts [])
      ∧ PlainGraph (kennel .composition) ∧ PlainGraph (kennel .dependency)
      ∧ ∃ s t, (Diagram.text lenient (kennel .composition) "Dogs").outcome.1 = .ok s
        ∧ (Diagram.text lenient (kennel .dependency) "Dogs").outcome.1 = .ok t ∧ s ≠ t := by
  have hclasses : lenient.find? "exclude.classes" = some (Document.ofTexts []) := rfl
  have hkinds : lenient.find? "exclude.relationships" = some (Document.ofTexts []) := rfl
  have hmethods : lenient.find? "exclude.methods" = some (Document.ofTexts []) := rfl
  have hcomposed : PlainGraph (kennel .composition) := by decide
  have hdepends : PlainGraph (kennel .dependency) := by decide
  obtain ⟨s, t, hs, ht, hsame⟩ := same_text_iff_same_content lenient "Dogs" hclasses hkinds hmethods _ _
    hcomposed hdepends
  refine ⟨hclasses, hkinds, hmethods, hcomposed, hdepends, s, t, hs, ht, fun heq => ?_⟩
  exact absurd (hsame.mp heq).2 (by decide)

end ClassAtlas.Proofs
