import ClassAtlas.Source.TypeNames

/-!
# Where an annotation names types

An annotation names a type by a plain name or by the last part of a dotted one. Such a name may stand in the
parts of a subscript, in a tuple, in a list between brackets, or on either side of a union. The names that
are collected are those that stand in subscripts and tuples only (`mem_typeNames_iff`): a list or a union
covers all names inside of it. So no name is lost exactly if every covered name also stands somewhere in the
open (`no_type_lost_iff`).
-/

namespace ClassAtlas.Source

/-- The annotation names the type. The name is `covered` if a list or a union stands around it. -/
inductive Expr.NamesType (type : String) : (covered : Bool) → Expr → Prop
  | plain : NamesType type false (.name type)
  /-- The last part of a dotted name. -/
  | dotted {value : Expr} : NamesType type false (.member value type)
  | value {covered : Bool} {value index : Expr} :
      NamesType type covered value → NamesType type covered (.subscript value index)
  | index {covered : Bool} {value index : Expr} :
      NamesType type covered index → NamesType type covered (.subscript value index)
  | inTuple {covered : Bool} {e : Expr} {elements : List Expr} :
      e ∈ elements → NamesType type covered e → NamesType type covered (.tuple elements)
  | inList {covered : Bool} {e : Expr} {elements : List Expr} :
      e ∈ elements → NamesType type covered e → NamesType type true (.list elements)
  | unionLeft {covered : Bool} {left right : Expr} :
      NamesType type covered left → NamesType type true (.binary left .bitOr right)
  | unionRight {covered : Bool} {left right : Expr} :
      NamesType type covered right → NamesType type true (.binary left .bitOr right)

mutual

/-- **What is collected from an annotation are the names in the open.** -/
theorem mem_mentioned_iff {type : String} : ∀ e : Expr, type ∈ e.mentioned ↔ e.NamesType type false
  | .name id => by
      rw [Expr.mentioned, List.mem_singleton]
      constructor
      · rintro rfl
        exact .plain
      · intro h
        cases h
        rfl
  | .member value last => by
      rw [Expr.mentioned, List.mem_singleton]
      constructor
      · rintro rfl
        exact .dotted
      · intro h
        cases h
        rfl
  | .subscript value index => by
      rw [Expr.mentioned, List.mem_append, mem_mentioned_iff index, mem_mentioned_iff value]
      constructor
      · rintro (hindex | hvalue)
        · exact .index hindex
        · exact .value hvalue
      · intro h
        cases h with
        | value hvalue => exact Or.inr hvalue
        | index hindex => exact Or.inl hindex
  | .tuple elements => by
      rw [Expr.mentioned, mem_mentionedAll_iff elements]
      constructor
      · rintro ⟨e, he, hnames⟩
        exact .inTuple he hnames
      · intro h
        cases h with
        | inTuple he hnames => exact ⟨_, he, hnames⟩
  -- all other expressions mention nothing, and what they name is covered
  | .boolOp .. | .named .. | .binary .. | .unary .. | .lambda .. | .choice .. | .dict .. | .set ..
  | .listComp .. | .setComp .. | .dictComp .. | .generator .. | .await .. | .yield .. | .yieldFrom ..
  | .compare .. | .call .. | .formatted .. | .joined .. | .constant .. | .starred .. | .list ..
  | .slice .. => ⟨fun h => absurd h List.not_mem_nil, fun h => nomatch h⟩

theorem mem_mentionedAll_iff {type : String} : ∀ es : List Expr,
    type ∈ Expr.mentionedAll es ↔ ∃ e ∈ es, e.NamesType type false
  | [] => by simp [Expr.mentionedAll]
  | e :: rest => by
      rw [Expr.mentionedAll, List.mem_append, mem_mentioned_iff e, mem_mentionedAll_iff rest]
      simp

end

theorem mem_typeNames_iff {type : String} {e : Expr} : type ∈ e.typeNames ↔ e.NamesType type false := by
  rw [Expr.typeNames, Ordered.mem_insertAll, mem_mentioned_iff]
  simp

/--
**No type is lost iff every covered name also stands in the open.**

From every annotation, of whatever depth, exactly the types are collected that it names outside of lists and
unions. So all types that it names are collected if and only if those inside of lists and unions stand
outside of them as well; in particular if there are no lists and no unions.
-/
theorem no_type_lost_iff (e : Expr) :
    (∀ type, type ∈ e.typeNames ↔ e.NamesType type false)
      ∧ ((∀ type covered, e.NamesType type covered → type ∈ e.typeNames)
        ↔ ∀ type, e.NamesType type true → e.NamesType type false) := by
  refine ⟨fun type => mem_typeNames_iff, fun hkept type hcovered => ?_, fun hopen type covered hnames => ?_⟩
  · exact mem_typeNames_iff.mp (hkept type true hcovered)
  · rw [mem_typeNames_iff]
    cases covered with
    | false => exact hnames
    | true => exact hopen type hnames

/-- **Unions and lists lose types**: both of `A | B`, and the parameter of `Callable[[A], B]`. -/
theorem unions_and_lists_lose_types :
    (Expr.binary (.name "A") .bitOr (.name "B")).NamesType "A" true
      ∧ (Expr.binary (.name "A") .bitOr (.name "B")).NamesType "B" true
      ∧ (Expr.binary (.name "A") .bitOr (.name "B")).typeNames = []
      ∧ (Expr.subscript (.name "Callable") (.tuple [.list [.name "A"], .name "B"])).NamesType "A" true
      ∧ (Expr.subscript (.name "Callable") (.tuple [.list [.name "A"], .name "B"])).typeNames
        = ["B", "Callable"] := by
  refine ⟨.unionLeft .plain, .unionRight .plain, rfl, ?_, by decide +kernel⟩
  exact .index (.inTuple List.mem_cons_self (.inList List.mem_cons_self .plain))

end ClassAtlas.Source
