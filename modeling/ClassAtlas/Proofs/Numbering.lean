import ClassAtlas.Outline

/-!
# Every call has an identity of its own

Outlining numbers calls one after the other, in the order in which they stand in the outline. So the
identities in an outline are an interval that starts where the numbering started (`Consecutive.ids`), and
another start moves all of them by the same distance (`Consecutive.result`). Both are proved together, by
induction over all of the syntax: a computation that joins two others, the second of which goes on where
the first ended, inherits them.
-/

namespace ClassAtlas.Proofs

open ClassAtlas Outline Source

/-- The call under another number. -/
def renumberCall (f : Nat → Nat) (call : CallSite) : CallSite :=
  { call with id := f call.id }

mutual

/-- The outline with other numbers for its calls. -/
def renumberOutline (f : Nat → Nat) : Outline → Outline
  | .classDef name decorators bases calls body =>
    .classDef name decorators bases (calls.map (renumberCall f)) (renumberOutlines f body)
  | .function name types calls body =>
    .function name types (calls.map (renumberCall f)) (renumberOutlines f body)
  | .assign targets value calls =>
    .assign targets (value.map (renumberCall f)) (calls.map (renumberCall f))
  | .annAssign target types calls => .annAssign target types (calls.map (renumberCall f))
  | .other calls body => .other (calls.map (renumberCall f)) (renumberOutlines f body)

/-- Outlines with other numbers for their calls. -/
def renumberOutlines (f : Nat → Nat) : List Outline → List Outline
  | [] => []
  | o :: rest => renumberOutline f o :: renumberOutlines f rest

end

mutual

/-- All calls of an outline, in order. -/
def outlineCalls : Outline → List CallSite
  | .classDef _ _ _ calls body => calls ++ outlinesCalls body
  | .function _ _ calls body => calls ++ outlinesCalls body
  | .assign _ _ calls => calls
  | .annAssign _ _ calls => calls
  | .other calls body => calls ++ outlinesCalls body

/-- All calls of several outlines. -/
def outlinesCalls : List Outline → List CallSite
  | [] => []
  | o :: rest => outlineCalls o ++ outlinesCalls rest

end

mutual

/-- Every assigned value is one of the calls of its assignment. -/
def properOutline : Outline → Prop
  | .classDef _ _ _ _ body => properOutlines body
  | .function _ _ _ body => properOutlines body
  | .assign _ value calls => ∀ call ∈ value, call ∈ calls
  | .annAssign .. => True
  | .other _ body => properOutlines body

/-- Several outlines are proper. -/
def properOutlines : List Outline → Prop
  | [] => True
  | o :: rest => properOutline o ∧ properOutlines rest

end

/-! ## Other numbers -/

theorem map_renumberCall (f g : Nat → Nat) (calls : List CallSite) :
    (calls.map (renumberCall g)).map (renumberCall f) = calls.map (renumberCall (f ∘ g)) :=
  List.map_map

mutual

theorem renumberOutline_comp (f g : Nat → Nat) :
    ∀ o : Outline, renumberOutline f (renumberOutline g o) = renumberOutline (f ∘ g) o
  | .classDef name decorators bases calls body => by
      simp only [renumberOutline, map_renumberCall, renumberOutlines_comp f g body]
  | .function name types calls body => by
      simp only [renumberOutline, map_renumberCall, renumberOutlines_comp f g body]
  | .assign targets value calls => by
      simp only [renumberOutline, map_renumberCall, Option.map_map]
      rfl
  | .annAssign target types calls => by simp only [renumberOutline, map_renumberCall]
  | .other calls body => by
      simp only [renumberOutline, map_renumberCall, renumberOutlines_comp f g body]

theorem renumberOutlines_comp (f g : Nat → Nat) :
    ∀ os : List Outline, renumberOutlines f (renumberOutlines g os) = renumberOutlines (f ∘ g) os
  | [] => rfl
  | o :: rest => by
      simp only [renumberOutlines, renumberOutline_comp f g o, renumberOutlines_comp f g rest]

end

mutual

theorem outlineCalls_renumber (f : Nat → Nat) :
    ∀ o : Outline, outlineCalls (renumberOutline f o) = (outlineCalls o).map (renumberCall f)
  | .classDef name decorators bases calls body => by
      simp only [renumberOutline, outlineCalls, outlinesCalls_renumber f body, List.map_append]
  | .function name types calls body => by
      simp only [renumberOutline, outlineCalls, outlinesCalls_renumber f body, List.map_append]
  | .assign targets value calls => rfl
  | .annAssign target types calls => rfl
  | .other calls body => by
      simp only [renumberOutline, outlineCalls, outlinesCalls_renumber f body, List.map_append]

theorem outlinesCalls_renumber (f : Nat → Nat) :
    ∀ os : List Outline, outlinesCalls (renumberOutlines f os) = (outlinesCalls os).map (renumberCall f)
  | [] => rfl
  | o :: rest => by
      simp only [renumberOutlines, outlinesCalls, outlineCalls_renumber f o, outlinesCalls_renumber f rest,
        List.map_append]

end

theorem renumberOutlines_append (f : Nat → Nat) (os more : List Outline) :
    renumberOutlines f (os ++ more) = renumberOutlines f os ++ renumberOutlines f more := by
  induction os with
  | nil => rfl
  | cons o os ih => simp only [List.cons_append, renumberOutlines, ih]

theorem outlinesCalls_append (os more : List Outline) :
    outlinesCalls (os ++ more) = outlinesCalls os ++ outlinesCalls more := by
  induction os with
  | nil => rfl
  | cons o os ih => simp only [List.cons_append, outlinesCalls, ih, List.append_assoc]

theorem properOutlines_append {os more : List Outline} (h : properOutlines os)
    (hmore : properOutlines more) : properOutlines (os ++ more) := by
  induction os with
  | nil => exact hmore
  | cons o os ih => exact ⟨h.1, ih h.2⟩

/-! ## Consecutive numbers -/

/-- Something that holds calls, whose numbers can be changed. -/
class HoldsCalls (α : Type) where
  calls : α → List CallSite
  renumber : (Nat → Nat) → α → α
  proper : α → Prop
  renumber_comp : ∀ f g a, renumber f (renumber g a) = renumber (f ∘ g) a
  calls_renumber : ∀ f a, calls (renumber f a) = (calls a).map (renumberCall f)

instance : HoldsCalls (List CallSite) where
  calls := id
  renumber := fun f calls => calls.map (renumberCall f)
  proper := fun _ => True
  renumber_comp := map_renumberCall
  calls_renumber := fun _ _ => rfl

instance : HoldsCalls Outline where
  calls := outlineCalls
  renumber := renumberOutline
  proper := properOutline
  renumber_comp := renumberOutline_comp
  calls_renumber := outlineCalls_renumber

instance : HoldsCalls (List Outline) where
  calls := outlinesCalls
  renumber := renumberOutlines
  proper := properOutlines
  renumber_comp := renumberOutlines_comp
  calls_renumber := outlinesCalls_renumber

instance {α β : Type} [HoldsCalls α] [HoldsCalls β] : HoldsCalls (α × β) where
  calls := fun p => HoldsCalls.calls p.1 ++ HoldsCalls.calls p.2
  renumber := fun f p => (HoldsCalls.renumber f p.1, HoldsCalls.renumber f p.2)
  proper := fun p => HoldsCalls.proper p.1 ∧ HoldsCalls.proper p.2
  renumber_comp := fun f g p => by rw [HoldsCalls.renumber_comp, HoldsCalls.renumber_comp]
  calls_renumber := fun f p => by
    rw [HoldsCalls.calls_renumber, HoldsCalls.calls_renumber, List.map_append]

open HoldsCalls

/-- A computation that numbers the calls of its result one after the other. -/
structure Consecutive {α : Type} [HoldsCalls α] (m : Numbering α) : Prop where
  /-- Another start moves the numbers and changes nothing else. -/
  result : ∀ n, (m n).1 = renumber (n + ·) (m 0).1
  /-- As many numbers are used from every start. -/
  next : ∀ n, (m n).2 = n + (m 0).2
  /-- The numbers are those between the start and the end, in order. -/
  ids : (calls (m 0).1).map (·.id) = List.range (m 0).2
  proper : ∀ n, proper (m n).1

theorem add_comp (n k : Nat) : (n + ·) ∘ (k + ·) = (n + k + ·) :=
  funext fun i => (Nat.add_assoc n k i).symm

section

variable {α β : Type} [HoldsCalls α] [HoldsCalls β] {m : Numbering α} {k : Numbering β}

/-- **Going on where another computation ended keeps the numbers consecutive.** -/
theorem Consecutive.pair (hm : Consecutive m) (hk : Consecutive k) :
    Consecutive (do let a ← m; let b ← k; return (a, b)) where
  result := fun n => by
    show ((m n).1, (k (m n).2).1) = (renumber (n + ·) (m 0).1, renumber (n + ·) (k (m 0).2).1)
    rw [hm.result n, hm.next n, hk.result (n + (m 0).2), hk.result (m 0).2, renumber_comp, add_comp]
  next := fun n => by
    show (k (m n).2).2 = n + (k (m 0).2).2
    rw [hm.next n, hk.next (n + (m 0).2), hk.next (m 0).2, Nat.add_assoc]
  ids := by
    show (calls (m 0).1 ++ calls (k (m 0).2).1).map (·.id) = List.range (k (m 0).2).2
    -- the second part is numbered from where the first ended, so the two ranges join
    have hmove : (·.id) ∘ renumberCall ((m 0).2 + ·) = ((m 0).2 + ·) ∘ CallSite.id := rfl
    rw [hk.result, hk.next, calls_renumber, List.map_append, List.map_map, hmove, ← List.map_map, hm.ids,
      hk.ids, List.range_add]
  proper := fun n => ⟨hm.proper n, hk.proper (m n).2⟩

/-- Putting a result into another form keeps the numbers consecutive. -/
theorem Consecutive.map (hm : Consecutive m) (f : α → β)
    (hrenumber : ∀ g a, renumber g (f a) = f (renumber g a)) (hcalls : ∀ a, calls (f a) = calls a)
    (hproper : ∀ a, HoldsCalls.proper a → HoldsCalls.proper (f a)) :
    Consecutive (do let a ← m; return f a) where
  result := fun n => by
    show f (m n).1 = renumber (n + ·) (f (m 0).1)
    rw [hm.result n, hrenumber]
  next := hm.next
  ids := by
    show (calls (f (m 0).1)).map (·.id) = List.range (m 0).2
    rw [hcalls, hm.ids]
  proper := fun n => hproper _ (hm.proper n)

end

theorem consecutive_none : Consecutive (return [] : Numbering (List CallSite)) :=
  ⟨fun _ => rfl, fun _ => rfl, rfl, fun _ => trivial⟩

/-- A call takes the next number. -/
theorem consecutive_call (callee : Callee) :
    Consecutive (do let id ← fresh; return [⟨id, callee⟩] : Numbering (List CallSite)) :=
  ⟨fun _ => rfl, fun _ => rfl, rfl, fun _ => trivial⟩

theorem Consecutive.append {m k : Numbering (List CallSite)} (hm : Consecutive m)
    (hk : Consecutive k) : Consecutive (do let a ← m; return a ++ (← k)) :=
  (hm.pair hk).map (fun p => p.1 ++ p.2) (fun _ _ => List.map_append) (fun _ => rfl)
    (fun _ _ => trivial)

/-! ## Expressions -/

mutual

/-- **The calls in an expression are numbered one after the other.** -/
theorem consecutive_callsIn : ∀ e : Expr, Consecutive (callsIn e)
  | .boolOp _ values => consecutive_callsInAll values
  | .named _ value => consecutive_callsIn value
  | .binary left _ right => (consecutive_callsIn left).append (consecutive_callsIn right)
  | .unary _ operand => consecutive_callsIn operand
  | .lambda parameters body =>
    (consecutive_callsInParameters parameters).append (consecutive_callsIn body)
  | .choice test body orElse =>
    ((consecutive_callsIn test).append (consecutive_callsIn body)).append (consecutive_callsIn orElse)
  | .dict items => consecutive_callsInItems items
  | .set elements => consecutive_callsInAll elements
  | .listComp element clauses =>
    (consecutive_callsIn element).append (consecutive_callsInClauses clauses)
  | .setComp element clauses =>
    (consecutive_callsIn element).append (consecutive_callsInClauses clauses)
  | .dictComp key value clauses =>
    ((consecutive_callsIn key).append (consecutive_callsIn value)).append
      (consecutive_callsInClauses clauses)
  | .generator element clauses =>
    (consecutive_callsIn element).append (consecutive_callsInClauses clauses)
  | .await value => consecutive_callsIn value
  | .yield value => consecutive_callsInOption value
  | .yieldFrom value => consecutive_callsIn value
  | .compare left rest => (consecutive_callsIn left).append (consecutive_callsInComparisons rest)
  | .call callee arguments keywords =>
    (((consecutive_call (calleeOf callee)).append (consecutive_callsIn callee)).append
      (consecutive_callsInAll arguments)).append (consecutive_callsInKeywords keywords)
  | .formatted value _ spec => (consecutive_callsIn value).append (consecutive_callsInOption spec)
  | .joined values => consecutive_callsInAll values
  | .constant _ => consecutive_none
  | .member value _ => consecutive_callsIn value
  | .subscript value index => (consecutive_callsIn value).append (consecutive_callsIn index)
  | .starred value => consecutive_callsIn value
  | .name _ => consecutive_none
  | .list elements => consecutive_callsInAll elements
  | .tuple elements => consecutive_callsInAll elements
  | .slice lower upper step =>
    ((consecutive_callsInOption lower).append (consecutive_callsInOption upper)).append
      (consecutive_callsInOption step)

theorem consecutive_callsInAll : ∀ es : List Expr, Consecutive (callsInAll es)
  | [] => consecutive_none
  | e :: rest => (consecutive_callsIn e).append (consecutive_callsInAll rest)

theorem consecutive_callsInOption : ∀ e : Option Expr, Consecutive (callsInOption e)
  | none => consecutive_none
  | some e => consecutive_callsIn e

theorem consecutive_callsInItems : ∀ items : List DictItem, Consecutive (callsInItems items)
  | [] => consecutive_none
  | .pair key value :: rest =>
    ((consecutive_callsIn key).append (consecutive_callsIn value)).append (consecutive_callsInItems rest)
  | .spread value :: rest => (consecutive_callsIn value).append (consecutive_callsInItems rest)

theorem consecutive_callsInKeywords : ∀ ks : List Keyword, Consecutive (callsInKeywords ks)
  | [] => consecutive_none
  | .mk _ value :: rest => (consecutive_callsIn value).append (consecutive_callsInKeywords rest)

theorem consecutive_callsInComparisons :
    ∀ rest : List Comparison, Consecutive (callsInComparisons rest)
  | [] => consecutive_none
  | .mk _ right :: rest => (consecutive_callsIn right).append (consecutive_callsInComparisons rest)

theorem consecutive_callsInClauses :
    ∀ clauses : List Comprehension, Consecutive (callsInClauses clauses)
  | [] => consecutive_none
  | .mk _ target source tests :: rest =>
    (((consecutive_callsIn target).append (consecutive_callsIn source)).append
      (consecutive_callsInAll tests)).append (consecutive_callsInClauses rest)

theorem consecutive_callsInParameter : ∀ p : Parameter, Consecutive (callsInParameter p)
  | .mk _ annotation default =>
    (consecutive_callsInOption annotation).append (consecutive_callsInOption default)

theorem consecutive_callsInParameterList :
    ∀ ps : List Parameter, Consecutive (callsInParameterList ps)
  | [] => consecutive_none
  | p :: rest => (consecutive_callsInParameter p).append (consecutive_callsInParameterList rest)

theorem consecutive_callsInParameterOption :
    ∀ p : Option Parameter, Consecutive (callsInParameterOption p)
  | none => consecutive_none
  | some p => consecutive_callsInParameter p

theorem consecutive_callsInParameters : ∀ ps : Parameters, Consecutive (callsInParameters ps)
  | .mk positional ordinary rest named others =>
    ((((consecutive_callsInParameterList positional).append
      (consecutive_callsInParameterList ordinary)).append
      (consecutive_callsInParameterOption rest)).append
      (consecutive_callsInParameterList named)).append (consecutive_callsInParameterOption others)

end

mutual

theorem consecutive_callsInPattern : ∀ p : Pattern, Consecutive (callsInPattern p)
  | .value e => consecutive_callsIn e
  | .singleton _ => consecutive_none
  | .sequence parts => consecutive_callsInPatterns parts
  | .mapping keys parts => (consecutive_callsInAll keys).append (consecutive_callsInPatterns parts)
  | .ofClass cls parts => (consecutive_callsIn cls).append (consecutive_callsInPatterns parts)
  | .star => consecutive_none
  | .capture inner => consecutive_callsInPatternOption inner
  | .choice parts => consecutive_callsInPatterns parts

theorem consecutive_callsInPatterns : ∀ ps : List Pattern, Consecutive (callsInPatterns ps)
  | [] => consecutive_none
  | p :: rest => (consecutive_callsInPattern p).append (consecutive_callsInPatterns rest)

theorem consecutive_callsInPatternOption :
    ∀ p : Option Pattern, Consecutive (callsInPatternOption p)
  | none => consecutive_none
  | some p => consecutive_callsInPattern p

end

theorem consecutive_callsInWithItems : ∀ items : List WithItem, Consecutive (callsInWithItems items)
  | [] => consecutive_none
  | ⟨context, target⟩ :: rest =>
    ((consecutive_callsIn context).append (consecutive_callsInOption target)).append
      (consecutive_callsInWithItems rest)

/-! ## Statements -/

theorem consecutive_noOutlines : Consecutive (return [] : Numbering (List Outline)) :=
  ⟨fun _ => rfl, fun _ => rfl, rfl, fun _ => trivial⟩

theorem Consecutive.join {m k : Numbering (List Outline)} (hm : Consecutive m) (hk : Consecutive k) :
    Consecutive (do let a ← m; return a ++ (← k)) :=
  (hm.pair hk).map (fun p => p.1 ++ p.2) (fun f p => renumberOutlines_append f p.1 p.2)
    (fun p => outlinesCalls_append p.1 p.2) (fun _ h => properOutlines_append h.1 h.2)

theorem Consecutive.cons {m : Numbering Outline} {k : Numbering (List Outline)} (hm : Consecutive m)
    (hk : Consecutive k) : Consecutive (do let a ← m; return a :: (← k)) :=
  (hm.pair hk).map (fun p => p.1 :: p.2) (fun _ _ => rfl) (fun _ => rfl) (fun _ h => h)

/-- A statement that is only its calls and its inner statements. -/
theorem Consecutive.block {m : Numbering (List CallSite)} {k : Numbering (List Outline)}
    (hm : Consecutive m) (hk : Consecutive k) : Consecutive (do let a ← m; return Outline.other a (← k)) :=
  (hm.pair hk).map (fun p => Outline.other p.1 p.2) (fun _ _ => rfl) (fun _ => rfl) (fun _ h => h.2)

/-- A statement without inner statements. -/
theorem Consecutive.plain {m : Numbering (List CallSite)} (hm : Consecutive m) :
    Consecutive (do return Outline.other (← m) []) :=
  hm.block consecutive_noOutlines

theorem head?_renumber (f : Nat → Nat) (b : Bool) (calls : List CallSite) :
    (if b then calls.head? else none).map (renumberCall f)
      = if b then (calls.map (renumberCall f)).head? else none := by
  cases b with
  | true => exact List.head?_map.symm
  | false => rfl

theorem consecutive_assign (targets : List Target) (b : Bool) {m k : Numbering (List CallSite)}
    (hm : Consecutive m) (hk : Consecutive k) :
    Consecutive (do
      let t ← m
      let v ← k
      return Outline.assign targets (if b then v.head? else none) (t ++ v)) := by
  refine (hm.pair hk).map (fun p => Outline.assign targets (if b then p.2.head? else none) (p.1 ++ p.2))
    (fun f p => ?_) (fun _ => rfl) (fun p _ call hcall => ?_)
  · show Outline.assign _ _ _ = Outline.assign _ _ _
    rw [head?_renumber, List.map_append]
    rfl
  · cases b with
    | true => exact List.mem_append_right _ (List.mem_of_mem_head? hcall)
    | false => exact absurd hcall (by simp)

mutual

/-- **The calls in a statement are numbered one after the other.** -/
theorem consecutive_ofStmt : ∀ s : Stmt, Consecutive (ofStmt s)
  | .functionDef isAsync name parameters body decorators returns => by
      have h := (((consecutive_callsInParameters parameters).append
        (consecutive_callsInAll decorators)).append (consecutive_callsInOption returns)).pair
        (consecutive_ofStmtList body)
      cases isAsync with
      | true => exact h.map (fun p => Outline.other p.1 p.2) (fun _ _ => rfl) (fun _ => rfl) (fun _ h => h.2)
      | false =>
        exact h.map (fun p => Outline.function name (parameterTypes parameters) p.1 p.2) (fun _ _ => rfl)
          (fun _ => rfl) (fun _ h => h.2)
  | .classDef name bases keywords body decorators =>
    ((((consecutive_callsInAll bases).append (consecutive_callsInKeywords keywords)).append
      (consecutive_callsInAll decorators)).pair (consecutive_ofStmtList body)).map
      (fun p => Outline.classDef name (decorators.map Expr.text?) (bases.filterMap nameOf?) p.1 p.2)
      (fun _ _ => rfl) (fun _ => rfl) (fun _ h => h.2)
  | .returnValue value => (consecutive_callsInOption value).plain
  | .delete targets => (consecutive_callsInAll targets).plain
  | .assign targets value =>
    consecutive_assign (targets.map targetOf) (isCall value) (consecutive_callsInAll targets)
      (consecutive_callsIn value)
  | .augAssign target _ value => ((consecutive_callsIn target).append (consecutive_callsIn value)).plain
  | .annAssign target annotation value =>
    (((consecutive_callsIn target).append (consecutive_callsIn annotation)).append
      (consecutive_callsInOption value)).map
      (fun calls => Outline.annAssign (targetOf target) annotation.typeNames calls) (fun _ _ => rfl)
      (fun _ => rfl) (fun _ _ => trivial)
  | .forLoop _ target source body orElse =>
    ((consecutive_callsIn target).append (consecutive_callsIn source)).block
      ((consecutive_ofStmtList body).join (consecutive_ofStmtList orElse))
  | .whileLoop test body orElse =>
    (consecutive_callsIn test).block
      ((consecutive_ofStmtList body).join (consecutive_ofStmtList orElse))
  | .conditional test body orElse =>
    (consecutive_callsIn test).block
      ((consecutive_ofStmtList body).join (consecutive_ofStmtList orElse))
  | .withBlock _ items body => (consecutive_callsInWithItems items).block (consecutive_ofStmtList body)
  | .matchBlock subject cases => (consecutive_callsIn subject).block (consecutive_ofCases cases)
  | .raise error cause =>
    ((consecutive_callsInOption error).append (consecutive_callsInOption cause)).plain
  | .tryBlock _ body handlers orElse final =>
    consecutive_none.block ((((consecutive_ofStmtList body).join (consecutive_ofHandlers handlers)).join
      (consecutive_ofStmtList orElse)).join (consecutive_ofStmtList final))
  | .assert test message => ((consecutive_callsIn test).append (consecutive_callsInOption message)).plain
  | .expr value => (consecutive_callsIn value).plain
  | .importModules | .importFrom | .globalNames | .nonlocalNames | .pass | .breakLoop
  | .continueLoop => consecutive_none.plain

theorem consecutive_ofStmtList : ∀ ss : List Stmt, Consecutive (ofStmtList ss)
  | [] => consecutive_noOutlines
  | s :: rest => (consecutive_ofStmt s).cons (consecutive_ofStmtList rest)

theorem consecutive_ofCases : ∀ cs : List MatchCase, Consecutive (ofCases cs)
  | [] => consecutive_noOutlines
  | .mk pattern guard body :: rest =>
    (((consecutive_callsInPattern pattern).append (consecutive_callsInOption guard)).block
      (consecutive_ofStmtList body)).cons (consecutive_ofCases rest)

theorem consecutive_ofHandlers : ∀ hs : List Handler, Consecutive (ofHandlers hs)
  | [] => consecutive_noOutlines
  | .mk error body :: rest =>
    ((consecutive_callsInOption error).block (consecutive_ofStmtList body)).cons
      (consecutive_ofHandlers rest)

end

/-! ## Statements one after the other -/

/-- The outline of a statement by itself. -/
def outlineOf (s : Stmt) : Outline := (ofStmt s 0).1

/-- How many calls a statement has. -/
def callCount (s : Stmt) : Nat := (ofStmt s 0).2

theorem proper_outlineOf (s : Stmt) : properOutline (outlineOf s) :=
  (consecutive_ofStmt s).proper 0

theorem ids_outlineOf (s : Stmt) :
    (outlineCalls (outlineOf s)).map (·.id) = List.range (callCount s) :=
  (consecutive_ofStmt s).ids

/-- Statements with the number at which the calls of each start. -/
def numbered : Nat → List Stmt → List (Nat × Stmt)
  | _, [] => []
  | n, s :: rest => (n, s) :: numbered (n + callCount s) rest

theorem numbered_map_snd (n : Nat) (statements : List Stmt) :
    (numbered n statements).map Prod.snd = statements := by
  induction statements generalizing n with
  | nil => rfl
  | cons s rest ih => rw [numbered, List.map_cons, ih]

theorem le_of_mem_numbered {n : Nat} {statements : List Stmt} {p : Nat × Stmt}
    (h : p ∈ numbered n statements) : n ≤ p.1 := by
  induction statements generalizing n with
  | nil => exact absurd h (by simp [numbered])
  | cons s rest ih =>
    rcases List.mem_cons.mp h with rfl | h
    · exact Nat.le_refl n
    · exact Nat.le_trans (Nat.le_add_right n (callCount s)) (ih h)

/-- The numbers of a statement are used up before those of a later one. -/
theorem pairwise_numbered (n : Nat) (statements : List Stmt) :
    (numbered n statements).Pairwise fun p q => p.1 + callCount p.2 ≤ q.1 := by
  induction statements generalizing n with
  | nil => exact List.Pairwise.nil
  | cons s rest ih => exact List.Pairwise.cons (fun q hq => le_of_mem_numbered hq) (ih _)

/-- **Outlines of statements in a list are their own outlines, moved to where their numbers start.** -/
theorem ofStmts_eq_map (n : Nat) (statements : List Stmt) :
    (ofStmts n statements).1
      = (numbered n statements).map fun p => renumberOutline (p.1 + ·) (outlineOf p.2) := by
  induction statements generalizing n with
  | nil => rfl
  | cons s rest ih =>
    -- the rest starts where the calls of `s` end
    show (ofStmt s n).1 :: (ofStmts (ofStmt s n).2 rest).1 = _
    rw [(consecutive_ofStmt s).result n, (consecutive_ofStmt s).next n, ih]
    rfl

/-- Statements in two parts are outlined one part after the other. -/
theorem ofStmts_append (n : Nat) (statements more : List Stmt) :
    ofStmts n (statements ++ more)
      = ((ofStmts n statements).1 ++ (ofStmts (ofStmts n statements).2 more).1,
        (ofStmts (ofStmts n statements).2 more).2) := by
  induction statements generalizing n with
  | nil => rfl
  | cons s rest ih =>
    show ((ofStmt s n).1 :: (ofStmts (ofStmt s n).2 (rest ++ more)).1,
      (ofStmts (ofStmt s n).2 (rest ++ more)).2) = _
    rw [ih]
    rfl

end ClassAtlas.Proofs
