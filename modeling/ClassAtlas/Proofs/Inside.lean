import ClassAtlas.Proofs.Numbering
import Mathlib.Data.List.Basic

/-!
# What stands inside of expressions and statements

The direct parts of an expression, the expressions and the statements that a statement is made of, and
what can be reached from there in several steps. `Expr.Calls` says of an expression that a call of a plain
name stands somewhere inside of it, and `finds_callsIn` that outlining finds exactly these calls.
-/

namespace ClassAtlas.Source

/-! ## Expressions -/

/-- What stands to the right of a comparison. -/
def Comparison.right : Comparison → Expr
  | .mk _ right => right

/-- The expressions of an entry of a dictionary. -/
def DictItem.parts : DictItem → List Expr
  | .pair key value => [key, value]
  | .spread value => [value]

/-- The value of a named argument. -/
def Keyword.value : Keyword → Expr
  | .mk _ value => value

/-- The expressions of a clause of a comprehension. -/
def Comprehension.parts : Comprehension → List Expr
  | .mk _ target source tests => target :: source :: tests

/-- The annotation of a parameter. -/
def Parameter.hint : Parameter → Option Expr
  | .mk _ hint _ => hint

/-- The annotation and the default of a parameter. -/
def Parameter.parts : Parameter → List Expr
  | .mk _ hint default => hint.toList ++ default.toList

/-- The ordinary parameters. -/
def Parameters.ordinary : Parameters → List Parameter
  | .mk _ ordinary _ _ _ => ordinary

/-- The annotations and the defaults of all parameters. -/
def Parameters.parts : Parameters → List Expr
  | .mk positional ordinary rest named others =>
    positional.flatMap Parameter.parts ++ ordinary.flatMap Parameter.parts
      ++ rest.toList.flatMap Parameter.parts ++ named.flatMap Parameter.parts
      ++ others.toList.flatMap Parameter.parts

/-- The expressions that an expression is made of. -/
def Expr.parts : Expr → List Expr
  | .boolOp _ values => values
  | .named _ value => [value]
  | .binary left _ right => [left, right]
  | .unary _ operand => [operand]
  | .lambda parameters body => parameters.parts ++ [body]
  | .choice test body orElse => [test, body, orElse]
  | .dict items => items.flatMap DictItem.parts
  | .set elements => elements
  | .listComp element clauses => element :: clauses.flatMap Comprehension.parts
  | .setComp element clauses => element :: clauses.flatMap Comprehension.parts
  | .dictComp key value clauses => key :: value :: clauses.flatMap Comprehension.parts
  | .generator element clauses => element :: clauses.flatMap Comprehension.parts
  | .await value => [value]
  | .yield value => value.toList
  | .yieldFrom value => [value]
  | .compare left rest => left :: rest.map Comparison.right
  | .call callee arguments keywords => callee :: arguments ++ keywords.map Keyword.value
  | .formatted value _ spec => value :: spec.toList
  | .joined values => values
  | .constant _ => []
  | .member value _ => [value]
  | .subscript value index => [value, index]
  | .starred value => [value]
  | .name _ => []
  | .list elements => elements
  | .tuple elements => elements
  | .slice lower upper step => lower.toList ++ upper.toList ++ step.toList

/-- `e.Contains inner`: `inner` is `e` itself or stands inside of it, at any depth. -/
inductive Expr.Contains : Expr → Expr → Prop
  | self (e : Expr) : e.Contains e
  | inside {e part inner : Expr} : part ∈ e.parts → part.Contains inner → e.Contains inner

/-- A call of the plain name stands somewhere in the expression. -/
def Expr.Calls (e : Expr) (name : String) : Prop :=
  ∃ arguments keywords, e.Contains (.call (.name name) arguments keywords)

theorem Expr.calls_iff (e : Expr) (name : String) :
    e.Calls name ↔ (∃ arguments keywords, e = .call (.name name) arguments keywords)
      ∨ ∃ part ∈ e.parts, part.Calls name := by
  constructor
  · rintro ⟨arguments, keywords, h⟩
    cases h with
    | self => exact Or.inl ⟨arguments, keywords, rfl⟩
    | inside hpart h => exact Or.inr ⟨_, hpart, arguments, keywords, h⟩
  · rintro (⟨arguments, keywords, rfl⟩ | ⟨part, hpart, arguments, keywords, h⟩)
    · exact ⟨arguments, keywords, .self _⟩
    · exact ⟨arguments, keywords, .inside hpart h⟩

/-! ## Statements -/

mutual

/-- The expressions in a pattern. -/
def Pattern.expressions : Pattern → List Expr
  | .value e => [e]
  | .singleton _ => []
  | .sequence parts => Pattern.expressionsOfAll parts
  | .mapping keys parts => keys ++ Pattern.expressionsOfAll parts
  | .ofClass cls parts => cls :: Pattern.expressionsOfAll parts
  | .star => []
  | .capture inner => Pattern.expressionsOfOption inner
  | .choice parts => Pattern.expressionsOfAll parts

/-- The expressions in several patterns. -/
def Pattern.expressionsOfAll : List Pattern → List Expr
  | [] => []
  | p :: rest => p.expressions ++ Pattern.expressionsOfAll rest

/-- The expressions in a pattern that may be missing. -/
def Pattern.expressionsOfOption : Option Pattern → List Expr
  | none => []
  | some p => p.expressions

end

/-- The expressions of an item of a `with` statement. -/
def WithItem.expressions (item : WithItem) : List Expr :=
  item.context :: item.target.toList

/-- The expressions in front of the body of a case. -/
def MatchCase.expressions : MatchCase → List Expr
  | .mk pattern guard _ => pattern.expressions ++ guard.toList

/-- The body of a case. -/
def MatchCase.body : MatchCase → List Stmt
  | .mk _ _ body => body

/-- The expression in front of the body of a handler. -/
def Handler.expressions : Handler → List Expr
  | .mk error _ => error.toList

/-- The body of a handler. -/
def Handler.body : Handler → List Stmt
  | .mk _ body => body

/-- The expressions of a statement that stand in no statement inside of it. -/
def Stmt.expressions : Stmt → List Expr
  | .functionDef _ _ parameters _ decorators returns => parameters.parts ++ decorators ++ returns.toList
  | .classDef _ bases keywords _ decorators => bases ++ keywords.map Keyword.value ++ decorators
  | .returnValue value => value.toList
  | .delete targets => targets
  | .assign targets value => targets ++ [value]
  | .augAssign target _ value => [target, value]
  | .annAssign target annotation value => [target, annotation] ++ value.toList
  | .forLoop _ target source _ _ => [target, source]
  | .whileLoop test _ _ => [test]
  | .conditional test _ _ => [test]
  | .withBlock _ items _ => items.flatMap WithItem.expressions
  | .matchBlock subject cases => subject :: cases.flatMap MatchCase.expressions
  | .raise error cause => error.toList ++ cause.toList
  | .tryBlock _ _ handlers _ _ => handlers.flatMap Handler.expressions
  | .assert test message => test :: message.toList
  | .expr value => [value]
  | .importModules | .importFrom | .globalNames | .nonlocalNames | .pass | .breakLoop
  | .continueLoop => []

/-- The statements that stand directly inside of a statement. -/
def Stmt.inner : Stmt → List Stmt
  | .functionDef _ _ _ body _ _ => body
  | .classDef _ _ _ body _ => body
  | .forLoop _ _ _ body orElse => body ++ orElse
  | .whileLoop _ body orElse => body ++ orElse
  | .conditional _ body orElse => body ++ orElse
  | .withBlock _ _ body => body
  | .matchBlock _ cases => cases.flatMap MatchCase.body
  | .tryBlock _ body handlers orElse final => body ++ handlers.flatMap Handler.body ++ orElse ++ final
  | _ => []

/-- `Within through s t`: the statement `t` is `s`, or stands inside of it behind statements all of which
`through` lets pass. -/
inductive Stmt.Within (through : Stmt → Prop) : Stmt → Stmt → Prop
  | self (s : Stmt) : Within through s s
  | inside {s t u : Stmt} : through s → t ∈ s.inner → Within through t u → Within through s u

theorem Stmt.within_iff {through : Stmt → Prop} {s t : Stmt} :
    Stmt.Within through s t ↔ t = s ∨ through s ∧ ∃ u ∈ s.inner, Stmt.Within through u t := by
  constructor
  · intro h
    cases h with
    | self => exact Or.inl rfl
    | inside hthrough hinner h => exact Or.inr ⟨hthrough, _, hinner, h⟩
  · rintro (rfl | ⟨hthrough, u, hinner, h⟩)
    · exact .self t
    · exact .inside hthrough hinner h

end ClassAtlas.Source

namespace ClassAtlas.Proofs

open ClassAtlas Outline Source

/-! ## Calls that outlining finds -/

/-- The computation finds a call of the name iff one stands in the expressions, from whatever number it
starts. -/
def Finds (name : String) (m : Numbering (List CallSite)) (es : List Expr) : Prop :=
  ∀ n, (∃ call ∈ (m n).1, call.callee = .name name) ↔ ∃ e ∈ es, e.Calls name

section

variable {name : String}

theorem finds_none : Finds name (return [] : Numbering (List CallSite)) [] := by
  intro n
  exact iff_of_false (fun ⟨_, hcall, _⟩ => List.not_mem_nil hcall) (fun ⟨_, he, _⟩ => List.not_mem_nil he)

theorem Finds.append {m k : Numbering (List CallSite)} {es ds : List Expr} (hm : Finds name m es)
    (hk : Finds name k ds) : Finds name (do let a ← m; return a ++ (← k)) (es ++ ds) := by
  intro n
  show (∃ call ∈ (m n).1 ++ (k (m n).2).1, call.callee = .name name) ↔ _
  have hfirst := hm n
  have hsecond := hk (m n).2
  simp only [List.mem_append, or_and_right, exists_or, hfirst, hsecond]

/-- An expression that is no call of the name is searched by searching its parts. -/
theorem Finds.expr {m : Numbering (List CallSite)} {e : Expr} (h : Finds name m e.parts)
    (hcall : ∀ arguments keywords, e ≠ .call (.name name) arguments keywords) : Finds name m [e] := by
  intro n
  rw [h n]
  constructor
  · intro hparts
    exact ⟨e, List.mem_singleton_self e, (e.calls_iff name).mpr (Or.inr hparts)⟩
  · rintro ⟨e', he', hcalls⟩
    rw [List.mem_singleton.mp he'] at hcalls
    rcases (e.calls_iff name).mp hcalls with ⟨arguments, keywords, he⟩ | hparts
    · exact absurd he (hcall arguments keywords)
    · exact hparts

theorem calleeOf_eq_name_iff {e : Expr} : calleeOf e = .name name ↔ e = .name name := by
  constructor
  · intro h
    cases e with
    | name id =>
      injection h with h
      rw [h]
    | _ => exact absurd h (by simp [calleeOf])
  · rintro rfl
    rfl

/-- A call counts itself and what stands in its parts. -/
theorem finds_call {callee : Expr} {arguments : List Expr} {keywords : List Keyword}
    (hcallee : Finds name (callsIn callee) [callee])
    (harguments : Finds name (callsInAll arguments) arguments)
    (hkeywords : Finds name (callsInKeywords keywords) (keywords.map Keyword.value)) :
    Finds name (callsIn (.call callee arguments keywords)) [.call callee arguments keywords] := by
  intro n
  have hinside := ((hcallee.append harguments).append hkeywords) (n + 1)
  have hself : (∃ args kws, Expr.call callee arguments keywords = .call (.name name) args kws)
      ↔ calleeOf callee = .name name := by
    rw [calleeOf_eq_name_iff]
    constructor
    · rintro ⟨_, _, he⟩
      injection he
    · rintro rfl
      exact ⟨arguments, keywords, rfl⟩
  simp only [List.mem_singleton, exists_eq_left]
  rw [Expr.calls_iff, hself]
  exact (List.exists_mem_cons_iff _ _ _).trans (or_congr_right hinside)

end

mutual

/-- **Outlining finds the calls that stand in an expression, and no others.** -/
theorem finds_callsIn (name : String) : ∀ e : Expr, Finds name (callsIn e) [e]
  | .boolOp _ values => (finds_callsInAll name values).expr nofun
  | .named _ value => (finds_callsIn name value).expr nofun
  | .binary left _ right => ((finds_callsIn name left).append (finds_callsIn name right)).expr nofun
  | .unary _ operand => (finds_callsIn name operand).expr nofun
  | .lambda parameters body =>
    ((finds_callsInParameters name parameters).append (finds_callsIn name body)).expr nofun
  | .choice test body orElse =>
    (((finds_callsIn name test).append (finds_callsIn name body)).append
      (finds_callsIn name orElse)).expr nofun
  | .dict items => (finds_callsInItems name items).expr nofun
  | .set elements => (finds_callsInAll name elements).expr nofun
  | .listComp element clauses =>
    ((finds_callsIn name element).append (finds_callsInClauses name clauses)).expr nofun
  | .setComp element clauses =>
    ((finds_callsIn name element).append (finds_callsInClauses name clauses)).expr nofun
  | .dictComp key value clauses =>
    (((finds_callsIn name key).append (finds_callsIn name value)).append
      (finds_callsInClauses name clauses)).expr nofun
  | .generator element clauses =>
    ((finds_callsIn name element).append (finds_callsInClauses name clauses)).expr nofun
  | .await value => (finds_callsIn name value).expr nofun
  | .yield value => (finds_callsInOption name value).expr nofun
  | .yieldFrom value => (finds_callsIn name value).expr nofun
  | .compare left rest =>
    ((finds_callsIn name left).append (finds_callsInComparisons name rest)).expr nofun
  | .call callee arguments keywords =>
    finds_call (finds_callsIn name callee) (finds_callsInAll name arguments)
      (finds_callsInKeywords name keywords)
  | .formatted value _ spec =>
    ((finds_callsIn name value).append (finds_callsInOption name spec)).expr nofun
  | .joined values => (finds_callsInAll name values).expr nofun
  | .constant _ => finds_none.expr nofun
  | .member value _ => (finds_callsIn name value).expr nofun
  | .subscript value index =>
    ((finds_callsIn name value).append (finds_callsIn name index)).expr nofun
  | .starred value => (finds_callsIn name value).expr nofun
  | .name _ => finds_none.expr nofun
  | .list elements => (finds_callsInAll name elements).expr nofun
  | .tuple elements => (finds_callsInAll name elements).expr nofun
  | .slice lower upper step =>
    (((finds_callsInOption name lower).append (finds_callsInOption name upper)).append
      (finds_callsInOption name step)).expr nofun

theorem finds_callsInAll (name : String) : ∀ es : List Expr, Finds name (callsInAll es) es
  | [] => finds_none
  | e :: rest => (finds_callsIn name e).append (finds_callsInAll name rest)

theorem finds_callsInOption (name : String) : ∀ e : Option Expr, Finds name (callsInOption e) e.toList
  | none => finds_none
  | some e => finds_callsIn name e

theorem finds_callsInItems (name : String) : ∀ items : List DictItem,
    Finds name (callsInItems items) (items.flatMap DictItem.parts)
  | [] => finds_none
  | .pair key value :: rest =>
    ((finds_callsIn name key).append (finds_callsIn name value)).append (finds_callsInItems name rest)
  | .spread value :: rest => (finds_callsIn name value).append (finds_callsInItems name rest)

theorem finds_callsInKeywords (name : String) : ∀ ks : List Keyword,
    Finds name (callsInKeywords ks) (ks.map Keyword.value)
  | [] => finds_none
  | .mk _ value :: rest => (finds_callsIn name value).append (finds_callsInKeywords name rest)

theorem finds_callsInComparisons (name : String) : ∀ rest : List Comparison,
    Finds name (callsInComparisons rest) (rest.map Comparison.right)
  | [] => finds_none
  | .mk _ right :: rest => (finds_callsIn name right).append (finds_callsInComparisons name rest)

theorem finds_callsInClauses (name : String) : ∀ clauses : List Comprehension,
    Finds name (callsInClauses clauses) (clauses.flatMap Comprehension.parts)
  | [] => finds_none
  | .mk _ target source tests :: rest =>
    (((finds_callsIn name target).append (finds_callsIn name source)).append
      (finds_callsInAll name tests)).append (finds_callsInClauses name rest)

theorem finds_callsInParameter (name : String) : ∀ p : Parameter,
    Finds name (callsInParameter p) p.parts
  | .mk _ annotation default =>
    (finds_callsInOption name annotation).append (finds_callsInOption name default)

theorem finds_callsInParameterList (name : String) : ∀ ps : List Parameter,
    Finds name (callsInParameterList ps) (ps.flatMap Parameter.parts)
  | [] => finds_none
  | p :: rest => (finds_callsInParameter name p).append (finds_callsInParameterList name rest)

theorem finds_callsInParameterOption (name : String) : ∀ p : Option Parameter,
    Finds name (callsInParameterOption p) (p.toList.flatMap Parameter.parts)
  | none => finds_none
  | some p => by
      show Finds name (callsInParameter p) ([p].flatMap Parameter.parts)
      rw [List.flatMap_singleton]
      exact finds_callsInParameter name p

theorem finds_callsInParameters (name : String) : ∀ ps : Parameters,
    Finds name (callsInParameters ps) ps.parts
  | .mk positional ordinary rest named others =>
    ((((finds_callsInParameterList name positional).append
      (finds_callsInParameterList name ordinary)).append
      (finds_callsInParameterOption name rest)).append
      (finds_callsInParameterList name named)).append (finds_callsInParameterOption name others)

end

mutual

theorem finds_callsInPattern (name : String) : ∀ p : Pattern,
    Finds name (callsInPattern p) p.expressions
  | .value e => finds_callsIn name e
  | .singleton _ => finds_none
  | .sequence parts => finds_callsInPatterns name parts
  | .mapping keys parts => (finds_callsInAll name keys).append (finds_callsInPatterns name parts)
  | .ofClass cls parts => (finds_callsIn name cls).append (finds_callsInPatterns name parts)
  | .star => finds_none
  | .capture inner => finds_callsInPatternOption name inner
  | .choice parts => finds_callsInPatterns name parts

theorem finds_callsInPatterns (name : String) : ∀ ps : List Pattern,
    Finds name (callsInPatterns ps) (Pattern.expressionsOfAll ps)
  | [] => finds_none
  | p :: rest => (finds_callsInPattern name p).append (finds_callsInPatterns name rest)

theorem finds_callsInPatternOption (name : String) : ∀ p : Option Pattern,
    Finds name (callsInPatternOption p) (Pattern.expressionsOfOption p)
  | none => finds_none
  | some p => finds_callsInPattern name p

end

theorem finds_callsInWithItems (name : String) : ∀ items : List WithItem,
    Finds name (callsInWithItems items) (items.flatMap WithItem.expressions)
  | [] => finds_none
  | ⟨context, target⟩ :: rest =>
    ((finds_callsIn name context).append (finds_callsInOption name target)).append
      (finds_callsInWithItems name rest)

end ClassAtlas.Proofs
