import ClassAtlas.Source.Printer
import ClassAtlas.Source.Stmt
import ClassAtlas.Source.TypeNames

/-!
# Outlines

What class analysis needs of a statement: class definitions, functions, assignments and annotated
assignments, the calls in them, and nothing else. All other statements are reduced to the calls of
their own expressions and to the statements that they hold.

Every call has an identity of its own, a number that counts the calls in the order in which they are
met. `Outline.ofStmts` numbers from a given start and tells where it ended, so that modules read one
after the other share no identity.
-/

namespace ClassAtlas

open ClassAtlas.Source

/-- What is called. -/
inductive Callee where
  /-- A plain name. -/
  | name (id : String)
  /-- The attribute of something. -/
  | member (name : String)
  | other
deriving DecidableEq

/-- A call, with its identity. -/
structure CallSite where
  id : Nat
  callee : Callee
deriving DecidableEq

/-- What an assignment assigns to. -/
inductive Target where
  /-- A plain name. -/
  | name (id : String)
  /-- `self.name` -/
  | selfAttribute (name : String)
  | other
deriving DecidableEq

/-- The outline of a statement. -/
inductive Outline where
  /-- A class: the texts of its decorators (nothing for one that cannot be printed), those of its
  bases that are plain names, the calls in front of its body, and the body. -/
  | classDef (name : String) (decorators : List (Option String)) (bases : List String)
      (calls : List CallSite) (body : List Outline)
  /-- A function: the annotations of its ordinary parameters that are plain names, the calls in front
  of its body, and the body. -/
  | function (name : String) (parameterTypes : List String) (calls : List CallSite)
      (body : List Outline)
  /-- An assignment: its targets, its value if that is a call, and all its calls. -/
  | assign (targets : List Target) (value : Option CallSite) (calls : List CallSite)
  /-- An annotated assignment: its target, the names that its annotation mentions, and its calls. -/
  | annAssign (target : Target) (types : List String) (calls : List CallSite)
  /-- Any other statement: the calls of its own expressions and the statements inside of it. -/
  | other (calls : List CallSite) (body : List Outline)

namespace Outline

/-! ## Calls -/

/-- A computation that numbers calls. -/
abbrev Numbering := StateM Nat

/-- The next number. -/
def fresh : Numbering Nat := fun n => (n, n + 1)

/-- What an expression is when it is called. -/
def calleeOf : Expr → Callee
  | .name id => .name id
  | .member _ name => .member name
  | _ => .other

mutual

/-- The calls in an expression. A call comes before the calls inside of it. -/
def callsIn : Expr → Numbering (List CallSite)
  | .boolOp _ values => callsInAll values
  | .named _ value => callsIn value
  | .binary left _ right => do
    let l ← callsIn left
    return l ++ (← callsIn right)
  | .unary _ operand => callsIn operand
  | .lambda parameters body => do
    let p ← callsInParameters parameters
    return p ++ (← callsIn body)
  | .choice test body orElse => do
    let t ← callsIn test
    let b ← callsIn body
    return t ++ b ++ (← callsIn orElse)
  | .dict items => callsInItems items
  | .set elements => callsInAll elements
  | .listComp element clauses => do
    let e ← callsIn element
    return e ++ (← callsInClauses clauses)
  | .setComp element clauses => do
    let e ← callsIn element
    return e ++ (← callsInClauses clauses)
  | .dictComp key value clauses => do
    let k ← callsIn key
    let v ← callsIn value
    return k ++ v ++ (← callsInClauses clauses)
  | .generator element clauses => do
    let e ← callsIn element
    return e ++ (← callsInClauses clauses)
  | .await value => callsIn value
  | .yield value => callsInOption value
  | .yieldFrom value => callsIn value
  | .compare left rest => do
    let l ← callsIn left
    return l ++ (← callsInComparisons rest)
  | .call callee arguments keywords => do
    let id ← fresh
    let c ← callsIn callee
    let a ← callsInAll arguments
    let k ← callsInKeywords keywords
    return ⟨id, calleeOf callee⟩ :: c ++ a ++ k
  | .formatted value _ spec => do
    let v ← callsIn value
    return v ++ (← callsInOption spec)
  | .joined values => callsInAll values
  | .constant _ => return []
  | .member value _ => callsIn value
  | .subscript value index => do
    let v ← callsIn value
    return v ++ (← callsIn index)
  | .starred value => callsIn value
  | .name _ => return []
  | .list elements => callsInAll elements
  | .tuple elements => callsInAll elements
  | .slice lower upper step => do
    let l ← callsInOption lower
    let u ← callsInOption upper
    return l ++ u ++ (← callsInOption step)

/-- The calls in several expressions. -/
def callsInAll : List Expr → Numbering (List CallSite)
  | [] => return []
  | e :: rest => do
    let s ← callsIn e
    return s ++ (← callsInAll rest)

/-- The calls in an expression that may be missing. -/
def callsInOption : Option Expr → Numbering (List CallSite)
  | none => return []
  | some e => callsIn e

/-- The calls in the entries of a dictionary. -/
def callsInItems : List DictItem → Numbering (List CallSite)
  | [] => return []
  | .pair key value :: rest => do
    let k ← callsIn key
    let v ← callsIn value
    return k ++ v ++ (← callsInItems rest)
  | .spread value :: rest => do
    let v ← callsIn value
    return v ++ (← callsInItems rest)

/-- The calls in named arguments. -/
def callsInKeywords : List Keyword → Numbering (List CallSite)
  | [] => return []
  | .mk _ value :: rest => do
    let v ← callsIn value
    return v ++ (← callsInKeywords rest)

/-- The calls to the right of comparisons. -/
def callsInComparisons : List Comparison → Numbering (List CallSite)
  | [] => return []
  | .mk _ right :: rest => do
    let r ← callsIn right
    return r ++ (← callsInComparisons rest)

/-- The calls in the clauses of a comprehension. -/
def callsInClauses : List Comprehension → Numbering (List CallSite)
  | [] => return []
  | .mk _ target source tests :: rest => do
    let t ← callsIn target
    let s ← callsIn source
    let c ← callsInAll tests
    return t ++ s ++ c ++ (← callsInClauses rest)

/-- The calls in the annotation and the default of a parameter. -/
def callsInParameter : Parameter → Numbering (List CallSite)
  | .mk _ annotation default => do
    let a ← callsInOption annotation
    return a ++ (← callsInOption default)

/-- The calls in several parameters. -/
def callsInParameterList : List Parameter → Numbering (List CallSite)
  | [] => return []
  | p :: rest => do
    let s ← callsInParameter p
    return s ++ (← callsInParameterList rest)

/-- The calls in a parameter that may be missing. -/
def callsInParameterOption : Option Parameter → Numbering (List CallSite)
  | none => return []
  | some p => callsInParameter p

/-- The calls in the parameters of a function. -/
def callsInParameters : Parameters → Numbering (List CallSite)
  | .mk positional ordinary rest named others => do
    let p ← callsInParameterList positional
    let o ← callsInParameterList ordinary
    let r ← callsInParameterOption rest
    let n ← callsInParameterList named
    return p ++ o ++ r ++ n ++ (← callsInParameterOption others)

end

mutual

/-- The calls in a pattern. -/
def callsInPattern : Pattern → Numbering (List CallSite)
  | .value e => callsIn e
  | .singleton _ => return []
  | .sequence parts => callsInPatterns parts
  | .mapping keys parts => do
    let k ← callsInAll keys
    return k ++ (← callsInPatterns parts)
  | .ofClass cls parts => do
    let c ← callsIn cls
    return c ++ (← callsInPatterns parts)
  | .star => return []
  | .capture inner => callsInPatternOption inner
  | .choice parts => callsInPatterns parts

/-- The calls in several patterns. -/
def callsInPatterns : List Pattern → Numbering (List CallSite)
  | [] => return []
  | p :: rest => do
    let s ← callsInPattern p
    return s ++ (← callsInPatterns rest)

/-- The calls in a pattern that may be missing. -/
def callsInPatternOption : Option Pattern → Numbering (List CallSite)
  | none => return []
  | some p => callsInPattern p

end

/-- The calls in the items of a `with` statement. -/
def callsInWithItems : List WithItem → Numbering (List CallSite)
  | [] => return []
  | ⟨context, target⟩ :: rest => do
    let c ← callsIn context
    let t ← callsInOption target
    return c ++ t ++ (← callsInWithItems rest)

/-! ## Statements -/

/-- The target that an expression stands for. -/
def targetOf : Expr → Target
  | .name id => .name id
  | .member (.name "self") name => .selfAttribute name
  | _ => .other

/-- Is the expression a call? -/
def isCall : Expr → Bool
  | .call .. => true
  | _ => false

/-- The name that an expression is, if it is one. -/
def nameOf? : Expr → Option String
  | .name id => some id
  | _ => none

/-- The annotations of ordinary parameters that are plain names, in order. -/
def parameterTypes : Parameters → List String
  | .mk _ ordinary _ _ _ => ordinary.filterMap fun
    | .mk _ annotation _ => annotation.bind nameOf?

mutual

/-- The outline of a statement. -/
def ofStmt : Stmt → Numbering Outline
  | .functionDef isAsync name parameters body decorators returns => do
    let p ← callsInParameters parameters
    let d ← callsInAll decorators
    let r ← callsInOption returns
    let b ← ofStmtList body
    if isAsync then return .other (p ++ d ++ r) b
    else return .function name (parameterTypes parameters) (p ++ d ++ r) b
  | .classDef name bases keywords body decorators => do
    let s ← callsInAll bases
    let k ← callsInKeywords keywords
    let d ← callsInAll decorators
    let b ← ofStmtList body
    return .classDef name (decorators.map Expr.text?) (bases.filterMap nameOf?) (s ++ k ++ d) b
  | .returnValue value => return .other (← callsInOption value) []
  | .delete targets => return .other (← callsInAll targets) []
  | .assign targets value => do
    let t ← callsInAll targets
    let v ← callsIn value
    return .assign (targets.map targetOf) (if isCall value then v.head? else none) (t ++ v)
  | .augAssign target _ value => do
    let t ← callsIn target
    return .other (t ++ (← callsIn value)) []
  | .annAssign target annotation value => do
    let t ← callsIn target
    let a ← callsIn annotation
    let v ← callsInOption value
    return .annAssign (targetOf target) annotation.typeNames (t ++ a ++ v)
  | .forLoop _ target source body orElse => do
    let t ← callsIn target
    let s ← callsIn source
    let b ← ofStmtList body
    return .other (t ++ s) (b ++ (← ofStmtList orElse))
  | .whileLoop test body orElse => do
    let t ← callsIn test
    let b ← ofStmtList body
    return .other t (b ++ (← ofStmtList orElse))
  | .conditional test body orElse => do
    let t ← callsIn test
    let b ← ofStmtList body
    return .other t (b ++ (← ofStmtList orElse))
  | .withBlock _ items body => do
    let i ← callsInWithItems items
    return .other i (← ofStmtList body)
  | .matchBlock subject cases => do
    let s ← callsIn subject
    return .other s (← ofCases cases)
  | .raise error cause => do
    let e ← callsInOption error
    return .other (e ++ (← callsInOption cause)) []
  | .tryBlock _ body handlers orElse final => do
    let b ← ofStmtList body
    let h ← ofHandlers handlers
    let o ← ofStmtList orElse
    return .other [] (b ++ h ++ o ++ (← ofStmtList final))
  | .assert test message => do
    let t ← callsIn test
    return .other (t ++ (← callsInOption message)) []
  | .expr value => return .other (← callsIn value) []
  | .importModules | .importFrom | .globalNames | .nonlocalNames | .pass | .breakLoop
  | .continueLoop => return .other [] []

/-- The outlines of statements. -/
def ofStmtList : List Stmt → Numbering (List Outline)
  | [] => return []
  | s :: rest => do
    let o ← ofStmt s
    return o :: (← ofStmtList rest)

/-- The outlines of the cases of a `match` statement. -/
def ofCases : List MatchCase → Numbering (List Outline)
  | [] => return []
  | .mk pattern guard body :: rest => do
    let p ← callsInPattern pattern
    let g ← callsInOption guard
    let b ← ofStmtList body
    return .other (p ++ g) b :: (← ofCases rest)

/-- The outlines of the handlers of a `try` statement. -/
def ofHandlers : List Handler → Numbering (List Outline)
  | [] => return []
  | .mk error body :: rest => do
    let e ← callsInOption error
    let b ← ofStmtList body
    return .other e b :: (← ofHandlers rest)

end

/-- The outlines of statements whose calls are numbered from `start`, and the next number. -/
def ofStmts (start : Nat) (statements : List Stmt) : List Outline × Nat :=
  (ofStmtList statements).run start

end Outline

end ClassAtlas
