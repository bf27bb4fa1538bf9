import ClassAtlas.Source.Expr

/-!
# Statements

The tree of a statement, and the patterns of a `match` statement. `Stmt.kind` is the name of a
statement's kind in the language's own grammar.
-/

namespace ClassAtlas.Source

/-- A pattern. -/
inductive Pattern where
  | value (e : Expr)
  | singleton (c : Constant)
  | sequence (parts : List Pattern)
  | mapping (keys : List Expr) (parts : List Pattern)
  | ofClass (cls : Expr) (parts : List Pattern)
  /-- `*name` -/
  | star
  /-- A name, or nothing, that takes the whole; perhaps behind a pattern. -/
  | capture (inner : Option Pattern)
  | choice (parts : List Pattern)

/-- `context as target` -/
structure WithItem where
  context : Expr
  target : Option Expr

mutual

/-- A statement. -/
inductive Stmt where
  | functionDef (isAsync : Bool) (name : String) (parameters : Parameters) (body : List Stmt)
      (decorators : List Expr) (returns : Option Expr)
  | classDef (name : String) (bases : List Expr) (keywords : List Keyword) (body : List Stmt)
      (decorators : List Expr)
  | returnValue (value : Option Expr)
  | delete (targets : List Expr)
  | assign (targets : List Expr) (value : Expr)
  | augAssign (target : Expr) (op : BinaryOp) (value : Expr)
  | annAssign (target annotation : Expr) (value : Option Expr)
  | forLoop (isAsync : Bool) (target source : Expr) (body orElse : List Stmt)
  | whileLoop (test : Expr) (body orElse : List Stmt)
  | conditional (test : Expr) (body orElse : List Stmt)
  | withBlock (isAsync : Bool) (items : List WithItem) (body : List Stmt)
  | matchBlock (subject : Expr) (cases : List MatchCase)
  | raise (error cause : Option Expr)
  | tryBlock (isStar : Bool) (body : List Stmt) (handlers : List Handler) (orElse final : List Stmt)
  | assert (test : Expr) (message : Option Expr)
  | importModules
  | importFrom
  | globalNames
  | nonlocalNames
  | expr (value : Expr)
  | pass
  | breakLoop
  | continueLoop

/-- `case pattern if guard: body` -/
inductive MatchCase where
  | mk (pattern : Pattern) (guard : Option Expr) (body : List Stmt)

/-- `except error as name: body` -/
inductive Handler where
  | mk (error : Option Expr) (body : List Stmt)

end

/-- The kind of a statement. -/
def Stmt.kind : Stmt → String
  | .functionDef isAsync .. => if isAsync then "AsyncFunctionDef" else "FunctionDef"
  | .classDef .. => "ClassDef"
  | .returnValue .. => "Return"
  | .delete .. => "Delete"
  | .assign .. => "Assign"
  | .augAssign .. => "AugAssign"
  | .annAssign .. => "AnnAssign"
  | .forLoop isAsync .. => if isAsync then "AsyncFor" else "For"
  | .whileLoop .. => "While"
  | .conditional .. => "If"
  | .withBlock isAsync .. => if isAsync then "AsyncWith" else "With"
  | .matchBlock .. => "Match"
  | .raise .. => "Raise"
  | .tryBlock isStar .. => if isStar then "TryStar" else "Try"
  | .assert .. => "Assert"
  | .importModules => "Import"
  | .importFrom => "ImportFrom"
  | .globalNames => "Global"
  | .nonlocalNames => "Nonlocal"
  | .expr .. => "Expr"
  | .pass => "Pass"
  | .breakLoop => "Break"
  | .continueLoop => "Continue"

end ClassAtlas.Source
