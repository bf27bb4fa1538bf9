import ClassAtlas.Source.Numeral

/-!
# Expressions

The tree of an expression. Parentheses leave no trace but the shape of the tree; a tuple, a group and
a generator are told apart while reading.
-/

namespace ClassAtlas.Source

/-- The value of a literal. -/
inductive Constant where
  | none
  | bool (b : Bool)
  | ellipsis
  | number (n : Numeral)
  /-- A text; `marked` by a `u` in front. -/
  | text (value : String) (marked : Bool)
  | bytes (value : List Nat)

/-- `and`, `or`. -/
inductive BoolOp where
  | and
  | or
deriving DecidableEq

/-- The operators with one operand. -/
inductive UnaryOp where
  | invert
  | not
  | plus
  | minus
deriving DecidableEq

/-- The operators with two operands. -/
inductive BinaryOp where
  | add
  | sub
  | mul
  | matMul
  | div
  | mod
  | pow
  | shiftLeft
  | shiftRight
  | bitOr
  | bitXor
  | bitAnd
  | floorDiv
deriving DecidableEq

/-- The signs of comparisons. -/
inductive CompareOp where
  | eq
  | notEq
  | lt
  | le
  | gt
  | ge
  | is
  | isNot
  | in
  | notIn
deriving DecidableEq

mutual

/-- An expression. -/
inductive Expr where
  | boolOp (op : BoolOp) (values : List Expr)
  /-- `target := value` -/
  | named (target : String) (value : Expr)
  | binary (left : Expr) (op : BinaryOp) (right : Expr)
  | unary (op : UnaryOp) (operand : Expr)
  | lambda (parameters : Parameters) (body : Expr)
  /-- `body if test else orElse` -/
  | choice (test body orElse : Expr)
  | dict (items : List DictItem)
  | set (elements : List Expr)
  | listComp (element : Expr) (clauses : List Comprehension)
  | setComp (element : Expr) (clauses : List Comprehension)
  | dictComp (key value : Expr) (clauses : List Comprehension)
  | generator (element : Expr) (clauses : List Comprehension)
  | await (value : Expr)
  | yield (value : Option Expr)
  | yieldFrom (value : Expr)
  | compare (left : Expr) (rest : List Comparison)
  | call (callee : Expr) (arguments : List Expr) (keywords : List Keyword)
  /-- An expression in the braces of a formatted text. -/
  | formatted (value : Expr) (conversion : Option Char) (spec : Option Expr)
  /-- A formatted text: constants and formatted values in turn. -/
  | joined (values : List Expr)
  | constant (value : Constant)
  | member (value : Expr) (name : String)
  | subscript (value index : Expr)
  | starred (value : Expr)
  | name (id : String)
  | list (elements : List Expr)
  | tuple (elements : List Expr)
  | slice (lower upper step : Option Expr)

/-- One operator of a chain of comparisons and what stands to its right. -/
inductive Comparison where
  | mk (op : CompareOp) (right : Expr)

/-- An entry of a dictionary. -/
inductive DictItem where
  | pair (key value : Expr)
  /-- `**value` -/
  | spread (value : Expr)

/-- A named argument, or (without a name) `**value`. -/
inductive Keyword where
  | mk (name : Option String) (value : Expr)

/-- `for target in source if test …` -/
inductive Comprehension where
  | mk (isAsync : Bool) (target source : Expr) (tests : List Expr)

/-- A parameter. -/
inductive Parameter where
  | mk (name : String) (hint default : Option Expr)

/-- The parameters of a function: those that are given by position only, the ordinary ones, the one
that takes all further positions, those given by name only, and the one that takes all further
names. -/
inductive Parameters where
  | mk (positional ordinary : List Parameter) (rest : Option Parameter) (named : List Parameter)
      (others : Option Parameter)

end

end ClassAtlas.Source
