import ClassAtlas.Source.Cursor
import ClassAtlas.Source.Lexer
import ClassAtlas.Source.Stmt

/-!
# The grammar, one level at a time

Expressions nest in expressions, blocks in blocks and patterns in patterns. A `Grammar` holds the
parsers for everything that may be nested; the rules of one level of nesting are written over the
grammar of the levels below it. Since every nesting takes at least one character, as many levels as
the text has characters are enough (`Parse`).
-/

namespace ClassAtlas.Source

/-- The parsers for what may be nested. -/
structure Grammar where
  expression : Parser Expr
  disjunction : Parser Expr
  bitOr : Parser Expr
  factor : Parser Expr
  primary : Parser Expr
  pattern : Parser Pattern
  block : Parser (List Stmt)

/-- The grammar that refuses everything. -/
def Grammar.empty : Grammar where
  expression := failure
  disjunction := failure
  bitOr := failure
  factor := failure
  primary := failure
  pattern := failure
  block := failure

/-! ## What may stand on the left -/

/-- A name, an attribute or an entry. -/
def Expr.isSingleTarget : Expr → Bool
  | .name _ | .member .. | .subscript .. => true
  | _ => false

mutual

/-- May the expression be assigned to? A sequence may if each of its elements may. -/
def Expr.isTarget : Expr → Bool
  | .name _ | .member .. | .subscript .. => true
  | .tuple elements => Expr.areElements elements
  | .list elements => Expr.areElements elements
  | _ => false

/-- May the expressions be assigned to as the elements of a sequence? An element may take the rest of
the sequence by a star. -/
def Expr.areElements : List Expr → Bool
  | [] => true
  | .starred e :: rest => e.isTarget && Expr.areElements rest
  | e :: rest => e.isTarget && Expr.areElements rest

end

/-- May the expression stand on the left of an assignment? A star may stand in front. -/
def Expr.isStarTarget : Expr → Bool
  | .starred e => e.isTarget
  | e => e.isTarget

mutual

/-- May the expression be deleted? -/
def Expr.isDeletable : Expr → Bool
  | .name _ | .member .. | .subscript .. => true
  | .tuple elements => Expr.areDeletable elements
  | .list elements => Expr.areDeletable elements
  | _ => false

/-- May all expressions be deleted? -/
def Expr.areDeletable : List Expr → Bool
  | [] => true
  | e :: rest => e.isDeletable && Expr.areDeletable rest

end

namespace Grammar

open ClassAtlas.Source.Parser

/-! ## Lists of expressions -/

/-- One expression, or a tuple if there is a comma. -/
def tupleOf (items : List Expr) (comma : Bool) : Expr :=
  match items, comma with
  | [e], false => e
  | es, _ => .tuple es

/-- `name := expression`, or an expression. -/
def namedExpression (g : Grammar) : Parser Expr := do
  if ← atNameThen ":=" then
    let target ← name
    op ":="
    return .named target (← g.expression)
  else g.expression

/-- An element of a list: a named expression, or a star and what it spreads. -/
def starNamed (g : Grammar) : Parser Expr := do
  if ← tryOp "*" then return .starred (← g.bitOr) else namedExpression g

/-- An expression that a star may precede. -/
def starExpression (g : Grammar) : Parser Expr := do
  if ← tryOp "*" then return .starred (← g.bitOr) else g.expression

/-- One expression, or several as a tuple; stars may precede them. -/
def starExpressions (g : Grammar) : Parser Expr := do
  let (items, comma) ← commaSeparated (starExpression g)
  return tupleOf items comma

/-- `yield`, `yield values`, `yield from value`. -/
def yieldExpression (g : Grammar) : Parser Expr := do
  keyword "yield"
  if ← tryKeyword "from" then return .yieldFrom (← g.expression)
  else return .yield (← perhaps (starExpressions g))

/-- What may stand on the right of an assignment. -/
def assigned (g : Grammar) : Parser Expr := do
  if ← atKeyword "yield" then yieldExpression g else starExpressions g

/-- The target of a loop. -/
def starTarget (g : Grammar) : Parser Expr := do
  let e ← if ← tryOp "*" then pure (.starred (← g.primary)) else g.primary
  ensure e.isStarTarget
  return e

/-- The targets of a loop, as one expression. -/
def starTargets (g : Grammar) : Parser Expr := do
  let (items, comma) ← commaSeparated (starTarget g)
  return tupleOf items comma

/-! ## Expressions inside of texts -/

/-- The expression that a text between braces holds; it is read as if in parentheses. -/
def embedded (g : Grammar) (text : List Char) : Option Expr := do
  let tokens ← lex ('(' :: text ++ [')', '\n'])
  all g.expression tokens

end Grammar

end ClassAtlas.Source
