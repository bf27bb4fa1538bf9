import ClassAtlas.Source.StmtGrammar

/-!
# Reading source text

`parseModule` reads the statements of a module, `parseExpression` a single expression. Both tie the
rules of the grammar together level by level, as many levels as the text has characters.
-/

namespace ClassAtlas.Source

open ClassAtlas.Source.Parser

/-- The rules of one level of nesting over the levels below. -/
def Grammar.next (g : Grammar) : Grammar where
  expression := g.expressionRule
  disjunction := g.disjunctionRule
  bitOr := g.bitOrRule
  factor := g.factorRule
  primary := g.primaryRule
  pattern := g.patternRule
  block := g.blockRule

/-- The grammar with so many levels of nesting on top of another. -/
def Grammar.above (g : Grammar) : Nat → Grammar
  | 0 => g
  | n + 1 => Grammar.above g.next n

/-- The grammar for texts of a length: enough levels for anything that such a text can nest. -/
def Grammar.ofLength (n : Nat) : Grammar :=
  Grammar.empty.above (n + 4)

/-- The statements of a module; nothing if the text is no module. -/
def parseModule (text : String) : Option (List Stmt) := do
  let cs := endLastLine text.toList
  let tokens ← lex cs
  let statements ← all (many (Grammar.ofLength cs.length).statement) tokens
  return statements.flatten

/-- A single expression, or several between commas as a tuple; nothing if the text is none. -/
def parseExpression (text : String) : Option Expr := do
  let cs := unifyLineEnds text.toList
  let tokens ← lex cs
  let (items, comma) ← all (commaSeparated (Grammar.ofLength cs.length).expression) tokens
  return Grammar.tupleOf items comma

end ClassAtlas.Source
