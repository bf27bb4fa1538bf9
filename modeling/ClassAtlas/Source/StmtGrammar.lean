import ClassAtlas.Source.PatternGrammar

/-!
# The grammar of statements

Simple statements stand on one line, between semicolons. A compound statement has blocks: indented
lines, or simple statements on the same line.
-/

namespace ClassAtlas.Source.Grammar

open ClassAtlas.Source.Parser

/-! ## Simple statements -/

/-- The operators that assign the result. -/
def augmentedOps : List (String × BinaryOp) :=
  [("+=", .add), ("-=", .sub), ("*=", .mul), ("@=", .matMul), ("/=", .div), ("%=", .mod),
   ("&=", .bitAnd), ("|=", .bitOr), ("^=", .bitXor), ("<<=", .shiftLeft), (">>=", .shiftRight),
   ("**=", .pow), ("//=", .floorDiv)]

/-- An assignment of any kind, or an expression by itself. -/
def expressionStatement (g : Grammar) : Parser Stmt := do
  if ← atKeyword "yield" then return .expr (← yieldExpression g)
  else
    let e ← starExpressions g
    if ← tryOp ":" then
      ensure e.isSingleTarget
      let annotation ← g.expression
      if ← tryOp "=" then return .annAssign e annotation (some (← assigned g))
      else return .annAssign e annotation none
    else if ← atOp "=" then
      let values ← many1 (do op "="; assigned g)
      let targets := e :: values.dropLast
      ensure (targets.all Expr.isStarTarget)
      match values.getLast? with
      | some value => return .assign targets value
      | none => failure
    else
      match ← perhaps (operatorIn augmentedOps) with
      | some o =>
        ensure e.isSingleTarget
        return .augAssign e o (← assigned g)
      | none => return .expr e

/-- A name with dots, as in the name of a module. -/
def dottedName : Parser Unit := do
  let _ ← name
  let _ ← many (do op "."; name)

/-- `as name`, if it comes next. -/
def perhapsAs : Parser Unit := do
  if ← tryKeyword "as" then
    let _ ← name

/-- `import a.b as c, d` -/
def importStatement : Parser Stmt := do
  let one := do
    dottedName
    perhapsAs
  one
  let _ ← many (do op ","; one)
  return .importModules

/-- The dots in front of the name of a module. -/
def leadingDot : Parser Unit := do
  match ← token with
  | .op "." | .op "..." => return ()
  | _ => failure

/-- `from a.b import c as d, e` -/
def importFromStatement : Parser Stmt := do
  let dots ← many leadingDot
  let isBare := !dots.isEmpty && (← atKeyword "import")
  if !isBare then dottedName
  keyword "import"
  let one := do
    let _ ← name
    perhapsAs
  if ← tryOp "*" then return .importFrom
  else if ← tryOp "(" then
    let _ ← commaSeparated one
    op ")"
    return .importFrom
  else
    one
    let _ ← many (do op ","; one)
    return .importFrom

/-- Names between commas. -/
def nameList : Parser Unit := do
  let _ ← name
  let _ ← many (do op ","; name)

/-- Does a statement end here? -/
def atStatementEnd : Parser Bool := do
  match ← peek with
  | some .newline => return true
  | some (.op ";") => return true
  | _ => return false

/-- A simple statement behind its keyword; nothing if it is not that of one. -/
def keywordStatement? (g : Grammar) (word : String) : Option (Parser Stmt) :=
  match word with
  | "return" => some do return .returnValue (← perhaps (starExpressions g))
  | "import" => some importStatement
  | "from" => some importFromStatement
  | "raise" => some do
    if ← atStatementEnd then return .raise none none
    else
      let error ← g.expression
      if ← tryKeyword "from" then return .raise (some error) (some (← g.expression))
      else return .raise (some error) none
  | "pass" => some (return .pass)
  | "del" => some do
    let (targets, _) ← commaSeparated g.primary
    ensure (Expr.areDeletable targets)
    return .delete targets
  | "assert" => some do
    let test ← g.expression
    if ← tryOp "," then return .assert test (some (← g.expression)) else return .assert test none
  | "break" => some (return .breakLoop)
  | "continue" => some (return .continueLoop)
  | "global" => some do
    nameList
    return .globalNames
  | "nonlocal" => some do
    nameList
    return .nonlocalNames
  | _ => none

/-- A simple statement. -/
def simpleStatement (g : Grammar) : Parser Stmt := do
  match ← peek with
  | some (.keyword word) =>
    match keywordStatement? g word with
    | some rest =>
      let _ ← token
      rest
    | none => expressionStatement g
  | _ => expressionStatement g

/-- Simple statements up to the end of the line. -/
def simpleStatements (g : Grammar) : Parser (List Stmt) := do
  let first ← simpleStatement g
  let rest ← many (do op ";"; simpleStatement g)
  let _ ← tryOp ";"
  newline
  return first :: rest

/-! ## Compound statements -/

/-- A colon and a block. -/
def colonBlock (g : Grammar) : Parser (List Stmt) := do
  op ":"
  g.block

/-- `else:` and a block, if it comes next. -/
def elseBlock (g : Grammar) : Parser (List Stmt) := do
  if ← tryKeyword "else" then colonBlock g else return []

/-- `if`, behind the keyword; each `elif` nests in what comes before it. -/
def ifStatement (g : Grammar) : Parser Stmt := do
  let test ← namedExpression g
  let body ← colonBlock g
  let more ← many (do
    keyword "elif"
    let test ← namedExpression g
    return (test, ← colonBlock g))
  let last ← elseBlock g
  return .conditional test body
    (more.foldr (fun (test, body) orElse => [.conditional test body orElse]) last)

/-- `while`, behind the keyword. -/
def whileStatement (g : Grammar) : Parser Stmt := do
  let test ← namedExpression g
  let body ← colonBlock g
  return .whileLoop test body (← elseBlock g)

/-- `for`, behind the keyword. -/
def forStatement (g : Grammar) (isAsync : Bool) : Parser Stmt := do
  let target ← starTargets g
  keyword "in"
  let source ← starExpressions g
  let body ← colonBlock g
  return .forLoop isAsync target source body (← elseBlock g)

/-- `context as target` -/
def withItem (g : Grammar) : Parser WithItem := do
  let context ← g.expression
  if ← tryKeyword "as" then return ⟨context, some (← starTarget g)⟩
  else return ⟨context, none⟩

/-- The items of a `with` statement in parentheses, if a colon follows those. -/
def parenthesizedItems (g : Grammar) : Parser (List WithItem) := do
  op "("
  let (items, _) ← commaSeparated (withItem g)
  op ")"
  ensure (← atOp ":")
  return items

/-- The items of a `with` statement. -/
def withItems (g : Grammar) : Parser (List WithItem) := do
  match ← perhaps (parenthesizedItems g) with
  | some items => return items
  | none =>
    let first ← withItem g
    return first :: (← many (do op ","; withItem g))

/-- `with`, behind the keyword. -/
def withStatement (g : Grammar) (isAsync : Bool) : Parser Stmt := do
  let items ← withItems g
  return .withBlock isAsync items (← colonBlock g)

/-- `except error as name:` and a block. -/
def handler (g : Grammar) (isStar : Bool) : Parser Handler := do
  keyword "except"
  let hasStar ← tryOp "*"
  ensure (hasStar == isStar)
  if !isStar && (← atOp ":") then return .mk none (← colonBlock g)
  else
    let error ← g.expression
    perhapsAs
    return .mk (some error) (← colonBlock g)

/-- `finally:` and a block, if it comes next. -/
def finallyBlock (g : Grammar) : Parser (List Stmt) := do
  if ← tryKeyword "finally" then colonBlock g else return []

/-- Does a handler with a star come next? -/
def atStarHandler : Parser Bool := do
  match ← peek, ← peekSecond with
  | some (.keyword "except"), some (.op s) => return s == "*"
  | _, _ => return false

/-- `try`, behind the keyword. There is a handler or a `finally`; `else` needs a handler, and all
handlers have a star or none has. -/
def tryStatement (g : Grammar) : Parser Stmt := do
  let body ← colonBlock g
  let isStar ← atStarHandler
  let handlers ← many (handler g isStar)
  if handlers.isEmpty then
    keyword "finally"
    return .tryBlock false body [] [] (← colonBlock g)
  else
    let orElse ← elseBlock g
    return .tryBlock isStar body handlers orElse (← finallyBlock g)

/-- `def`, behind the keyword. -/
def functionDefinition (g : Grammar) (isAsync : Bool) (decorators : List Expr) : Parser Stmt := do
  let id ← name
  op "("
  let ps ← g.parameters true ")"
  op ")"
  let returns ← if ← tryOp "->" then pure (some (← g.expression)) else pure none
  return .functionDef isAsync id ps (← colonBlock g) decorators returns

/-- `class`, behind the keyword. -/
def classDefinition (g : Grammar) (decorators : List Expr) : Parser Stmt := do
  let id ← name
  let (bases, keywords) ← if ← tryOp "(" then arguments g else pure ([], [])
  return .classDef id bases keywords (← colonBlock g) decorators

/-- `@decorator` and the end of the line. -/
def decorator (g : Grammar) : Parser Expr := do
  op "@"
  let e ← namedExpression g
  newline
  return e

/-- Decorators and the definition behind them. -/
def decorated (g : Grammar) : Parser Stmt := do
  let decorators ← many1 (decorator g)
  if ← tryKeyword "class" then classDefinition g decorators
  else
    let isAsync ← tryKeyword "async"
    keyword "def"
    functionDefinition g isAsync decorators

/-- `async`, behind the keyword. -/
def asyncStatement (g : Grammar) : Parser Stmt := do
  if ← tryKeyword "def" then functionDefinition g true []
  else if ← tryKeyword "with" then withStatement g true
  else
    keyword "for"
    forStatement g true

/-- `case pattern if guard:` and a block. -/
def matchCase (g : Grammar) : Parser MatchCase := do
  softKeyword "case"
  let p ← openSequence g
  let guard ← if ← tryKeyword "if" then pure (some (← namedExpression g)) else pure none
  return .mk p guard (← colonBlock g)

/-- A `match` statement. -/
def matchStatement (g : Grammar) : Parser Stmt := do
  softKeyword "match"
  let (items, comma) ← commaSeparated (starNamed g)
  ensure (comma || items.length != 1 || !items.any isStarred)
  op ":"
  newline
  match ← token with
  | .indent =>
    let cases ← many1 (matchCase g)
    match ← token with
    | .dedent => return .matchBlock (tupleOf items comma) cases
    | _ => failure
  | _ => failure

/-- A compound statement behind its keyword; nothing if it is not that of one. -/
def compoundStatement? (g : Grammar) (word : String) : Option (Parser Stmt) :=
  match word with
  | "if" => some (ifStatement g)
  | "while" => some (whileStatement g)
  | "for" => some (forStatement g false)
  | "with" => some (withStatement g false)
  | "try" => some (tryStatement g)
  | "def" => some (functionDefinition g false [])
  | "class" => some (classDefinition g [])
  | "async" => some (asyncStatement g)
  | _ => none

/-- One compound statement, or the simple statements of one line. -/
def statement (g : Grammar) : Parser (List Stmt) := do
  match ← peek with
  | some (.op "@") => return [← decorated g]
  | some (.keyword word) =>
    match compoundStatement? g word with
    | some rest =>
      let _ ← token
      return [← rest]
    | none => simpleStatements g
  | some (.name "match") =>
    match ← perhaps (matchStatement g) with
    | some s => return [s]
    | none => simpleStatements g
  | _ => simpleStatements g

/-- A block: indented statements, or simple statements on the same line. -/
def blockRule (g : Grammar) : Parser (List Stmt) := do
  match ← peek with
  | some .newline =>
    newline
    match ← token with
    | .indent =>
      let body ← many1 (statement g)
      match ← token with
      | .dedent => return body.flatten
      | _ => failure
    | _ => failure
  | _ => simpleStatements g

end ClassAtlas.Source.Grammar
