import ClassAtlas.Source.FormattedText
import ClassAtlas.Source.ParameterGrammar

/-!
# The grammar of expressions

The rules of one level of nesting, from atoms up to whole expressions: an atom, what is called, entered
or looked up behind it, powers, signs, the binary operators by rank, comparisons, `not`, `and`, `or`,
and last the choice `a if b else c` and `lambda`.
-/

namespace ClassAtlas.Source.Grammar

open ClassAtlas.Source.Parser

/-! ## Comprehensions -/

/-- Does a clause of a comprehension come next? -/
def atClause : Parser Bool := do
  return (← atKeyword "for") || (← atKeyword "async")

/-- `for targets in source if test …` -/
def clause (g : Grammar) : Parser Comprehension := do
  let isAsync ← tryKeyword "async"
  keyword "for"
  let target ← starTargets g
  keyword "in"
  let source ← g.disjunction
  let tests ← many (do keyword "if"; g.disjunction)
  return .mk isAsync target source tests

/-- The clauses of a comprehension. -/
def clauses (g : Grammar) : Parser (List Comprehension) :=
  many1 (clause g)

/-! ## Arguments -/

/-- An argument of a call. -/
inductive Argument where
  | positional (e : Expr)
  | spread (e : Expr)
  | named (k : Keyword)
  | spreadNamed (k : Keyword)

/-- One argument. -/
def argument (g : Grammar) : Parser Argument := do
  if ← tryOp "**" then return .spreadNamed (.mk none (← g.expression))
  else if ← tryOp "*" then return .spread (.starred (← g.expression))
  else if ← atNameThen "=" then
    let id ← name
    op "="
    return .named (.mk (some id) (← g.expression))
  else return .positional (← namedExpression g)

/-- May the arguments stand in this order? Behind a named one stands no positional one, and behind a
spread dictionary no spread sequence either. -/
def ordered (sawName sawSpread : Bool) : List Argument → Bool
  | [] => true
  | .positional _ :: rest => !sawName && ordered sawName sawSpread rest
  | .spread _ :: rest => !sawSpread && ordered sawName sawSpread rest
  | .named _ :: rest => ordered true sawSpread rest
  | .spreadNamed _ :: rest => ordered true true rest

/-- The arguments that have no name, in order. -/
def positionals (items : List Argument) : List Expr :=
  items.filterMap fun
    | .positional e => some e
    | .spread e => some e
    | _ => none

/-- The arguments that have a name, or spread a dictionary, in order. -/
def keywordsOf (items : List Argument) : List Keyword :=
  items.filterMap fun
    | .named k => some k
    | .spreadNamed k => some k
    | _ => none

/-- The arguments behind an opening parenthesis, up to and with the closing one. -/
def arguments (g : Grammar) : Parser (List Expr × List Keyword) := do
  if ← tryOp ")" then return ([], [])
  else
    let (items, _) ← commaSeparated (argument g)
    op ")"
    ensure (ordered false false items)
    return (positionals items, keywordsOf items)

/-- As `arguments`; a lone generator needs no parentheses of its own. -/
def callArguments (g : Grammar) : Parser (List Expr × List Keyword) := do
  if ← tryOp ")" then return ([], [])
  else
    let first ← argument g
    match first, ← atClause with
    | .positional element, true =>
      let cs ← clauses g
      op ")"
      return ([.generator element cs], [])
    | _, _ =>
      let rest ← many (do op ","; argument g)
      let _ ← tryOp ","
      op ")"
      let items := first :: rest
      ensure (ordered false false items)
      return (positionals items, keywordsOf items)

/-! ## Entries -/

/-- The bound of a slice, if there is one. -/
def bound (g : Grammar) : Parser (Option Expr) := do
  if (← atOp ":") || (← atOp "]") || (← atOp ",") then return none
  else return some (← g.expression)

/-- The rest of a slice behind its lower bound. -/
def sliceFrom (g : Grammar) (lower : Option Expr) : Parser Expr := do
  op ":"
  let upper ← bound g
  if ← tryOp ":" then return .slice lower upper (← bound g)
  else return .slice lower upper none

/-- An index: an expression, a slice, or a star and what it spreads. -/
def indexItem (g : Grammar) : Parser Expr := do
  if ← tryOp "*" then return .starred (← g.expression)
  else if ← atOp ":" then sliceFrom g none
  else if ← atNameThen ":=" then namedExpression g
  else
    let e ← g.expression
    if ← atOp ":" then sliceFrom g (some e) else return e

/-- The indices up to and with the closing bracket; more than one, or a starred one, make a tuple. -/
def indices (g : Grammar) : Parser Expr := do
  let (items, comma) ← commaSeparated (indexItem g)
  op "]"
  match items, comma with
  | [.starred e], _ => return .tuple [.starred e]
  | items, comma => return tupleOf items comma

/-! ## Atoms -/

/-- Is the expression starred? -/
def isStarred : Expr → Bool
  | .starred _ => true
  | _ => false

/-- A group, a tuple or a generator, behind the opening parenthesis. -/
def afterParenthesis (g : Grammar) : Parser Expr := do
  if ← tryOp ")" then return .tuple []
  else if ← atKeyword "yield" then
    let e ← yieldExpression g
    op ")"
    return e
  else
    let first ← starNamed g
    if ← tryOp "," then
      if ← tryOp ")" then return .tuple [first]
      else
        let (rest, _) ← commaSeparated (starNamed g)
        op ")"
        return .tuple (first :: rest)
    else
      ensure (!isStarred first)
      if ← atClause then
        let cs ← clauses g
        op ")"
        return .generator first cs
      else
        op ")"
        return first

/-- A list or a list comprehension, behind the opening bracket. -/
def afterBracket (g : Grammar) : Parser Expr := do
  if ← tryOp "]" then return .list []
  else
    let first ← starNamed g
    if ← atClause then
      ensure (!isStarred first)
      let cs ← clauses g
      op "]"
      return .listComp first cs
    else
      let rest ← many (do op ","; starNamed g)
      let _ ← tryOp ","
      op "]"
      return .list (first :: rest)

/-- An entry of a dictionary. -/
def dictItem (g : Grammar) : Parser DictItem := do
  if ← tryOp "**" then return .spread (← g.bitOr)
  else
    let key ← g.expression
    op ":"
    return .pair key (← g.expression)

/-- The entries of a dictionary behind the first, up to and with the closing brace. -/
def dictRest (g : Grammar) (first : DictItem) : Parser Expr := do
  let rest ← many (do op ","; dictItem g)
  let _ ← tryOp ","
  op "\x7d"
  return .dict (first :: rest)

/-- A dictionary, a set or a comprehension of either, behind the opening brace. -/
def afterBrace (g : Grammar) : Parser Expr := do
  if ← tryOp "\x7d" then return .dict []
  else if ← tryOp "**" then dictRest g (.spread (← g.bitOr))
  else
    let isNamed ← atNameThen ":="
    let first ← starNamed g
    if !isNamed && !isStarred first && (← tryOp ":") then
      let value ← g.expression
      if ← atClause then
        let cs ← clauses g
        op "\x7d"
        return .dictComp first value cs
      else dictRest g (.pair first value)
    else if ← atClause then
      ensure (!isStarred first)
      let cs ← clauses g
      op "\x7d"
      return .setComp first cs
    else
      let rest ← many (do op ","; starNamed g)
      let _ ← tryOp ","
      op "\x7d"
      return .set (first :: rest)

/-- A string literal. -/
def stringLiteral : Parser StringToken := do
  match ← token with
  | .string s => return s
  | _ => failure

/-- Neighbouring string literals. -/
def strings (g : Grammar) : Parser Expr := do
  match FormattedText.concat g (← many1 stringLiteral) with
  | some e => return e
  | none => failure

/-- An atom. -/
def atom (g : Grammar) : Parser Expr := do
  match ← peek with
  | some (.string _) => strings g
  | _ =>
    match ← token with
    | .name id => return .name id
    | .number n => return .constant (.number n)
    | .keyword "True" => return .constant (.bool true)
    | .keyword "False" => return .constant (.bool false)
    | .keyword "None" => return .constant .none
    | .op "..." => return .constant .ellipsis
    | .op "(" => afterParenthesis g
    | .op "[" => afterBracket g
    | .op "\x7b" => afterBrace g
    | _ => failure

/-! ## What follows an atom -/

/-- An attribute, an entry or a call, as what it makes of the expression in front. -/
def trailer (g : Grammar) : Parser (Expr → Expr) := do
  match ← token with
  | .op "." =>
    let id ← name
    return fun e => .member e id
  | .op "[" =>
    let index ← indices g
    return fun e => .subscript e index
  | .op "(" =>
    let (args, keywords) ← callArguments g
    return fun e => .call e args keywords
  | _ => failure

/-- An atom and all that is called, entered or looked up behind it. -/
def primaryRule (g : Grammar) : Parser Expr := do
  let first ← atom g
  return (← many (trailer g)).foldl (fun e apply => apply e) first

/-- A primary, perhaps awaited, perhaps raised to a power. -/
def power (g : Grammar) : Parser Expr := do
  let base ← if ← tryKeyword "await" then pure (.await (← primaryRule g)) else primaryRule g
  if ← tryOp "**" then return .binary base .pow (← g.factor) else return base

/-- A sign. -/
def sign : Parser UnaryOp := do
  match ← token with
  | .op "+" => return .plus
  | .op "-" => return .minus
  | .op "~" => return .invert
  | _ => failure

/-- Signs and a power. -/
def factorRule (g : Grammar) : Parser Expr := do
  let signs ← many sign
  return signs.foldr Expr.unary (← power g)

/-! ## Binary operators -/

/-- One of the operators listed. -/
def operatorIn (table : List (String × BinaryOp)) : Parser BinaryOp := do
  match ← token with
  | .op s =>
    match table.lookup s with
    | some o => return o
    | none => failure
  | _ => failure

/-- Operands between operators of one rank; the first two belong together first. -/
def leftAssoc (table : List (String × BinaryOp)) (operand : Parser Expr) : Parser Expr := do
  let first ← operand
  let rest ← many (do
    let o ← operatorIn table
    return (o, ← operand))
  return rest.foldl (fun left (o, right) => .binary left o right) first

/-- Products. -/
def term (g : Grammar) : Parser Expr :=
  leftAssoc [("*", .mul), ("/", .div), ("//", .floorDiv), ("%", .mod), ("@", .matMul)] (factorRule g)

/-- Sums. -/
def sum (g : Grammar) : Parser Expr :=
  leftAssoc [("+", .add), ("-", .sub)] (term g)

/-- Shifts. -/
def shift (g : Grammar) : Parser Expr :=
  leftAssoc [("<<", .shiftLeft), (">>", .shiftRight)] (sum g)

/-- Bitwise `&`. -/
def bitAnd (g : Grammar) : Parser Expr :=
  leftAssoc [("&", .bitAnd)] (shift g)

/-- Bitwise `^`. -/
def bitXor (g : Grammar) : Parser Expr :=
  leftAssoc [("^", .bitXor)] (bitAnd g)

/-- Bitwise `|`. -/
def bitOrRule (g : Grammar) : Parser Expr :=
  leftAssoc [("|", .bitOr)] (bitXor g)

/-! ## Comparisons and logic -/

/-- The sign of a comparison. -/
def compareOp : Parser CompareOp := do
  match ← token with
  | .op "==" => return .eq
  | .op "!=" => return .notEq
  | .op "<" => return .lt
  | .op "<=" => return .le
  | .op ">" => return .gt
  | .op ">=" => return .ge
  | .keyword "in" => return .in
  | .keyword "not" =>
    keyword "in"
    return .notIn
  | .keyword "is" => if ← tryKeyword "not" then return .isNot else return .is
  | _ => failure

/-- A chain of comparisons. -/
def comparison (g : Grammar) : Parser Expr := do
  let left ← bitOrRule g
  let rest ← many (do
    let o ← compareOp
    return Comparison.mk o (← bitOrRule g))
  if rest.isEmpty then return left else return .compare left rest

/-- `not`, as often as it stands, and a comparison. -/
def inversion (g : Grammar) : Parser Expr := do
  let nots ← many (keyword "not")
  return nots.foldr (fun _ e => .unary .not e) (← comparison g)

/-- Operands between `and` or between `or`, as one expression. -/
def logical (o : BoolOp) (word : String) (operand : Parser Expr) : Parser Expr := do
  let first ← operand
  let rest ← many (do keyword word; operand)
  if rest.isEmpty then return first else return .boolOp o (first :: rest)

/-- Operands between `or`. -/
def disjunctionRule (g : Grammar) : Parser Expr :=
  logical .or "or" (logical .and "and" (inversion g))

/-- `lambda parameters: body` -/
def lambdaRule (g : Grammar) : Parser Expr := do
  keyword "lambda"
  let ps ← g.parameters false ":"
  op ":"
  return .lambda ps (← g.expression)

/-- An expression. -/
def expressionRule (g : Grammar) : Parser Expr := do
  if ← atKeyword "lambda" then lambdaRule g
  else
    let body ← disjunctionRule g
    if ← tryKeyword "if" then
      let test ← disjunctionRule g
      keyword "else"
      return .choice test body (← g.expression)
    else return body

end ClassAtlas.Source.Grammar
