import ClassAtlas.Source.ExprGrammar

/-!
# The grammar of patterns

Patterns stand behind `case`: literals, names that take a value, dotted names that are compared with
it, sequences, mappings, classes with the patterns of their parts, and alternatives of these.
-/

namespace ClassAtlas.Source.Grammar

open ClassAtlas.Source.Parser

/-! ## Literals -/

/-- A number in a pattern. -/
def patternNumber : Parser Numeral := do
  match ← token with
  | .number n => return n
  | _ => failure

/-- Is the number imaginary? -/
def isImaginary : Numeral → Bool
  | .imaginary _ => true
  | _ => false

/-- A number with a sign, perhaps plus or minus an imaginary one. -/
def signedNumber : Parser Expr := do
  let isNegative ← tryOp "-"
  let n ← patternNumber
  let constant := Expr.constant (.number n)
  let first := if isNegative then .unary .minus constant else constant
  let isSum ← tryOp "+"
  let isDifference ← if isSum then pure false else tryOp "-"
  if isSum || isDifference then
    let second ← patternNumber
    ensure (!isImaginary n && isImaginary second)
    return .binary first (if isSum then .add else .sub) (.constant (.number second))
  else return first

/-- A literal in a pattern, if one comes next. -/
def literal? (g : Grammar) : Parser (Option Pattern) := do
  match ← peek with
  | some (.number _) | some (.op "-") => return some (.value (← signedNumber))
  | some (.string _) => return some (.value (← strings g))
  | some (.keyword "None") =>
    let _ ← token
    return some (.singleton .none)
  | some (.keyword "True") =>
    let _ ← token
    return some (.singleton (.bool true))
  | some (.keyword "False") =>
    let _ ← token
    return some (.singleton (.bool false))
  | _ => return none

/-! ## Names -/

/-- A name that takes a value. -/
def captureTarget : Parser Unit := do
  let id ← name
  ensure (id != "_")
  ensure (!((← atOp ".") || (← atOp "(") || (← atOp "=")))

/-- The names behind the first of a dotted name. -/
def dots (first : Expr) : Parser Expr := do
  let rest ← many (do op "."; name)
  return rest.foldl Expr.member first

/-! ## Sequences, mappings, classes -/

/-- An element of a sequence: a pattern, or a star and a name. -/
def sequenceItem (g : Grammar) : Parser Pattern := do
  if ← tryOp "*" then
    match ← peek with
    | some (.name "_") =>
      let _ ← token
      return .star
    | _ =>
      captureTarget
      return .star
  else g.pattern

/-- Is the pattern a star and a name? -/
def isStarPattern : Pattern → Bool
  | .star => true
  | _ => false

/-- A sequence without brackets if there is a comma, else the pattern itself. -/
def openSequence (g : Grammar) : Parser Pattern := do
  let (parts, comma) ← commaSeparated (sequenceItem g)
  match parts, comma with
  | [p], false =>
    ensure (!isStarPattern p)
    return p
  | ps, _ => return .sequence ps

/-- A key of a mapping: a literal or a dotted name. -/
def mappingKey (g : Grammar) : Parser Expr := do
  match ← literal? g with
  | some (.value e) => return e
  | some (.singleton c) => return .constant c
  | some _ => failure
  | none =>
    let id ← name
    ensure (← atOp ".")
    dots (.name id)

/-- An item of a mapping; nothing for `**name`. -/
def mappingItem (g : Grammar) : Parser (Option (Expr × Pattern)) := do
  if ← tryOp "**" then
    captureTarget
    return none
  else
    let key ← mappingKey g
    op ":"
    return some (key, ← g.pattern)

/-- A mapping behind the opening brace. -/
def mappingRest (g : Grammar) : Parser Pattern := do
  if ← tryOp "\x7d" then return .mapping [] []
  else
    let (items, _) ← commaSeparated (mappingItem g)
    op "\x7d"
    ensure (items.dropLast.all Option.isSome)
    let pairs := items.filterMap id
    return .mapping (pairs.map Prod.fst) (pairs.map Prod.snd)

/-- An argument of a class pattern, and whether it has a name. -/
def classItem (g : Grammar) : Parser (Bool × Pattern) := do
  if ← atNameThen "=" then
    let _ ← name
    op "="
    return (true, ← g.pattern)
  else return (false, ← g.pattern)

/-- A class pattern behind the opening parenthesis. -/
def classRest (g : Grammar) (cls : Expr) : Parser Pattern := do
  if ← tryOp ")" then return .ofClass cls []
  else
    let (items, _) ← commaSeparated (classItem g)
    op ")"
    ensure ((items.dropWhile (!·.1)).all Prod.fst)
    return .ofClass cls (items.map Prod.snd)

/-- A pattern that starts with a name: a wildcard, a class, a dotted name, or a name that takes the
value. -/
def namePattern (g : Grammar) : Parser Pattern := do
  let id ← name
  if id == "_" then return .capture none
  else
    let isDotted ← atOp "."
    let e ← dots (.name id)
    if ← tryOp "(" then classRest g e
    else
      ensure (!(← atOp "="))
      return if isDotted then .value e else .capture none

/-- A pattern that needs no brackets around it. -/
def closedPattern (g : Grammar) : Parser Pattern := do
  match ← literal? g with
  | some p => return p
  | none =>
    match ← peek with
    | some (.name _) => namePattern g
    | _ =>
      if ← tryOp "(" then
        if ← tryOp ")" then return .sequence []
        else
          let p ← openSequence g
          op ")"
          return p
      else if ← tryOp "[" then
        if ← tryOp "]" then return .sequence []
        else
          let (parts, _) ← commaSeparated (sequenceItem g)
          op "]"
          return .sequence parts
      else
        op "\x7b"
        mappingRest g

/-- A pattern: alternatives, perhaps with a name for what they match. -/
def patternRule (g : Grammar) : Parser Pattern := do
  let first ← closedPattern g
  let rest ← many (do op "|"; closedPattern g)
  let p := if rest.isEmpty then first else .choice (first :: rest)
  if ← tryKeyword "as" then
    captureTarget
    return .capture (some p)
  else return p

end ClassAtlas.Source.Grammar
