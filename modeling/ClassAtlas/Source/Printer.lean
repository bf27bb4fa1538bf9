import ClassAtlas.Source.Literal

/-!
# The text of expressions

`Expr.print` writes an expression in one fixed way: single blanks around operators, parentheses only
where the ranks of the operators ask for them, texts in single quotes where that is possible. An
expression in the braces of a formatted text may hold no backslash; if one cannot be avoided, nothing
is printed.
-/

namespace ClassAtlas.Source

/-! ## Ranks

A larger rank binds closer. An expression stands in parentheses where its surroundings ask for a
larger rank than its own. -/

namespace Rank

/-- `a := b` -/
def named : Nat := 1
/-- `a, b` -/
def tuple : Nat := 2
/-- `yield` -/
def yield : Nat := 3
/-- `a if b else c`, `lambda`, and wherever no rank is asked for. -/
def test : Nat := 4
/-- `or` -/
def or : Nat := 5
/-- `and` -/
def and : Nat := 6
/-- `not` -/
def not : Nat := 7
/-- Comparisons. -/
def compare : Nat := 8
/-- `|`, and what a star spreads. -/
def bitOr : Nat := 9
/-- `^` -/
def bitXor : Nat := 10
/-- `&` -/
def bitAnd : Nat := 11
/-- Shifts. -/
def shift : Nat := 12
/-- Sums. -/
def sum : Nat := 13
/-- Products. -/
def term : Nat := 14
/-- Signs. -/
def sign : Nat := 15
/-- Powers. -/
def power : Nat := 16
/-- `await` -/
def await : Nat := 17
/-- Atoms. -/
def atom : Nat := 18

end Rank

/-- The rank of a binary operator. -/
def BinaryOp.rank : BinaryOp → Nat
  | .add | .sub => Rank.sum
  | .mul | .matMul | .div | .mod | .floorDiv => Rank.term
  | .shiftLeft | .shiftRight => Rank.shift
  | .bitOr => Rank.bitOr
  | .bitXor => Rank.bitXor
  | .bitAnd => Rank.bitAnd
  | .pow => Rank.power

/-- The sign of a binary operator. -/
def BinaryOp.text : BinaryOp → String
  | .add => "+"
  | .sub => "-"
  | .mul => "*"
  | .matMul => "@"
  | .div => "/"
  | .mod => "%"
  | .shiftLeft => "<<"
  | .shiftRight => ">>"
  | .bitOr => "|"
  | .bitXor => "^"
  | .bitAnd => "&"
  | .floorDiv => "//"
  | .pow => "**"

/-- The sign of a comparison. -/
def CompareOp.text : CompareOp → String
  | .eq => "=="
  | .notEq => "!="
  | .lt => "<"
  | .le => "<="
  | .gt => ">"
  | .ge => ">="
  | .is => "is"
  | .isNot => "is not"
  | .in => "in"
  | .notIn => "not in"

/-! ## Small pieces -/

/-- Parentheses around a text where the condition holds. -/
def parenthesizeIf (condition : Bool) (s : String) : String :=
  if condition then "(" ++ s ++ ")" else s

/-- Texts with commas between them. -/
def commas (parts : List String) : String :=
  String.intercalate ", " parts

/-- Texts with commas between them; a lone one has a comma behind it. -/
def tupleItems (parts : List String) : String :=
  match parts with
  | [s] => s ++ ","
  | parts => commas parts

/-- Doubles the braces of a text. -/
def doubleBraces (s : String) : String :=
  String.ofList (s.toList.flatMap fun c => if c == '\x7b' || c == '\x7d' then [c, c] else [c])

/-- Is the constant a whole number or a truth value? A point behind it needs a blank in between. -/
def Constant.isWhole : Constant → Bool
  | .number (.whole _) => true
  | .bool _ => true
  | _ => false

/-- Does an attribute of the expression need a blank in front of its point? -/
def Expr.needsBlank : Expr → Bool
  | .constant c => c.isWhole
  | _ => false

/-- The rank that brackets ask of an index: a tuple needs no parentheses there. -/
def Expr.indexRank : Expr → Nat
  | .tuple _ => Rank.tuple
  | _ => Rank.test

/-- The braces around a printed value of a formatted text. -/
def bracedValue (value : String) (conversion : Option Char) (spec : String) : Option String :=
  if value.contains '\\' then none
  else
    let blank := if value.startsWith "\x7b" then " " else ""
    let mark := match conversion with
      | some c => String.ofList ['!', c]
      | none => ""
    some ("\x7b" ++ blank ++ value ++ mark ++ spec ++ "\x7d")

/-- Puts printed parameters in order: a slash behind those given by position only, a star in front of
those given by name only. -/
def parameterList (positional ordinary : List String) (rest : Option String) (named : List String)
    (others : Option String) : String :=
  let slash := if positional.isEmpty then [] else ["/"]
  let star := match rest with
    | some r => ["*" ++ r]
    | none => if named.isEmpty then [] else ["*"]
  let last := match others with
    | some o => ["**" ++ o]
    | none => []
  commas (positional ++ slash ++ ordinary ++ star ++ named ++ last)

/-! ## Expressions -/

mutual

/-- The text of an expression. `avoid` asks for few backslashes, `rank` is the rank that the
surroundings ask for. -/
def Expr.print (avoid : Bool) (rank : Nat) : Expr → Option String
  | .boolOp op values => do
    let (own, word) := match op with
      | .and => (Rank.and, " and ")
      | .or => (Rank.or, " or ")
    let parts ← Expr.printRising avoid (own + 1) values
    return parenthesizeIf (own < rank) (String.intercalate word parts)
  | .named target value => do
    let v ← value.print avoid Rank.atom
    return parenthesizeIf (Rank.named < rank) (target ++ " := " ++ v)
  | .binary left op right => do
    let own := op.rank
    let isPower := own == Rank.power
    let l ← left.print avoid (if isPower then own + 1 else own)
    let r ← right.print avoid (if isPower then own else own + 1)
    return parenthesizeIf (own < rank) (l ++ " " ++ op.text ++ " " ++ r)
  | .unary op operand => do
    let (own, text) := match op with
      | .not => (Rank.not, "not ")
      | .invert => (Rank.sign, "~")
      | .plus => (Rank.sign, "+")
      | .minus => (Rank.sign, "-")
    let o ← operand.print avoid own
    return parenthesizeIf (own < rank) (text ++ o)
  | .lambda parameters body => do
    let ps ← parameters.print avoid
    let b ← body.print avoid Rank.test
    let head := if ps == "" then "lambda" else "lambda " ++ ps
    return parenthesizeIf (Rank.test < rank) (head ++ ": " ++ b)
  | .choice test body orElse => do
    let b ← body.print avoid (Rank.test + 1)
    let t ← test.print avoid (Rank.test + 1)
    let o ← orElse.print avoid Rank.test
    return parenthesizeIf (Rank.test < rank) (b ++ " if " ++ t ++ " else " ++ o)
  | .dict items => do
    return "\x7b" ++ commas (← DictItem.printAll avoid items) ++ "\x7d"
  | .set elements => do
    return "\x7b" ++ commas (← Expr.printAll avoid elements) ++ "\x7d"
  | .listComp element clauses => do
    let e ← element.print avoid Rank.test
    return "[" ++ e ++ (← Comprehension.printAll avoid clauses) ++ "]"
  | .setComp element clauses => do
    let e ← element.print avoid Rank.test
    return "\x7b" ++ e ++ (← Comprehension.printAll avoid clauses) ++ "\x7d"
  | .dictComp key value clauses => do
    let k ← key.print avoid Rank.test
    let v ← value.print avoid Rank.test
    return "\x7b" ++ k ++ ": " ++ v ++ (← Comprehension.printAll avoid clauses) ++ "\x7d"
  | .generator element clauses => do
    let e ← element.print avoid Rank.test
    return "(" ++ e ++ (← Comprehension.printAll avoid clauses) ++ ")"
  | .await value => do
    let v ← value.print avoid Rank.atom
    return parenthesizeIf (Rank.await < rank) ("await " ++ v)
  | .yield none => some (parenthesizeIf (Rank.yield < rank) "yield")
  | .yield (some value) => do
    let v ← value.print avoid Rank.atom
    return parenthesizeIf (Rank.yield < rank) ("yield " ++ v)
  | .yieldFrom value => do
    let v ← value.print avoid Rank.atom
    return parenthesizeIf (Rank.yield < rank) ("yield from " ++ v)
  | .compare left rest => do
    let l ← left.print avoid (Rank.compare + 1)
    let r ← Comparison.printAll avoid rest
    return parenthesizeIf (Rank.compare < rank) (l ++ r)
  | .call callee arguments keywords => do
    let c ← callee.print avoid Rank.atom
    let args ← Expr.printAll avoid arguments
    let named ← Keyword.printAll avoid keywords
    return c ++ "(" ++ commas (args ++ named) ++ ")"
  | .formatted value conversion spec => do
    let v ← value.print true (Rank.test + 1)
    bracedValue v conversion (← Expr.printSpec spec)
  | .joined values => do
    let parts ← Expr.printParts values
    if avoid then
      return "f" ++ String.ofList (Quotes.enclose (parts.flatMap Prod.fst))
    else
      return "f" ++ String.ofList (Quotes.encloseParts parts)
  | .constant c => some (c.print avoid)
  | .member value name => do
    let v ← value.print avoid Rank.atom
    return v ++ (if value.needsBlank then " ." else ".") ++ name
  | .subscript value index => do
    let v ← value.print avoid Rank.atom
    let i ← index.print avoid index.indexRank
    return v ++ "[" ++ i ++ "]"
  | .starred value => do
    return "*" ++ (← value.print avoid Rank.bitOr)
  | .name id => some id
  | .list elements => do
    return "[" ++ commas (← Expr.printAll avoid elements) ++ "]"
  | .tuple elements => do
    let parts ← Expr.printAll avoid elements
    return parenthesizeIf (parts.isEmpty || Rank.tuple < rank) (tupleItems parts)
  | .slice lower upper step => do
    let l ← Expr.printOption avoid "" lower
    let u ← Expr.printOption avoid "" upper
    let s ← Expr.printOption avoid ":" step
    return l ++ ":" ++ u ++ s

/-- The texts of expressions of which no rank is asked. -/
def Expr.printAll (avoid : Bool) : List Expr → Option (List String)
  | [] => some []
  | e :: rest => do
    let s ← e.print avoid Rank.test
    return s :: (← Expr.printAll avoid rest)

/-- The texts of operands, of each of which one rank more is asked than of the one before. -/
def Expr.printRising (avoid : Bool) (rank : Nat) : List Expr → Option (List String)
  | [] => some []
  | e :: rest => do
    let s ← e.print avoid (min rank Rank.atom)
    return s :: (← Expr.printRising avoid (rank + 1) rest)

/-- The text of an expression that may be missing, behind a mark. -/
def Expr.printOption (avoid : Bool) (mark : String) : Option Expr → Option String
  | none => some ""
  | some e => do
    return mark ++ (← e.print avoid Rank.test)

/-- The format behind a value in braces, with its colon. -/
def Expr.printSpec : Option Expr → Option String
  | some (.joined values) => do
    let parts ← Expr.printParts values
    return ":" ++ String.ofList (parts.flatMap Prod.fst)
  | _ => some ""

/-- The parts of a formatted text, and which of them are constants. -/
def Expr.printParts : List Expr → Option (List (List Char × Bool))
  | [] => some []
  | .constant (.text value _) :: rest => do
    return ((doubleBraces value).toList, true) :: (← Expr.printParts rest)
  | e :: rest => do
    let s ← e.print true Rank.test
    return (s.toList, false) :: (← Expr.printParts rest)

/-- The texts of the entries of a dictionary. -/
def DictItem.printAll (avoid : Bool) : List DictItem → Option (List String)
  | [] => some []
  | .pair key value :: rest => do
    let k ← key.print avoid Rank.test
    let v ← value.print avoid Rank.test
    return (k ++ ": " ++ v) :: (← DictItem.printAll avoid rest)
  | .spread value :: rest => do
    let v ← value.print avoid Rank.bitOr
    return ("**" ++ v) :: (← DictItem.printAll avoid rest)

/-- The texts of named arguments. -/
def Keyword.printAll (avoid : Bool) : List Keyword → Option (List String)
  | [] => some []
  | .mk name value :: rest => do
    let v ← value.print avoid Rank.test
    let head := match name with
      | some n => n ++ "="
      | none => "**"
    return (head ++ v) :: (← Keyword.printAll avoid rest)

/-- The operators of a chain of comparisons with what stands to their right. -/
def Comparison.printAll (avoid : Bool) : List Comparison → Option String
  | [] => some ""
  | .mk op right :: rest => do
    let r ← right.print avoid (Rank.compare + 1)
    return " " ++ op.text ++ " " ++ r ++ (← Comparison.printAll avoid rest)

/-- The clauses of a comprehension. -/
def Comprehension.printAll (avoid : Bool) : List Comprehension → Option String
  | [] => some ""
  | .mk isAsync target source tests :: rest => do
    let t ← target.print avoid Rank.tuple
    let s ← source.print avoid (Rank.test + 1)
    let conditions ← Expr.printTests avoid tests
    let head := if isAsync then " async for " else " for "
    return head ++ t ++ " in " ++ s ++ conditions ++ (← Comprehension.printAll avoid rest)

/-- The conditions of a clause. -/
def Expr.printTests (avoid : Bool) : List Expr → Option String
  | [] => some ""
  | e :: rest => do
    let s ← e.print avoid (Rank.test + 1)
    return " if " ++ s ++ (← Expr.printTests avoid rest)

/-- The text of a parameter. -/
def Parameter.print (avoid : Bool) : Parameter → Option String
  | .mk name annotation default => do
    let a ← Expr.printOption avoid ": " annotation
    let d ← Expr.printOption avoid "=" default
    return name ++ a ++ d

/-- The texts of parameters. -/
def Parameter.printAll (avoid : Bool) : List Parameter → Option (List String)
  | [] => some []
  | p :: rest => do
    let s ← p.print avoid
    return s :: (← Parameter.printAll avoid rest)

/-- The text of a parameter that may be missing. -/
def Parameter.printOption (avoid : Bool) : Option Parameter → Option (Option String)
  | none => some none
  | some p => do
    return some (← p.print avoid)

/-- The text of the parameters of a function. -/
def Parameters.print (avoid : Bool) : Parameters → Option String
  | .mk positional ordinary rest named others => do
    let ps ← Parameter.printAll avoid positional
    let os ← Parameter.printAll avoid ordinary
    let r ← Parameter.printOption avoid rest
    let ns ← Parameter.printAll avoid named
    let k ← Parameter.printOption avoid others
    return parameterList ps os r ns k

end

/-- The text of an expression that stands by itself. -/
def Expr.text? (e : Expr) : Option String :=
  e.print false Rank.test

end ClassAtlas.Source
