import ClassAtlas.Source.Grammar

/-!
# Parameters

The parameters of a function stand between commas. A slash ends those given by position only, a star
(bare, or with the parameter that takes all further positions) starts those given by name only, and
two stars mark the last one, which takes all further names. In front of the star, no parameter without
a default follows one with a default.
-/

namespace ClassAtlas.Source

open ClassAtlas.Source.Parser

/-- One item of a list of parameters. -/
inductive ParameterItem where
  | plain (p : Parameter)
  | slash
  | star (p : Option Parameter)
  | doubleStar (p : Parameter)

/-- Has the parameter a default? -/
def Parameter.hasDefault : Parameter → Bool
  | .mk _ _ default => default.isSome

namespace Grammar

/-- A parameter's annotation, if annotations are allowed and a colon announces one. -/
def annotation (g : Grammar) (allowed : Bool) : Parser (Option Expr) := do
  if allowed then
    if ← tryOp ":" then return some (← g.expression) else return none
  else return none

/-- One item of a list of parameters. A starred one may have a starred annotation. -/
def parameterItem (g : Grammar) (annotated : Bool) : Parser ParameterItem := do
  if ← tryOp "/" then return .slash
  else if ← tryOp "**" then
    let id ← name
    return .doubleStar (.mk id (← annotation g annotated) none)
  else if ← tryOp "*" then
    if ← atOp "," then return .star none
    else
      let id ← name
      if annotated then
        if ← tryOp ":" then return .star (some (.mk id (some (← starExpression g)) none))
        else return .star (some (.mk id none none))
      else return .star (some (.mk id none none))
  else
    let id ← name
    let ann ← annotation g annotated
    if ← tryOp "=" then return .plain (.mk id ann (some (← g.expression)))
    else return .plain (.mk id ann none)

end Grammar

/-- The plain parameters at the head of a list of items, and the other items. -/
def takePlain : List ParameterItem → List Parameter × List ParameterItem
  | .plain p :: rest =>
    let (ps, after) := takePlain rest
    (p :: ps, after)
  | rest => ([], rest)

/-- Does no parameter without a default follow one with a default? -/
def defaultsLast : List Parameter → Bool
  | [] => true
  | p :: rest => (!p.hasDefault || rest.all Parameter.hasDefault) && defaultsLast rest

/-- The items behind the ordinary parameters: the rest of the positions, the parameters given by name
only, and the rest of the names. A bare star is followed by a parameter. -/
def endParameters (positional ordinary : List Parameter) (items : List ParameterItem) :
    Option Parameters :=
  let finish := fun rest named tail =>
    match tail with
    | [] => some (Parameters.mk positional ordinary rest named none)
    | [ParameterItem.doubleStar p] => some (.mk positional ordinary rest named (some p))
    | _ => none
  match items with
  | .star rest :: after =>
    let (named, tail) := takePlain after
    if rest.isNone && named.isEmpty then none else finish rest named tail
  | items => finish none [] items

/-- Puts the items of a list of parameters in their places, if their order allows it. -/
def Parameters.ofItems (items : List ParameterItem) : Option Parameters :=
  let (first, after) := takePlain items
  match after with
  | .slash :: after =>
    let (ordinary, after) := takePlain after
    if first.isEmpty || !defaultsLast (first ++ ordinary) then none
    else endParameters first ordinary after
  | after => if defaultsLast first then endParameters [] first after else none

/-- The parameters up to a closing sign, which stays. -/
def Grammar.parameters (g : Grammar) (annotated : Bool) (closing : String) : Parser Parameters := do
  if ← atOp closing then return .mk [] [] none [] none
  else
    let (items, _) ← commaSeparated (g.parameterItem annotated)
    match Parameters.ofItems items with
    | some ps => return ps
    | none => failure

end ClassAtlas.Source
