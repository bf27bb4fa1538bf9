import ClassAtlas.Number.Shortest
import ClassAtlas.Source.Expr
import ClassAtlas.Text.Quoted

/-!
# The text of literals

How constants are written in printed expressions, and which quotes a formatted text takes: the first
of four kinds that occurs in none of its parts.
-/

namespace ClassAtlas.Source

open ClassAtlas.Text ClassAtlas.Number

/-- What is written for the infinite number: a literal too large for any other. -/
def infinityText : String := "1e309"

/-- The text of a number. -/
def Numeral.text : Numeral → String
  | .whole n => String.ofList (Nat.toDigits 10 n)
  | .real b => b.text ".0" infinityText
  | .imaginary b => b.text "" infinityText ++ "j"

namespace Quotes

/-- The four kinds of quotes, in order of preference. -/
def every : List (List Char) :=
  [['\''], ['"'], ['"', '"', '"'], ['\'', '\'', '\'']]

/-- Does a text occur in another? -/
def occursIn (part : List Char) : List Char → Bool
  | [] => part.isEmpty
  | c :: rest => part.isPrefixOf (c :: rest) || occursIn part rest

/-- Escapes a character outside of expressions; line ends and tabs only where `blanks` says so. -/
def escape (blanks : Bool) (c : Char) : List Char :=
  if !blanks && (c == '\n' || c == '\t') then [c] else escapeChar c

/-- A text as it stands between quotes of the given kinds, and the kinds that can hold it. If none
can, the text is escaped for the first kind that will do. -/
def hold (kinds : List (List Char)) (blanks : Bool) (cs : List Char) :
    List Char × List (List Char) :=
  let escaped := cs.flatMap (escape blanks)
  let kinds' := if escaped.contains '\n' then kinds.filter (·.length == 3) else kinds
  let possible := kinds'.filter fun q => !occursIn q escaped
  match possible with
  | [] =>
    let whole := quotedChars cs
    let quote := whole.head?.getD '\''
    ((whole.drop 1).dropLast, [(kinds.find? (·.contains quote)).getD [quote]])
  | _ =>
    match escaped.getLast? with
    | none => (escaped, possible)
    | some last =>
      let clashes := fun (q : List Char) => q.head? == some last
      let sorted := possible.filter (fun q => !clashes q) ++ possible.filter clashes
      if (sorted.head?.map clashes).getD false then (escaped.dropLast ++ ['\\', last], sorted)
      else (escaped, sorted)

/-- A text between the first quotes that hold it without more backslashes than needed. -/
def enclose (cs : List Char) : List Char :=
  let (inside, kinds) := hold every false cs
  let quote := kinds.head?.getD ['\'']
  quote ++ inside ++ quote

/-- Narrows the kinds of quotes part by part; nothing if a part leaves none. A part is the text and
whether its blanks may be escaped. -/
def narrow (kinds : List (List Char)) :
    List (List Char × Bool) → Option (List Char × List (List Char))
  | [] => some ([], kinds)
  | (cs, blanks) :: rest =>
    let (inside, left) := hold kinds blanks cs
    if left.all (!kinds.contains ·) then none
    else (narrow left rest).map fun (more, kinds) => (inside ++ more, kinds)

/-- The parts of a formatted text between quotes that hold them all; if none do, escaped between
three single quotes. -/
def encloseParts (parts : List (List Char × Bool)) : List Char :=
  match narrow every parts with
  | some (inside, kinds) =>
    let quote := kinds.head?.getD ['\'']
    quote ++ inside ++ quote
  | none =>
    let quote := ['\'', '\'', '\'']
    let escaped := parts.flatMap fun (cs, _) => ((quotedChars ('"' :: cs)).drop 2).dropLast
    quote ++ escaped ++ quote

end Quotes

/-- The text of a constant. Where backslashes are to be avoided, a text takes the quotes that need the
fewest. -/
def Constant.print (avoid : Bool) : Constant → String
  | .none => "None"
  | .bool b => if b then "True" else "False"
  | .ellipsis => "..."
  | .number n => n.text
  | .text value marked =>
    let literal := if avoid then String.ofList (Quotes.enclose value.toList) else quoted value
    if marked then "u" ++ literal else literal
  | .bytes value => quotedBytes value

end ClassAtlas.Source
