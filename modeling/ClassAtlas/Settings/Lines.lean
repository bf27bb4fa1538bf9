import ClassAtlas.Text.Alphanumeric

/-!
# Lines of settings

A settings file is made of lines: a heading in brackets, or a key, an equals sign and a value. The sweep
over the text takes comments away, draws values that go on over several lines in brackets together to one
line, and refuses lines whose key is malformed or whose quotes are left open.
-/

namespace ClassAtlas.Settings

open ClassAtlas.Text

/-! ## Blanks -/

/-- Is the character a blank? -/
def isBlank (c : Char) : Bool :=
  let n := c.toNat
  (9 ≤ n && n ≤ 13) || (0x1c ≤ n && n ≤ 0x20) || n == 0x85 || n == 0xa0 || n == 0x1680
    || (0x2000 ≤ n && n ≤ 0x200a) || n == 0x2028 || n == 0x2029 || n == 0x202f || n == 0x205f
    || n == 0x3000

/-- Drops the blanks at both ends. -/
def strip (cs : List Char) : List Char :=
  ((cs.dropWhile isBlank).reverse.dropWhile isBlank).reverse

/-- Does a number of backslashes stand in front? Text is given in reverse. -/
def oddBackslashes (reversed : List Char) : Bool :=
  (reversed.takeWhile (· == '\\')).length % 2 == 1

/-- Is the character a quotation mark? -/
def isQuote (c : Char) : Bool :=
  c == '"' || c == '\x27'

/-! ## The sweep -/

/-- Where in a line the sweep stands. -/
inductive Region where
  /-- At the start of a line, or in the blanks in front of it. -/
  | margin
  /-- In the brackets of a heading; a doubled heading ends in two brackets. -/
  | heading (doubled : Bool)
  /-- In a key. -/
  | key
  /-- Behind a key. -/
  | afterKey
  /-- In a value, or behind it. -/
  | value
  /-- In a comment, and where the sweep stood before it. -/
  | comment (before : Bool)
deriving DecidableEq

/-- The state of the sweep. -/
structure Sweep where
  /-- The text so far, in reverse. -/
  done : List Char := []
  region : Region := .margin
  /-- Has the key dots in it? -/
  dotted : Bool := false
  /-- The quotation mark that is open. -/
  quote : Option Char := none
  /-- Is the open quotation one over several lines? -/
  long : Bool := false
  /-- How many brackets are open. -/
  depth : Int := 0

namespace Sweep

/-- Takes a character over. -/
def push (s : Sweep) (c : Char) : Sweep :=
  { s with done := c :: s.done }

/-- A character of a quoted part of a key. -/
def quotedKey (s : Sweep) (mark c : Char) : Sweep :=
  let s' := s.push c
  if c == mark && !oddBackslashes s.done then { s' with quote := none, region := .afterKey } else s'

/-- Does a key go on with this character? -/
def keyGoesOn (next : Option Char) : Option Region :=
  next.map fun c => if isBlank c || c == '.' then .afterKey else .key

/-- A character of a key or behind it, up to the equals sign. -/
def keyChar (s : Sweep) (c : Char) (next : Option Char) : Option Sweep :=
  let s' := s.push c
  if c == '\n' then none
  else match s.quote with
    | some mark => some (s.quotedKey mark c)
    | none =>
      if s.region = .key && isBlank c then some { s' with region := .afterKey }
      else if s.region = .key && c == '.' then some { s' with dotted := true }
      else if s.region = .key && (isAlphanumeric c || c == '_' || c == '-') then some s'
      else if s.region = .key && s.dotted && s.done.head? == some '.' && isQuote c then
        some { s' with quote := some c }
      else if s.region = .afterKey && isBlank c then
        if s.dotted then (keyGoesOn next).map fun r => { s' with region := r } else some s'
      else if s.region = .afterKey && c == '.' then
        (keyGoesOn next).map fun r => { s' with region := r, dotted := true }
      else if c == '=' then some { s' with region := .value, dotted := false }
      else none

/-- Opens or closes a quotation. Three marks in a row open or close a long one. -/
def toggle (s : Sweep) (mark : Char) : Sweep :=
  let triple := s.done.head? == some mark && s.done[1]? == some mark
  let doubled := s.done.head? == some mark && !triple
  let escaped := mark == '"' && !doubled && oddBackslashes (s.done.drop (if triple then 2 else 0))
  if escaped then s
  else
    let isOpen := if triple then !s.long else s.quote.isNone
    { s with long := if triple then !s.long else s.long, quote := if isOpen then some mark else none }

/-- A quotation mark counts unless the other one is open. -/
def quoteChar (s : Sweep) (c : Char) : Sweep :=
  if isQuote c && (s.quote.isNone || s.quote == some c) then s.toggle c else s

/-- Takes back the line end that directly follows the marks that open a long quotation. -/
def joinLong : List Char → List Char
  | a :: b :: c :: rest =>
    if isQuote a && a == b then
      if a == c then a :: a :: b :: ' ' :: rest else a :: a :: b :: c :: rest
    else '\n' :: a :: b :: c :: rest
  | done => '\n' :: done

/-- A line end. -/
def lineEnd (s : Sweep) : Option Sweep :=
  if s.quote.isSome || s.long then
    if s.long then some { s with done := joinLong s.done } else none
  else if s.depth != 0 then some (s.push ' ')
  else some { s with done := '\n' :: s.done, region := if s.region matches .heading _ then s.region else .margin }

/-- An opening bracket: at the start of a line it opens a heading. -/
def openBracket (s : Sweep) (next : Option Char) : Sweep :=
  match s.region with
  | .margin => { s with region := .heading (next == some '[') }
  | .heading _ => s
  | _ => { s with depth := s.depth + 1 }

/-- A closing bracket. -/
def closeBracket (s : Sweep) : Sweep :=
  match s.region with
  | .heading false => { s with region := .value }
  | .heading true => if s.done.head? == some ']' then { s with region := .value } else s
  | _ => { s with depth := s.depth - 1 }

/-- A character of a value or a heading, or in the margin. -/
def valueChar (s : Sweep) (c : Char) (next : Option Char) : Option Sweep :=
  let inMargin := s.region = .margin
  let s := s.quoteChar c
  if c == '#' && s.quote.isNone && !(s.region matches .heading _) then
    some { s.push ' ' with region := .comment inMargin }
  else if c == '\n' then s.lineEnd
  else
    let s := if c == '[' && s.quote.isNone then s.openBracket next else s
    let s := if c == ']' && s.quote.isNone then s.closeBracket else s
    let s := s.push c
    if inMargin && s.region = .margin && c != ' ' && c != '\t' then
      if c == '=' then none else some { s with region := .key }
    else some s

/-- Reads a character; `next` is the one behind it. -/
def step (s : Sweep) (c : Char) (next : Option Char) : Option Sweep :=
  match s.region with
  | .key | .afterKey => s.keyChar c next
  | .comment inMargin =>
    if c == '\n' then { s with region := if inMargin then .margin else .value : Sweep }.lineEnd
    else some (s.push ' ')
  | _ => s.valueChar c next

/-- Reads a text. -/
def run (s : Sweep) : List Char → Option Sweep
  | [] => some s
  | c :: rest =>
    match s.step c rest.head? with
    | some s => s.run rest
    | none => none

end Sweep

/-- The lines of a text without comments, each value on one line. -/
def lines? (text : List Char) : Option (List (List Char)) := do
  let s ← ({} : Sweep).run text
  if s.region = .key || s.region = .afterKey || s.quote.isSome then none
  else some (s.done.reverse.splitOn '\n')

end ClassAtlas.Settings
