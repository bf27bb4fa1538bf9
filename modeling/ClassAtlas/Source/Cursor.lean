import ClassAtlas.Source.Token

/-!
# Reading tokens

A parser reads tokens from a place in an array and gives a result and the place behind it, or refuses.
Choice is ordered: the first alternative that succeeds is kept. Repetition ends when nothing more is
read, so it needs no bound.
-/

namespace ClassAtlas.Source

/-- A place in the tokens of a text. -/
structure Cursor where
  tokens : Array Token
  position : Nat

/-- The token at a place, if it is not the end. -/
def Cursor.token? (c : Cursor) : Option Token :=
  c.tokens[c.position]?

/-- How many tokens are still to come. -/
def Cursor.remaining (c : Cursor) : Nat :=
  c.tokens.size - c.position

/-- The place behind the next `n` tokens. -/
def Cursor.advance (c : Cursor) (n : Nat) : Cursor :=
  { c with position := c.position + n }

/-- Reads tokens, or refuses. -/
abbrev Parser := StateT Cursor Option

namespace Parser

/-- The next token; refuses at the end. -/
def token : Parser Token := do
  let c ← get
  match c.token? with
  | some t => set (c.advance 1); return t
  | none => failure

/-- The next token, which stays; nothing at the end. -/
def peek : Parser (Option Token) := do
  return (← get).token?

/-- The token after the next. -/
def peekSecond : Parser (Option Token) := do
  return ((← get).advance 1).token?

/-- Is the next token this operator? -/
def atOp (sign : String) : Parser Bool := do
  match ← peek with
  | some (.op s) => return s == sign
  | _ => return false

/-- Is the next token this keyword? -/
def atKeyword (word : String) : Parser Bool := do
  match ← peek with
  | some (.keyword w) => return w == word
  | _ => return false

/-- Reads this operator if it comes next; tells whether it did. -/
def tryOp (sign : String) : Parser Bool := do
  if ← atOp sign then
    let _ ← token
    return true
  else return false

/-- Reads this keyword if it comes next; tells whether it did. -/
def tryKeyword (word : String) : Parser Bool := do
  if ← atKeyword word then
    let _ ← token
    return true
  else return false

/-- Goes on only if the condition holds. -/
def ensure (condition : Bool) : Parser Unit :=
  if condition then pure () else failure

/-- Reads this operator. -/
def op (sign : String) : Parser Unit := do
  ensure (← tryOp sign)

/-- Reads this keyword. -/
def keyword (word : String) : Parser Unit := do
  ensure (← tryKeyword word)

/-- Reads a name. -/
def name : Parser String := do
  match ← token with
  | .name id => return id
  | _ => failure

/-- Reads this name. -/
def softKeyword (word : String) : Parser Unit := do
  ensure ((← name) == word)

/-- Reads the end of a line. -/
def newline : Parser Unit := do
  match ← token with
  | .newline => return ()
  | _ => failure

/-- Do a name and then this operator come next? -/
def atNameThen (sign : String) : Parser Bool := do
  match ← peek, ← peekSecond with
  | some (.name _), some (.op s) => return s == sign
  | _, _ => return false

/-- What the parser reads, or nothing and the same place. -/
def perhaps {α : Type} (p : Parser α) : Parser (Option α) := fun c =>
  match p c with
  | some (a, after) => some (some a, after)
  | none => some (none, c)

/-- Reads as often as it goes. A result that read no token is the last. -/
def many {α : Type} (p : Parser α) : Parser (List α) := fun c =>
  match p c with
  | none => some ([], c)
  | some (a, after) =>
    if after.remaining < c.remaining then
      match many p after with
      | some (rest, last) => some (a :: rest, last)
      | none => none
    else some ([a], after)
termination_by c => c.remaining

/-- Reads at least once, and as often as it goes. -/
def many1 {α : Type} (p : Parser α) : Parser (List α) := do
  let first ← p
  return first :: (← many p)

/-- Reads items between commas: the items, and whether a comma follows the last. -/
def commaSeparated {α : Type} (p : Parser α) : Parser (List α × Bool) := do
  let first ← p
  let rest ← many (do op ","; p)
  return (first :: rest, ← tryOp ",")

/-- Reads all tokens, up to line ends behind the last. -/
def all {α : Type} (p : Parser α) (tokens : List Token) : Option α := do
  let (a, c) ← p ⟨tokens.toArray, 0⟩
  let (_, c) ← many newline c
  if c.remaining = 0 then some a else none

end Parser

end ClassAtlas.Source
