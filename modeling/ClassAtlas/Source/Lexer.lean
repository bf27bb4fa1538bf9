import ClassAtlas.Source.Token
import ClassAtlas.Text.Compatibility
import ClassAtlas.Text.Identifier

/-!
# From text to tokens

`lex` cuts source text into tokens. Lines end in a token of their own, except inside brackets and
except for lines that hold nothing but blanks and a comment. The blanks in front of a line are
measured twice, with tabs as wide as eight columns and as one: both measures have to agree on
whether a line lies deeper than the one before it.
-/

namespace ClassAtlas.Source

open ClassAtlas.Text

/-! ## Line ends -/

/-- Writes every line end as a single line feed. -/
def unifyLineEnds : List Char → List Char
  | [] => []
  | '\r' :: rest =>
    match rest with
    | '\n' :: _ => unifyLineEnds rest
    | _ => '\n' :: unifyLineEnds rest
  | c :: rest => c :: unifyLineEnds rest

/-- Unified line ends, and one behind the last line. A last line that ends in a carriage return and a
line feed is followed by an empty one. -/
def endLastLine (cs : List Char) : List Char :=
  let unified := unifyLineEnds cs
  if unified.getLast? != some '\n' || ['\r', '\n'].isSuffixOf cs then unified ++ ['\n']
  else unified

/-! ## Indentation -/

/-- How far a line is indented, with wide and with narrow tabs. -/
structure Indent where
  wide : Nat
  narrow : Nat
deriving DecidableEq

/-- Measures the blanks at the head of a line. A form feed starts over; a line that goes on behind a
backslash counts from the first backslash that has blanks in front. -/
def measureIndent (joined wide narrow : Nat) : List Char → Option (Indent × List Char)
  | ' ' :: rest => measureIndent joined (wide + 1) (narrow + 1) rest
  | '\t' :: rest => measureIndent joined ((wide / 8 + 1) * 8) (narrow + 1) rest
  | '\x0c' :: rest => measureIndent joined 0 0 rest
  | '\\' :: '\n' :: rest =>
    if rest.isEmpty then none
    else measureIndent (if joined = 0 then wide else joined) wide narrow rest
  | '\\' :: _ => none
  | rest =>
    some (if joined = 0 then ⟨wide, narrow⟩ else ⟨joined, joined⟩, rest)

/-- The number of indentations that may be open at once. -/
def maxIndents : Nat := 99

/-- Closes the indentations that are deeper than `here`; what remains, and how many were closed. -/
def closeIndents (here : Indent) : List Indent → List Indent × Nat
  | [] => ([], 0)
  | top :: rest =>
    if here.wide < top.wide then
      let (left, n) := closeIndents here rest
      (left, n + 1)
    else (top :: rest, 0)

/-- Moves from the open indentations, deepest first, to that of a new line: the indentations open
from then on, and the tokens between. The outermost level is not listed. -/
def moveIndent (here : Indent) (opened : List Indent) : Option (List Indent × List Token) :=
  let top := opened.head?.getD ⟨0, 0⟩
  if here.wide = top.wide then
    if here.narrow = top.narrow then some (opened, []) else none
  else if top.wide < here.wide then
    if maxIndents ≤ opened.length || here.narrow ≤ top.narrow then none
    else some (here :: opened, [.indent])
  else
    let (left, n) := closeIndents here opened
    if left.head?.getD ⟨0, 0⟩ = here then some (left, List.replicate n .dedent) else none

/-! ## Strings -/

/-- The body of a string between single quotes, and what follows it. -/
def shortBody (quote : Char) : List Char → Option (List Char × List Char)
  | [] => none
  | '\\' :: c :: rest => (shortBody quote rest).map fun (body, after) => ('\\' :: c :: body, after)
  | c :: rest =>
    if c == quote then some ([], rest)
    else if c == '\n' || c == '\\' then none
    else (shortBody quote rest).map fun (body, after) => (c :: body, after)

/-- The body of a string between triple quotes, and what follows it. -/
def longBody (quote : Char) : List Char → Option (List Char × List Char)
  | [] => none
  | '\\' :: c :: rest => (longBody quote rest).map fun (body, after) => ('\\' :: c :: body, after)
  | c :: rest =>
    match rest with
    | d :: e :: after =>
      if c == quote && d == quote && e == quote then some ([], after)
      else (longBody quote rest).map fun (body, after) => (c :: body, after)
    | _ => none

/-- The body of the string that starts at a quote, and what follows it. -/
def stringBody (quote : Char) (rest : List Char) : Option (List Char × List Char) :=
  match rest with
  | c :: d :: more =>
    if c == quote && d == quote then longBody quote more
    else if c == quote then some ([], d :: more)
    else shortBody quote rest
  | _ => shortBody quote rest

/-- What the letters in front of a string say about it. -/
def stringMarks : List (String × StringToken) :=
  [("", ⟨false, false, false, false, []⟩), ("r", ⟨false, true, false, false, []⟩),
   ("u", ⟨false, false, false, false, []⟩), ("b", ⟨true, false, false, false, []⟩),
   ("f", ⟨false, false, true, false, []⟩), ("br", ⟨true, true, false, false, []⟩),
   ("rb", ⟨true, true, false, false, []⟩), ("fr", ⟨false, true, true, false, []⟩),
   ("rf", ⟨false, true, true, false, []⟩)]

/-- The string token whose marks are already read, if they are marks of a string. -/
def stringToken? (marks : String) (quote : Char) (rest : List Char) :
    Option (Token × List Char) := do
  let kind ← stringMarks.lookup marks.toLower
  let (body, after) ← stringBody quote rest
  return (.string { kind with isMarked := marks == "u", body := body }, after)

/-! ## Words and operators -/

/-- A keyword, or a name in normal form; nothing if the text is no identifier. -/
def wordToken? (word : List Char) : Option Token :=
  let text := String.ofList word
  if keywords.contains text then some (.keyword text)
  else if word.all (·.toNat < 0x80) then some (.name text)
  else if isIdentifier word then some (.name (normalize text))
  else none

/-- The longest operator at the head of a text. -/
def operator? (cs : List Char) : Option (String × List Char) :=
  match operators3.find? (fun o => o.toList.isPrefixOf cs) with
  | some o => some (o, cs.drop 3)
  | none =>
    match operators2.find? (fun o => o.toList.isPrefixOf cs) with
    | some o => some (o, cs.drop 2)
    | none =>
      match cs with
      | c :: rest => if operators1.contains c then some (String.singleton c, rest) else none
      | [] => none

/-- The number of brackets that may be open at once. -/
def maxBrackets : Nat := 200

/-- Follows the brackets: the closing signs awaited after an operator, innermost first. -/
def trackBracket (sign : String) (awaited : List String) : Option (List String) :=
  match sign with
  | "(" => if maxBrackets ≤ awaited.length then none else some (")" :: awaited)
  | "[" => if maxBrackets ≤ awaited.length then none else some ("]" :: awaited)
  | "\x7b" => if maxBrackets ≤ awaited.length then none else some ("\x7d" :: awaited)
  | ")" | "]" | "\x7d" =>
    match awaited with
    | top :: rest => if top == sign then some rest else none
    | [] => none
  | _ => some awaited

/-- Is the character a blank between tokens? -/
def isBlank (c : Char) : Bool :=
  c == ' ' || c == '\t' || c == '\x0c'

/-! ## The lexer -/

/-- The lexer's place in a text. -/
structure LexState where
  /-- Is this the head of a line? -/
  atLineStart : Bool
  /-- The open indentations, deepest first. -/
  indents : List Indent
  /-- The closing brackets awaited, innermost first. -/
  awaited : List String
  /-- The tokens so far, last first. -/
  reversed : List Token

/-- One step at the head of a line: indentation, or a line without tokens. -/
def lexLineStart (st : LexState) (cs : List Char) : Option (LexState × List Char) := do
  let (here, rest) ← measureIndent 0 0 0 cs
  if rest.head? == some '#' || rest.head? == some '\n' then
    return (st, (rest.dropWhile (· != '\n')).drop 1)
  else if !st.awaited.isEmpty then
    return ({ st with atLineStart := false }, rest)
  else
    let (indents, tokens) ← moveIndent here st.indents
    return ({ st with
      atLineStart := false, indents := indents, reversed := tokens.reverse ++ st.reversed }, rest)

/-- Adds a token. -/
def LexState.push (st : LexState) (t : Token) : LexState :=
  { st with reversed := t :: st.reversed }

/-- One step inside a line, at a character that is no blank and starts no comment. -/
def lexToken (st : LexState) (c : Char) (rest : List Char) : Option (LexState × List Char) :=
  if c == '\n' then
    some (if st.awaited.isEmpty then { st.push .newline with atLineStart := true }
      else { st with atLineStart := true }, rest)
  else if c == '\\' then
    match rest with
    | '\n' :: more => if more.isEmpty then none else some (st, more)
    | _ => none
  else if c == '\'' || c == '"' then
    (stringToken? "" c rest).map fun (t, after) => (st.push t, after)
  else if c.isDigit || (c == '.' && (rest.head?.map Char.isDigit).getD false) then
    (Numeral.scan (c :: rest)).map fun (n, after) => (st.push (.number n), after)
  else if isNameChar c then
    let word := c :: rest.takeWhile isNameChar
    match rest.dropWhile isNameChar with
    | q :: after =>
      if (q == '\'' || q == '"') && (stringMarks.lookup (String.ofList word).toLower).isSome then
        (stringToken? (String.ofList word) q after).map fun (t, after) => (st.push t, after)
      else (wordToken? word).map fun t => (st.push t, q :: after)
    | [] => (wordToken? word).map fun t => (st.push t, [])
  else do
    let (sign, after) ← operator? (c :: rest)
    let awaited ← trackBracket sign st.awaited
    return ({ st.push (.op sign) with awaited := awaited }, after)

/-- Runs the lexer. Every step takes at least one character or leaves the head of a line, so twice
the length of the text and one bound the number of steps. -/
def lexSteps : Nat → LexState → List Char → Option (List Token)
  | 0, _, _ => none
  | fuel + 1, st, cs =>
    if st.atLineStart then
      match lexLineStart st cs with
      | some (st, rest) => lexSteps fuel st rest
      | none => none
    else
      match cs.dropWhile isBlank with
      | [] => if st.awaited.isEmpty then some st.reversed.reverse else none
      | '#' :: rest => lexSteps fuel st (rest.dropWhile (· != '\n'))
      | c :: rest =>
        match lexToken st c rest with
        | some (st, rest) => lexSteps fuel st rest
        | none => none

/-- The tokens of a text whose line ends are line feeds; nothing if it is no source text. -/
def lex (cs : List Char) : Option (List Token) :=
  if cs.contains '\x00' then none
  else lexSteps (2 * cs.length + 2) ⟨true, [], [], []⟩ cs

end ClassAtlas.Source
