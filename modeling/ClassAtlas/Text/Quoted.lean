import ClassAtlas.Text.Printable
import ClassAtlas.Text.RangeMap

/-!
# Quoted text

Text in messages and in printed expressions stands between quotes: single ones, unless the text
holds a single quote and no double one. The quote in use, the backslash and every character that is
not printable are escaped.
-/

namespace ClassAtlas.Text

/-- The shortest numeric escape of a code point: `\x`, `\u` or `\U` and two, four or eight digits. -/
def numericEscape (n : Nat) : List Char :=
  if n < 0x100 then '\\' :: 'x' :: hexPadded 2 n
  else if n < 0x10000 then '\\' :: 'u' :: hexPadded 4 n
  else '\\' :: 'U' :: hexPadded 8 n

/-- Escapes a character whatever the quotes around it: the backslash, the three blanks with a letter
of their own, and what is not printable. -/
def escapeChar (c : Char) : List Char :=
  if c == '\\' then ['\\', '\\']
  else if c == '\t' then ['\\', 't']
  else if c == '\n' then ['\\', 'n']
  else if c == '\r' then ['\\', 'r']
  else if isPrintable c then [c]
  else numericEscape c.toNat

/-- The quote that a text is put into. -/
def quoteFor (cs : List Char) : Char :=
  if cs.contains '\'' && !cs.contains '"' then '"' else '\''

/-- A text between quotes, as characters. -/
def quotedChars (cs : List Char) : List Char :=
  let quote := quoteFor cs
  let escape := fun c => if c == quote then ['\\', c] else escapeChar c
  quote :: cs.flatMap escape ++ [quote]

/-- A text between quotes. -/
def quoted (s : String) : String :=
  String.ofList (quotedChars s.toList)

/-- Escapes a byte: printable ASCII stands for itself. -/
def escapeByte (b : Nat) : List Char :=
  let c := Char.ofNat b
  if b < 0x80 && (isPrintable c || c == '\t' || c == '\n' || c == '\r') then escapeChar c
  else '\\' :: 'x' :: hexPadded 2 b

/-- Bytes between quotes, with the letter `b` in front. -/
def quotedBytes (bytes : List Nat) : String :=
  let quote := quoteFor (bytes.map Char.ofNat)
  let escape := fun b => if b == quote.toNat then ['\\', quote] else escapeByte b
  String.ofList ('b' :: quote :: bytes.flatMap escape ++ [quote])

/-- Several texts between quotes, with commas, inside the given brackets. -/
def quotedList (opening closing : String) (items : List String) : String :=
  opening ++ String.intercalate ", " (items.map quoted) ++ closing

end ClassAtlas.Text
