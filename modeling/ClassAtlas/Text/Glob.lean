/-!
# Glob patterns

A pattern is matched against a whole name, with regard to case. `*` stands for any text, `?` for any
character, and brackets for one character of a set; a set that opens with `!` is complemented. In a
set, `a-c` is a range; a range whose ends are out of order is empty, and so is a set of which nothing
is left (its complement holds every character). A bracket that is never closed stands for itself.

`Glob.parse` reads a pattern into pieces; `Glob.matchesAll` runs the pieces over a text, one row of
answers per piece.
-/

namespace ClassAtlas.Text

/-- One piece of a glob pattern. -/
inductive GlobPiece where
  /-- Any text, also none. -/
  | anyText
  /-- Any one character. -/
  | anyChar
  /-- The character itself. -/
  | char (c : Char)
  /-- One character out of, or with `negated` not out of, the parts; a part is a list of single
  characters, and each part is joined by a range to the next. -/
  | set (negated : Bool) (parts : List (List Char))
  /-- No character at all. -/
  | nothing

namespace Glob

/-! ## Character sets -/

/-- Does a set hold `c`? It holds the characters of its parts, and all between the last character of
a part and the first of the next. -/
def inParts (c : Char) : List (List Char) → Bool
  | [] => false
  | part :: rest =>
    part.contains c
      || (match part.getLast?, rest.head? with
          | some lo, some (hi :: _) => lo ≤ c && c ≤ hi
          | _, _ => false)
      || inParts c rest

/-- Cuts the inside of a set at the hyphens that make ranges: such a hyphen stands after at least
`skip` characters of its part and is not the last character. -/
def cutRanges (skip : Nat) (part : List Char) : List Char → List (List Char)
  | [] => [part.reverse]
  | c :: rest =>
    match skip with
    | 0 =>
      if c == '-' then
        if rest.isEmpty then [('-' :: part).reverse]
        else part.reverse :: cutRanges 2 [] rest
      else cutRanges 0 (c :: part) rest
    | n + 1 => cutRanges n (c :: part) rest

/-- Joins a part to the parts after it. A range whose ends are out of order is dropped with both its
ends, which makes one part of two. -/
def joinPart (part : List Char) : List (List Char) → List (List Char)
  | [] => [part]
  | next :: rest =>
    match part.getLast?, next with
    | some lo, hi :: more => if hi < lo then (part.dropLast ++ more) :: rest else part :: next :: rest
    | _, _ => part :: next :: rest

/-- The piece that the inside of a pair of brackets stands for. -/
def setPiece (inside : List Char) : GlobPiece :=
  let skip := if inside.head? == some '!' then 2 else 1
  match (cutRanges skip [] inside).foldr joinPart [] with
  | [] => .nothing
  | [[]] => .nothing
  | [['!']] => .anyChar
  | ('!' :: part) :: rest => .set true (part :: rest)
  | parts => .set false parts

/-! ## Patterns -/

/-- Splits the text after an opening bracket at the bracket that closes the set. The first character
(after a `!`) belongs to the set even if it is a closing bracket. -/
def splitSet (rest : List Char) : Option (List Char × List Char) :=
  let (bang, rest) := match rest with
    | '!' :: r => (['!'], r)
    | r => ([], r)
  let (first, rest) := match rest with
    | ']' :: r => ([']'], r)
    | r => ([], r)
  match rest.dropWhile (· != ']') with
  | [] => none
  | _ :: after => some (bang ++ first ++ rest.takeWhile (· != ']'), after)

/-- Reads a pattern. The first argument bounds the number of pieces. -/
def parsePieces : Nat → List Char → List GlobPiece
  | 0, _ => []
  | _, [] => []
  | n + 1, '*' :: rest => .anyText :: parsePieces n rest
  | n + 1, '?' :: rest => .anyChar :: parsePieces n rest
  | n + 1, '[' :: rest =>
    match splitSet rest with
    | some (inside, after) => setPiece inside :: parsePieces n after
    | none => .char '[' :: parsePieces n rest
  | n + 1, c :: rest => .char c :: parsePieces n rest

/-- Reads a pattern: every character gives at most one piece. -/
def parse (pattern : String) : List GlobPiece :=
  parsePieces pattern.toList.length pattern.toList

/-! ## Matching -/

/-- Does a piece that stands for one character accept `c`? -/
def acceptsChar (c : Char) : GlobPiece → Bool
  | .anyText => false
  | .anyChar => true
  | .char d => c == d
  | .set negated parts => inParts c parts != negated
  | .nothing => false

/-- Whether the pieces match, for the whole text and for each of its ends in turn. -/
def matchRow : List GlobPiece → List Char → List Bool
  | [], text => text.map (fun _ => false) ++ [true]
  | .anyText :: pieces, text =>
    (matchRow pieces text).foldr (fun now later => (now || later.head?.getD false) :: later) []
  | piece :: pieces, text =>
    List.zipWith (fun c later => acceptsChar c piece && later) text (matchRow pieces text).tail
      ++ [false]

/-- Do the pieces match the whole text? -/
def matchesAll (pieces : List GlobPiece) (text : List Char) : Bool :=
  (matchRow pieces text).head?.getD false

/-- Does the pattern match the whole name? -/
def accepts (pattern name : String) : Bool :=
  matchesAll (parse pattern) name.toList

end Glob

end ClassAtlas.Text
