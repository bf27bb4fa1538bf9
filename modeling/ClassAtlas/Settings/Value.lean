import ClassAtlas.Document
import ClassAtlas.Settings.Lines
import ClassAtlas.Text.RangeMap

/-!
# Values of settings

The text of a value decides by its first character what it is: a quotation, an array, an inline table,
or else a truth value or a number. The reader is forgiving: the last character of an array or a quotation
is taken for its end whatever it is, and empty elements of an array are passed over. All elements of an
array have to be of one form.
-/

namespace ClassAtlas.Settings

open ClassAtlas.Text

/-- The forms of values that an array may not mix. -/
inductive Form where
  | truth
  | integer
  | decimal
  | text
  | array
  | inlineTable
deriving DecidableEq

/-! ## Quotations -/

/-- Drops the first and the last character. -/
def inner (cs : List Char) : List Char :=
  (cs.drop 1).dropLast

/-- Reads so many hexadecimal digits of a character. -/
def codePoint? (width : Nat) (cs : List Char) : Option Char :=
  let digits := cs.take width
  let n := ofHex digits
  if !digits.isEmpty && digits.all (fun c => (hexDigit? c).isSome) && n.isValidChar then
    some (Char.ofNat n)
  else none

/-- The character that a letter behind a backslash stands for. -/
def escape? : Char → Option Char
  | '0' => some (Char.ofNat 0)
  | 'b' => some (Char.ofNat 8)
  | 'f' => some (Char.ofNat 12)
  | 'n' => some '\n'
  | 'r' => some '\r'
  | 't' => some '\t'
  | '"' => some '"'
  | '\\' => some '\\'
  | _ => none

/-- Replaces what stands behind backslashes; `skip` characters have been used up already. -/
def unescape (skip : Nat) : List Char → Option (List Char)
  | [] => some []
  | '\\' :: c :: rest =>
    if skip > 0 then unescape (skip - 1) (c :: rest)
    else match escape? c with
      | some e => (unescape 1 (c :: rest)).map (e :: ·)
      | none =>
        let width := if c == 'u' then 4 else if c == 'U' then 8 else 0
        match codePoint? width rest with
        | some e => (unescape (1 + (rest.take width).length) (c :: rest)).map (e :: ·)
        | none => none
  | c :: rest => if skip > 0 then unescape (skip - 1) rest else (unescape 0 rest).map (c :: ·)

/-- Is there nothing behind the end of a quotation? The pieces are those between its marks; `empty`
counts the empty ones in a row if the quotation is a long one. -/
def endsOnce (long : Bool) (empty : Nat) (closed : Bool) : List (List Char) → Bool
  | [] => true
  | [] :: rest => if long then endsOnce long (empty + 1) closed rest else endsOnce long empty true rest
  | piece :: rest =>
    if oddBackslashes piece.reverse then endsOnce long empty closed rest
    else if closed then false
    else if long && empty ≤ 1 then endsOnce long 0 closed rest
    else endsOnce long empty true rest

/-- The text of a quotation. -/
def quotation? (mark : Char) (cs : List Char) : Option String :=
  let pieces := (cs.drop 1).splitOn mark
  let long := pieces.length > 1 && pieces.head? == some [] && pieces[1]? == some []
  if !endsOnce long 0 false (if long then pieces.drop 2 else pieces) then none
  else do
    let plain ← if mark == '"' then unescape 0 cs else some cs
    let plain := if plain[1]? == some mark && (plain.length < 3 || plain[2]? == some mark) then
      (plain.drop 2).dropLast.dropLast else plain
    return String.ofList (inner plain)

/-! ## Numbers -/

/-- Are there two underscores in a row? -/
def hasDoubleUnderscore : List Char → Bool
  | '_' :: '_' :: _ => true
  | _ :: rest => hasDoubleUnderscore rest
  | [] => false

/-- Does the text keep to the rules on leading zeros and underscores? -/
def isTidyNumber (cs : List Char) : Bool :=
  let cs := strip cs
  let unsigned := if cs.head? == some '+' || cs.head? == some '-' then cs.drop 1 else cs
  !cs.isEmpty && cs.head? != some '_' && cs.getLast? != some '_'
    && (cs.length == 1
      || !(cs.head? == some '0' && !(cs[1]?.any fun c => ['.', 'o', 'b', 'x'].contains c))
        && !(unsigned.length != cs.length && unsigned.length > 1 && unsigned.head? == some '0'
          && unsigned[1]? != some '.')
        && !hasDoubleUnderscore cs)

/-- The value of digits in a base up to sixteen. -/
def digits? (base : Nat) (cs : List Char) : Option Nat :=
  if cs.isEmpty then none
  else cs.foldlM (fun n c => do
    let d ← hexDigit? c
    if d < base then some (base * n + d) else none) 0

/-- A natural number, maybe with the mark of its base in front. -/
def natural? : List Char → Option Nat
  | '0' :: mark :: rest =>
    if mark == 'x' || mark == 'X' then digits? 16 rest
    else if mark == 'o' || mark == 'O' then digits? 8 rest
    else if mark == 'b' || mark == 'B' then digits? 2 rest
    else (digits? 10 (mark :: rest)).bind fun n => if n = 0 then some 0 else none
  | cs => digits? 10 cs

/-- A number with a point. -/
def decimal? (cs : List Char) : Option (Nat × Nat) :=
  match cs.splitOn '.' with
  | [whole, places] =>
    if whole.isEmpty || places.isEmpty then none
    else (digits? 10 (whole ++ places)).map fun mantissa => (mantissa, places.length)
  | _ => none

/-- A number with its form. -/
def number? (cs : List Char) : Option (Form × Document) :=
  let negative := cs.head? == some '-'
  let unsigned := (if negative || cs.head? == some '+' then cs.drop 1 else cs).filter (· != '_')
  let sign : Int := if negative then -1 else 1
  match natural? unsigned with
  | some n => some (.integer, .integer (sign * n))
  | none => (decimal? unsigned).map fun (mantissa, places) =>
      (.decimal, .decimal (sign * mantissa) places)

/-! ## Parts of arrays and tables -/

/-- Does a quotation end where the piece ends? -/
def isBounded (cs : List Char) : Bool :=
  match cs, cs.getLast? with
  | [], _ => true
  | first :: _, some last => first == last && !oddBackslashes (cs.dropLast.drop 1).reverse
  | _, none => true

/-- Has a long quotation been opened and not closed? -/
def isOpenLong (cs : List Char) : Bool :=
  match cs with
  | a :: b :: c :: _ =>
    a == b && b == c && cs.reverse[1]? != some a && cs.reverse[2]? != some a
  | _ => false

/-- Puts pieces of quotations together that were cut at a comma inside. -/
def mend : List (List Char) → List (List Char)
  | piece :: next :: rest =>
    let stripped := strip piece
    if !isBounded stripped || isOpenLong stripped then mend ((piece ++ ',' :: next) :: rest)
    else piece :: mend (next :: rest)
  | pieces => pieces
termination_by pieces => pieces.length

/-- Cuts at the commas that are in no inner brackets. -/
def cutOutside (depth : Int) : List Char → List (List Char)
  | [] => [[]]
  | c :: rest =>
    if c == ',' && depth == 0 then [] :: cutOutside 0 rest
    else
      let depth := if c == '[' then depth + 1 else if c == ']' then depth - 1 else depth
      match cutOutside depth rest with
      | [] => [[c]]
      | piece :: pieces => (c :: piece) :: pieces

/-- The inline tables of an array. `group` is the one that is being read, in reverse, at the given depth
of braces; `quoted` tells whether a quotation is open. -/
def braceGroups (group : List Char) (depth : Nat) (quoted : Bool) : List Char → List (List Char)
  | [] => []
  | c :: rest =>
    let quoted' := if isQuote c && depth > 0 && !(quoted && oddBackslashes group) then !quoted else quoted
    if depth = 0 then
      if c == '\x7b' then braceGroups [c] 1 false rest else braceGroups [] 0 false rest
    else if quoted' then braceGroups (c :: group) depth true rest
    else if c == '\x7b' then braceGroups (c :: group) (depth + 1) false rest
    else if c == '\x7d' then
      if depth = 1 then (c :: group).reverse :: braceGroups [] 0 false rest
      else braceGroups (c :: group) (depth - 1) false rest
    else braceGroups (c :: group) depth false rest

/-- The texts of the elements of an array. -/
def elementTexts (cs : List Char) : List (List Char) :=
  let content := inner cs
  let stripped := strip content
  if stripped.head? == some '[' then cutOutside 0 content
  else if stripped.head? == some '\x7b' then braceGroups [] 0 false (cs.drop 1)
  else if stripped.head?.any isQuote then mend (content.splitOn ',')
  else content.splitOn ','

/-- Does the text look like the whole value of an entry? -/
def isWholeValue (cs : List Char) : Bool :=
  match cs.head?, cs.getLast? with
  | some a, some z =>
    (a == z && isQuote a) || a == '-' || a.isDigit || cs == "true".toList || cs == "false".toList
      || (a == '[' && z == ']') || (a == '\x7b' && z == '\x7d')
  | _, _ => false

/-- The texts of the entries of an inline table: what was cut at a comma inside of a value is put
together again. -/
def entryTexts : List (List Char) → Option (List (List Char))
  | [] => some []
  | piece :: rest =>
    if !piece.contains '=' then none
    else if isWholeValue (strip ((piece.dropWhile (· != '=')).drop 1)) then
      (entryTexts rest).map (piece :: ·)
    else match rest with
      | next :: more => entryTexts ((piece ++ ',' :: next) :: more)
      | [] => none
termination_by pieces => pieces.length

/-- The texts of the entries of an inline table in braces. -/
def inlineEntries (cs : List Char) : Option (List (List Char)) :=
  match (inner cs).splitOn ',' with
  | [only] => if (strip only).isEmpty then some [] else entryTexts [only]
  | pieces => entryTexts pieces

/-! ## Keys and entries -/

/-- The parts of a text between its quotation marks: every second one is quoted. -/
def quoteParts (cs : List Char) : List (List Char) :=
  go none [] cs
where
  /-- Reads on behind `mark`, the open quotation mark, with the part so far in reverse. -/
  go (mark : Option Char) (part : List Char) : List Char → List (List Char)
    | [] => [part.reverse]
    | c :: rest =>
      if mark == some c then part.reverse :: go none [] rest
      else if mark.isNone && isQuote c then part.reverse :: go (some c) [] rest
      else go mark (c :: part) rest

/-- Cuts at the first separator that is not quoted; gives what stands in front and behind. -/
def splitUnquoted (sep : Char) (mark : Option Char) (front : List Char) :
    List Char → Option (List Char × List Char)
  | [] => none
  | c :: rest =>
    if mark.isNone && c == sep then some (front.reverse, rest)
    else
      let mark := if mark == some c then none else if mark.isNone && isQuote c then some c else mark
      splitUnquoted sep mark (c :: front) rest

/-- Takes parts in turn as bare and quoted; bare ones are cut at their dots. -/
def keyLevels (quoted : Bool) : List (List Char) → List (List Char)
  | [] => []
  | part :: rest =>
    (if quoted then [part] else (part.splitOn '.').map strip) ++ keyLevels (!quoted) rest

/-- The names along a key: those of the tables, and the last one. -/
def keyNames? (key : List Char) : Option (List String × String) :=
  if key.contains '.' then
    let levels := if key.any isQuote then keyLevels false (quoteParts key) else key.splitOn '.'
    let kept := (levels.reverse.dropWhile (·.isEmpty)).reverse
    match kept.getLast? with
    | none => none
    | some last =>
      some ((kept.dropLast.filter (!·.isEmpty)).map String.ofList, String.ofList (strip last))
  else if key.head? == key.getLast? && key.head?.any isQuote then
    some ([], String.ofList (inner key))
  else some ([], String.ofList key)

/-- A key and the text of its value. -/
structure Entry where
  tables : List String
  name : String
  value : List Char
  /-- May the value be a number? -/
  tidy : Bool

/-- Cuts a line at its equals sign. A value that directly follows it and is no quotation, array, table
or truth value has to be a number. -/
def entry? (line : List Char) : Option Entry := do
  let (key, value) ← splitUnquoted '=' none [] line
  let stripped := strip value
  let bare := match value with
    | [] => false
    | c :: _ => !(isBlank c || isQuote c || c == '[' || c == '\x7b'
        || stripped == "true".toList || stripped == "false".toList)
  let wholeNumber := (digits? 10 (stripped.filter fun c => c != '_' && c != '-' && c != '+')).isSome
  if bare && !wholeNumber && (decimal? stripped).isNone then none
  else do
    let (tables, name) ← keyNames? (strip key)
    return { tables, name, value := stripped, tidy := isTidyNumber value }

/-! ## Adding to tables -/

/-- Adds an entry at the end of a table. -/
def addEntry (name : String) (d : Document) : Document → Option Document
  | .table entries =>
    if entries.any (·.1 == name) then none else some (.table (entries ++ [(name, d)]))
  | _ => none

/-- Changes the entry of a name. -/
def changeEntry (name : String) (f : Document → Option Document) :
    List (String × Document) → Option (List (String × Document))
  | [] => none
  | (key, d) :: rest =>
    if key == name then (f d).map fun d => (key, d) :: rest
    else (changeEntry name f rest).map ((key, d) :: ·)

/-- Changes the table at the end of names, which are made tables where they are missing. -/
def changeBelow (f : Document → Option Document) : List String → Document → Option Document
  | [], d => f d
  | name :: rest, .table entries =>
    if entries.any (·.1 == name) then
      (changeEntry name (changeBelow f rest) entries).map .table
    else (changeBelow f rest Document.empty).map fun d => .table (entries ++ [(name, d)])
  | _, _ => none

/-! ## Values -/

/-- Puts values that are all of one form into an array. -/
def arrayOf? : List (Form × Document) → Option Document
  | [] => some (.list [])
  | (form, d) :: rest =>
    if rest.all (·.1 = form) then some (.list (d :: rest.map (·.2))) else none

/-- Reads a value; `tidy` tells whether it may be a number, and `fuel` bounds how deep values lie in one
another. -/
def value? (fuel : Nat) (tidy : Bool) (cs : List Char) : Option (Form × Document) :=
  match fuel with
  | 0 => none
  | fuel + 1 =>
    match cs with
    | [] => none
    | c :: _ =>
      if cs == "true".toList then some (.truth, .bool true)
      else if cs == "false".toList then some (.truth, .bool false)
      else if isQuote c then (quotation? c cs).map fun s => (.text, .text s)
      else if c == '[' then do
        let texts := ((elementTexts cs).map strip).filter (!·.isEmpty)
        return (.array, ← arrayOf? (← texts.mapM (value? fuel true)))
      else if c == '\x7b' then do
        let texts ← inlineEntries cs
        let table ← texts.foldlM (fun table text => do
          let entry ← entry? text
          let (_, d) ← value? fuel entry.tidy entry.value
          changeBelow (addEntry entry.name d) entry.tables table) Document.empty
        return (.inlineTable, table)
      else if tidy then number? cs
      else none

/-- Reads a value. -/
def readValue? (tidy : Bool) (cs : List Char) : Option Document :=
  (value? (cs.length + 1) tidy cs).map (·.2)

end ClassAtlas.Settings
