import ClassAtlas.Fault
import ClassAtlas.Settings.Value

/-!
# Reading settings

Reads the plain part of the format: tables and arrays of tables, dotted names, texts, whole numbers, numbers
with a point, truth values, arrays and inline tables. Other values, such as dates and numbers with an exponent,
are refused. A run does not depend on this reader, which only the program gives to it.

The lines of a settings file are read in turn. A heading names the table that the lines below it add to,
a doubled heading adds a new table to an array of tables. A table may be named once, but for one that was
only passed on the way to another; no key is given twice.
-/

namespace ClassAtlas.Settings

/-- The state of reading. -/
structure Reader where
  root : Document := .empty
  /-- The names that lead to the table that lines add to. -/
  place : List String := []
  /-- Names of tables that were only passed on the way to another. -/
  passed : List String := []
  /-- The name and the text so far of a long quotation that goes on over lines, and whether its last line
  end is taken back. -/
  pending : Option (String × List Char × Bool) := none

/-! ## Tables -/

/-- Changes the last element of a list, or the value itself if it is no list. -/
def changeLast (f : Document → Option Document) : Document → Option Document
  | .list items =>
    match items.getLast? with
    | some last => (f last).map fun d => .list (items.dropLast ++ [d])
    | none => none
  | d => f d

/-- Changes the table that names lead to; of an array of tables the last one is meant. -/
def changeAt (f : Document → Option Document) : List String → Document → Option Document
  | [] => changeLast f
  | name :: rest => changeLast fun d =>
    match d with
    | .table entries => (changeEntry name (changeAt f rest) entries).map .table
    | _ => none

/-- Adds a table, or an array with one table in it. -/
def newTable (doubled : Bool) : Document :=
  if doubled then .list [.empty] else .empty

/-- Goes along the names of a heading, and makes the tables that are missing. Gives the document and the
names that were only passed. -/
def openTable (doubled : Bool) (passed : List String) :
    List String → Document → Option (Document × List String)
  | [], d => some (d, passed)
  | name :: rest, .table entries =>
    if entries.any (·.1 == name) then
      if rest.isEmpty then
        if passed.contains name then
          if doubled then none else some (.table entries, passed.erase name)
        else if doubled then
          (changeEntry name (fun
            | .list items => some (.list (items ++ [.empty]))
            | _ => none) entries).map fun entries => (.table entries, passed)
        else none
      else do
        let found ← entries.lookup name
        let (d, passed) ← openTable doubled passed rest found
        let entries ← changeEntry name (fun _ => some d) entries
        return (.table entries, passed)
    else if rest.isEmpty then some (.table (entries ++ [(name, newTable doubled)]), passed)
    else do
      let (d, passed) ← openTable doubled (passed ++ [name]) rest .empty
      return (.table (entries ++ [(name, d)]), passed)
  | name :: rest, .list items =>
    match items.getLast? with
    | some (.table entries) =>
      if entries.any (·.1 == name) then
        if rest.isEmpty then some (.list items, passed)
        else do
          let found ← entries.lookup name
          let (d, passed) ← openTable doubled passed rest found
          let entries ← changeEntry name (fun _ => some d) entries
          return (.list (items.dropLast ++ [.table entries]), passed)
      else if rest.isEmpty then
        some (.list (items.dropLast ++ [.table (entries ++ [(name, newTable doubled)])]), passed)
      else do
        let (d, passed) ← openTable doubled passed rest .empty
        return (.list (items.dropLast ++ [.table (entries ++ [(name, d)])]), passed)
    | _ => none
  | _, _ => none

/-- Is the character one of a bare name in a heading? -/
def isHeadingChar (c : Char) : Bool :=
  c.isAlphanum || c == '_' || c == '-'

/-- The names of a heading, from the parts of it that are in turn bare and quoted. Around a quoted name
there is nothing but dots. -/
def headingParts (first : Bool) : List (List Char) → Option (List String)
  | [] => some []
  | [bare] =>
    let pieces := (bare.splitOn '.').map strip
    let pieces := if first then pieces else pieces.drop 1
    if pieces.all (fun p => !p.isEmpty && p.all isHeadingChar) then some (pieces.map String.ofList)
    else none
  | bare :: quoted :: rest =>
    let pieces := (bare.splitOn '.').map strip
    let pieces := (if first then pieces else pieces.drop 1).dropLast
    let isClean := (bare.splitOn '.').getLast?.any (fun p => (strip p).isEmpty)
      && (first || (bare.splitOn '.').head?.any (fun p => (strip p).isEmpty))
    if isClean && !quoted.isEmpty && pieces.all (fun p => !p.isEmpty && p.all isHeadingChar) then
      (headingParts false rest).map (pieces.map String.ofList ++ String.ofList quoted :: ·)
    else none

/-- Finds the bracket that closes a heading; gives what stands in front of it and behind. -/
def closeHeading (doubled : Bool) (mark : Option Char) (front : List Char) :
    List Char → Option (List Char × List Char)
  | [] => none
  | c :: rest =>
    if mark.isNone && c == ']' && !doubled then some (front.reverse, rest)
    else if mark.isNone && c == ']' && rest.head? == some ']' then some (front.reverse, rest.drop 1)
    else
      let mark := if mark == some c then none else if mark.isNone && isQuote c then some c else mark
      closeHeading doubled mark (c :: front) rest

/-- Reads a heading. -/
def Reader.heading (r : Reader) (line : List Char) : Option Reader := do
  let doubled := (line.drop 1).head? == some '['
  let (front, behind) ← closeHeading doubled none [] (line.drop (if doubled then 2 else 1))
  if !(strip behind).isEmpty then none
  else do
    let names ← headingParts true (quoteParts front)
    let (root, passed) ← openTable doubled r.passed names r.root
    return { r with root := root, passed := passed, place := names }

/-! ## Entries -/

/-- Does the text open a long quotation that is not closed in it? -/
def opensLong (cs : List Char) : Bool :=
  match cs with
  | a :: b :: c :: _ =>
    let reversed := cs.reverse
    isQuote a && a == b && a == c
      && !(cs.length > 5 && reversed[0]? == some a && reversed[1]? == some a && reversed[2]? == some a)
  | _ => false

/-- Takes a line end behind the text of a long quotation, or takes a backslash at its end back. -/
def continued (name : String) (text : List Char) : String × List Char × Bool :=
  if oddBackslashes text.reverse then (name, text.dropLast, true) else (name, text ++ ['\n'], false)

/-- Adds an entry to the table at the place. -/
def Reader.add (r : Reader) (tables : List String) (name : String) (d : Document) : Option Reader := do
  return { r with root := ← changeAt (changeBelow (addEntry name d) tables) r.place r.root }

/-- Reads a line with a key. -/
def Reader.entry (r : Reader) (line : List Char) : Option Reader := do
  let e ← entry? line
  if opensLong e.value then
    return { r with pending := some (continued e.name e.value) }
  else r.add e.tables e.name (← readValue? e.tidy e.value)

/-- Reads one more line of a long quotation. -/
def Reader.goOn (r : Reader) (name : String) (text line : List Char) : Option Reader := do
  let text := text ++ line
  let mark := text.head?
  let reversed := line.reverse
  if line.length > 2 && reversed[0]? == mark && reversed[1]? == mark && reversed[2]? == mark then
    let value ← readValue? true text
    Reader.add { r with pending := none } [] name value
  else return { r with pending := some (continued name text) }

/-- Reads a line. -/
def Reader.line (r : Reader) (line : List Char) : Option Reader :=
  match r.pending with
  | some (name, text, joined) =>
    let line := if joined || !text.contains '\n' then strip line else line
    if line.isEmpty && joined then some r else r.goOn name text line
  | none =>
    let line := strip line
    match line with
    | [] => some r
    | '[' :: _ => r.heading line
    | '\x7b' :: _ => do
      (← inlineEntries line).foldlM (fun (r : Reader) text => r.entry text) r
    | _ => if line.contains '=' then r.entry line else some r

/-- The report on a text that cannot be read as settings. -/
def unreadable : String := "invalid toml (line 1 column 1 char 0)"

/-- Reads settings. -/
def read (text : String) : Except Fault Document :=
  let document := do
    let lines ← lines? text.toList
    let r ← lines.foldlM (fun (r : Reader) line => r.line line) {}
    return r.root
  match document with
  | some d => .ok d
  | none => .error (.invalidConfiguration unreadable)

end ClassAtlas.Settings
