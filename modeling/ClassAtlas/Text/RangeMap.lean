/-!
# Tables of code point ranges

A table sends ascending, disjoint ranges of code points to values; looking up a code point gives the
value of its range and how far into the range it lies. Tables are written as text, one word a range:
`41-5a 5f 61-7a`, or with values `41-5a=61`.
-/

namespace ClassAtlas.Text

/-! ## Hexadecimal numbers -/

/-- The value of a hexadecimal digit, in either case. -/
def hexDigit? (c : Char) : Option Nat :=
  if '0' ≤ c && c ≤ '9' then some (c.toNat - '0'.toNat)
  else if 'a' ≤ c && c ≤ 'f' then some (c.toNat - 'a'.toNat + 10)
  else if 'A' ≤ c && c ≤ 'F' then some (c.toNat - 'A'.toNat + 10)
  else none

/-- Reads hexadecimal digits, most significant first; any other character counts as zero. -/
def ofHex (digits : List Char) : Nat :=
  digits.foldl (fun n c => 16 * n + (hexDigit? c).getD 0) 0

/-- The lower-case digits of a number in base sixteen. -/
def hexDigits (n : Nat) : List Char :=
  Nat.toDigits 16 n

/-- Hexadecimal digits filled up with zeros on the left to a width. -/
def hexPadded (width n : Nat) : List Char :=
  let digits := hexDigits n
  List.replicate (width - digits.length) '0' ++ digits

/-! ## Tables -/

/-- Ascending, disjoint ranges of code points (both ends included) with a value each. -/
structure RangeMap (β : Type) where
  entries : Array (Nat × Nat × β)

namespace RangeMap

/-- Finds the entry of `n` among those at the positions from `lo` up to `hi`. -/
def search {β : Type} (entries : Array (Nat × Nat × β)) (n lo hi : Nat) : Option (Nat × β) :=
  if lo < hi then
    let mid := (lo + hi) / 2
    match entries[mid]? with
    | none => none
    | some (first, last, value) =>
      if n < first then search entries n lo mid
      else if last < n then search entries n (mid + 1) hi
      else some (n - first, value)
  else none
termination_by hi - lo
decreasing_by all_goals omega

/-- The offset of `n` in its range, and the value of that range. -/
def find? {β : Type} (table : RangeMap β) (n : Nat) : Option (Nat × β) :=
  search table.entries n 0 table.entries.size

/-- Does `n` lie in a range of the table? -/
def contains {β : Type} (table : RangeMap β) (n : Nat) : Bool :=
  (table.find? n).isSome

/-- The words of a text between blanks and line ends. -/
def words (text : String) : List String :=
  ((text.replace "\n" " ").splitOn " ").filter (· != "")

/-- Reads a range `a-b`, or a single code point `a`. -/
def readRange (word : String) : Nat × Nat :=
  match word.splitOn "-" with
  | [first, last] => (ofHex first.toList, ofHex last.toList)
  | _ => (ofHex word.toList, ofHex word.toList)

/-- Reads a table of ranges without values. -/
def ofRanges (text : String) : RangeMap Unit :=
  ⟨((words text).map fun word =>
    let (first, last) := readRange word
    (first, last, ())).toArray⟩

/-- Reads a table whose values are numbers joined by `+`. -/
def ofEntries (text : String) : RangeMap (List Nat) :=
  ⟨((words text).map fun word =>
    match word.splitOn "=" with
    | [range, value] =>
      let (first, last) := readRange range
      (first, last, (value.splitOn "+").map fun part => ofHex part.toList)
    | _ => (0, 0, [])).toArray⟩

end RangeMap

end ClassAtlas.Text
