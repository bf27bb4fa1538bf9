import Std.Data.HashMap
import ClassAtlas.Text.CompatibilityTable

/-!
# Compatibility composition

Identifiers that look alike are the same identifier: each is taken apart into its compatibility
decomposition, its marks are put into canonical order, and the result is composed again (the
normalisation form NFKC). Text in ASCII is its own normal form.
-/

namespace ClassAtlas.Text

/-! ## Hangul syllables

A syllable is one of 19 leads, 21 vowels and 28 tails (the first of which is no tail), in this
order. -/

/-- The first syllable, lead, vowel and tail. -/
def syllableBase : Nat := 0xac00
/-- The first leading consonant. -/
def leadBase : Nat := 0x1100
/-- The first vowel. -/
def vowelBase : Nat := 0x1161
/-- The code point before the first trailing consonant. -/
def tailBase : Nat := 0x11a7
/-- The number of syllables. -/
def syllableCount : Nat := 19 * 21 * 28

/-- Takes a syllable apart. -/
def decomposeSyllable (n : Nat) : List Nat :=
  let index := n - syllableBase
  let lead := leadBase + index / (21 * 28)
  let vowel := vowelBase + index % (21 * 28) / 28
  let tail := tailBase + index % 28
  if tail = tailBase then [lead, vowel] else [lead, vowel, tail]

/-- Composes a lead with a vowel, or a syllable without a tail with a tail. -/
def composeSyllable? (a b : Nat) : Option Nat :=
  if leadBase ≤ a && a < leadBase + 19 && vowelBase ≤ b && b < vowelBase + 21 then
    some (syllableBase + ((a - leadBase) * 21 + (b - vowelBase)) * 28)
  else if syllableBase ≤ a && a < syllableBase + syllableCount && (a - syllableBase) % 28 == 0
      && tailBase < b && b < tailBase + 28 then
    some (a + (b - tailBase))
  else none

/-! ## Decomposition and order -/

/-- The full compatibility decomposition of one code point. -/
def decompose (n : Nat) : List Nat :=
  if n < 0x80 then [n]
  else if syllableBase ≤ n && n < syllableBase + syllableCount then decomposeSyllable n
  else match decompositionTable.find? n with
    | some (offset, [target]) => [target + offset]
    | some (_, targets) => targets
    | none => [n]

/-- The canonical combining class; zero for a character that stands on its own. -/
def combiningClass (n : Nat) : Nat :=
  if n < 0x80 then 0
  else match combiningTable.find? n with
    | some (_, [c]) => c
    | _ => 0

/-- Puts a mark behind all marks of its class or a lower one, never across a base character. -/
def insertMark (n : Nat) : List Nat → List Nat
  | [] => [n]
  | m :: rest =>
    if combiningClass n < combiningClass m then m :: insertMark n rest else n :: m :: rest

/-- Canonical order of a decomposed text. The list is built from its end, so that a mark moves
left over the marks of higher classes in front of it. -/
def canonicalOrder (ns : List Nat) : List Nat :=
  (ns.foldl (fun reversed n =>
    if combiningClass n = 0 then n :: reversed else insertMark n reversed) []).reverse

/-! ## Composition -/

/-- What each pair composes to. -/
def compositionTable : Std.HashMap (Nat × Nat) Nat :=
  (compositionEntries.splitOn " ").foldl (fun table word =>
    match word.splitOn "=" with
    | [pair, whole] =>
      match pair.splitOn "+" with
      | [a, b] => table.insert (ofHex a.toList, ofHex b.toList) (ofHex whole.toList)
      | _ => table
    | _ => table) {}

/-- The one character that two compose to. -/
def compose? (a b : Nat) : Option Nat :=
  match composeSyllable? a b with
  | some whole => some whole
  | none => compositionTable[(a, b)]?

/-- Composes a text in canonical order. `base` is the last character that stands on its own, `marks`
are the marks kept after it in reverse, and `done` is what came before, reversed. A mark composes
with the base unless a kept mark of the same or a higher class stands between them. -/
def composeFrom (base : Nat) (marks done : List Nat) : List Nat → List Nat
  | [] => (marks ++ base :: done).reverse
  | n :: rest =>
    let cls := combiningClass n
    let blocked := match marks with
      | [] => false
      | m :: _ => cls ≤ combiningClass m
    match if blocked then none else compose? base n with
    | some whole => composeFrom whole marks done rest
    | none =>
      if cls = 0 then composeFrom n [] (marks ++ base :: done) rest
      else composeFrom base (n :: marks) done rest

/-- Composes a text in canonical order; marks in front of the first base character stay. -/
def composeAll (ns : List Nat) : List Nat :=
  let leading := ns.takeWhile (combiningClass · ≠ 0)
  match ns.dropWhile (combiningClass · ≠ 0) with
  | [] => leading
  | base :: rest => leading ++ composeFrom base [] [] rest

/-- The compatibility normal form of a text. -/
def normalize (s : String) : String :=
  let cs := s.toList
  if cs.all (·.toNat < 0x80) then s
  else
    let decomposed := cs.flatMap fun c => decompose c.toNat
    String.ofList ((composeAll (canonicalOrder decomposed)).map Char.ofNat)

end ClassAtlas.Text
