import ClassAtlas.Number.Binary
import ClassAtlas.Text.RangeMap

/-!
# Number literals

A literal is a whole number in base 2, 8, 10 or 16, a number with a fraction or an exponent, or either
of the latter two with the letter `j` for an imaginary number. Digits may be grouped by single
underscores. A decimal whole number other than zero has no zero in front, and at most 4300 digits.
-/

namespace ClassAtlas.Source

open ClassAtlas.Number ClassAtlas.Text

/-- The value of a number literal. -/
inductive Numeral where
  | whole (n : Nat)
  | real (b : Binary)
  | imaginary (b : Binary)

/-- May `c` be part of a name? Above ASCII every character may, until the whole name is checked. -/
def isNameChar (c : Char) : Bool :=
  c.isAlphanum || c == '_' || 0x80 ≤ c.toNat

namespace Numeral

/-- Takes digits, each underscore of which stands between two. -/
def digitsAfter (isDigit : Char → Bool) : List Char → Option (List Char × List Char)
  | [] => some ([], [])
  | '_' :: rest =>
    match rest with
    | c :: _ => if isDigit c then digitsAfter isDigit rest else none
    | [] => none
  | c :: rest =>
    if isDigit c then (digitsAfter isDigit rest).map fun (ds, r) => (c :: ds, r)
    else some ([], c :: rest)

/-- The words that may follow a number without a blank. -/
def followers : List (List Char) :=
  ["and", "else", "for", "if", "in", "is", "or", "not"].map String.toList

/-- May a number end here? -/
def endsBefore (rest : List Char) : Bool :=
  followers.any (·.isPrefixOf rest) || !(rest.head?.map isNameChar).getD false

/-- Reads the digits of a number in a base. -/
def ofDigits (base : Nat) (digits : List Char) : Nat :=
  digits.foldl (fun n c => base * n + (hexDigit? c).getD 0) 0

/-- A whole number in another base, after its mark. -/
def inBase (base : Nat) (isDigit : Char → Bool) (rest : List Char) : Option (Numeral × List Char) :=
  match digitsAfter isDigit rest with
  | some (d :: ds, after) =>
    if endsBefore after then some (.whole (ofDigits base (d :: ds)), after) else none
  | _ => none

/-- The exponent after the letter `e`, if digits follow. A sign without digits is refused. -/
def exponent? (rest : List Char) : Option (Option (Int × List Char)) :=
  match rest with
  | s :: c :: more =>
    if s == '+' || s == '-' then
      if c.isDigit then
        match digitsAfter Char.isDigit (c :: more) with
        | some (ds, after) =>
          let n : Int := ofDigits 10 ds
          some (some (if s == '-' then -n else n, after))
        | none => none
      else none
    else if s.isDigit then
      match digitsAfter Char.isDigit (s :: c :: more) with
      | some (ds, after) => some (some (ofDigits 10 ds, after))
      | none => none
    else some none
  | [c] =>
    if c.isDigit then some (some (ofDigits 10 [c], []))
    else if c == '+' || c == '-' then none
    else some none
  | [] => some none

/-- Ends a number with a fraction or an exponent: `digits · 10 ^ scale`, perhaps imaginary. -/
def finishReal (digits : List Char) (scale : Int) (rest : List Char) : Option (Numeral × List Char) :=
  let value := Binary.ofDecimal (ofDigits 10 digits) scale
  match rest with
  | c :: after =>
    if c == 'j' || c == 'J' then
      if endsBefore after then some (.imaginary value, after) else none
    else if endsBefore rest then some (.real value, rest) else none
  | [] => some (.real value, [])

/-- Goes on after the digits in front of the exponent. -/
def afterFraction (digits : List Char) (scale : Int) (rest : List Char) :
    Option (Numeral × List Char) :=
  match rest with
  | c :: more =>
    if c == 'e' || c == 'E' then
      match exponent? more with
      | none => none
      | some none => if endsBefore rest then finishReal digits scale rest else none
      | some (some (e, after)) => finishReal digits (scale + e) after
    else finishReal digits scale rest
  | [] => finishReal digits scale []

/-- Goes on after the point of a number. -/
def afterPoint (digits : List Char) (rest : List Char) : Option (Numeral × List Char) :=
  match rest with
  | c :: _ =>
    if c.isDigit then
      match digitsAfter Char.isDigit rest with
      | some (fraction, after) => afterFraction (digits ++ fraction) (-(fraction.length : Int)) after
      | none => none
    else afterFraction digits 0 rest
  | [] => afterFraction digits 0 []

/-- A decimal whole number: no zero in front of other digits, and not too many of them. -/
def finishWhole (digits : List Char) (rest : List Char) : Option (Numeral × List Char) :=
  let padded := digits.head? == some '0' && digits.any (· != '0')
  if padded || 4300 < digits.length || !endsBefore rest then none
  else some (.whole (ofDigits 10 digits), rest)

/-- A number that starts with a decimal digit. -/
def decimal (cs : List Char) : Option (Numeral × List Char) :=
  match digitsAfter Char.isDigit cs with
  | none => none
  | some (digits, rest) =>
    match rest with
    | '.' :: more => afterPoint digits more
    | c :: more =>
      if c == 'j' || c == 'J' then finishReal digits 0 rest
      else if c == 'e' || c == 'E' then
        match exponent? more with
        | none => none
        | some none => finishWhole digits rest
        | some (some (e, after)) => finishReal digits e after
      else finishWhole digits rest
    | [] => finishWhole digits []

/-- Reads the number literal at the head of a text, which starts with a digit, or with a point and a
digit. -/
def scan (cs : List Char) : Option (Numeral × List Char) :=
  match cs with
  | '.' :: rest => afterPoint [] rest
  | '0' :: m :: rest =>
    if m == 'x' || m == 'X' then inBase 16 (fun c => (hexDigit? c).isSome) rest
    else if m == 'o' || m == 'O' then inBase 8 (fun c => '0' ≤ c && c ≤ '7') rest
    else if m == 'b' || m == 'B' then inBase 2 (fun c => c == '0' || c == '1') rest
    else decimal cs
  | _ => decimal cs

end Numeral

end ClassAtlas.Source
