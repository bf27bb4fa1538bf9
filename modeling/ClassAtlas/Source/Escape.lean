import ClassAtlas.Text.RangeMap

/-!
# Escapes in string literals

A backslash in a literal stands for another character together with what follows it. A backslash in
front of a line end stands for nothing; in front of a character without a meaning it stands for
itself. An escape that asks for digits and does not get them is refused.
-/

namespace ClassAtlas.Source.Escape

open ClassAtlas.Text

/-- The characters that one letter after a backslash stands for. -/
def simple? (c : Char) : Option Char :=
  match c with
  | '\\' => some '\\'
  | '\'' => some '\''
  | '"' => some '"'
  | 'a' => some '\x07'
  | 'b' => some '\x08'
  | 'f' => some '\x0c'
  | 'n' => some '\n'
  | 'r' => some '\r'
  | 't' => some '\t'
  | 'v' => some '\x0b'
  | _ => none

/-- Is `c` an octal digit? -/
def isOctal (c : Char) : Bool :=
  '0' ≤ c && c ≤ '7'

/-- Takes up to `count` octal digits. -/
def octal (count : Nat) (cs : List Char) : Nat × List Char :=
  let digits := (cs.take count).takeWhile isOctal
  (digits.foldl (fun n c => 8 * n + (c.toNat - '0'.toNat)) 0, cs.drop digits.length)

/-- Takes exactly `count` hexadecimal digits. -/
def hex? (count : Nat) (cs : List Char) : Option (Nat × List Char) :=
  let digits := cs.take count
  if digits.length == count && digits.all (fun c => (hexDigit? c).isSome) then
    some (ofHex digits, cs.drop count)
  else none

/-- May `c` stand in the name of a character? -/
def isNamePart (c : Char) : Bool :=
  c.isAlphanum || c == ' ' || c == '-'

/-- The name in braces of a named character: what is left after it. Which character a name stands
for is not looked up; the replacement character stands for it. -/
def named? (cs : List Char) : Option (List Char) :=
  match cs with
  | '\x7b' :: rest =>
    match rest.takeWhile isNamePart, rest.dropWhile isNamePart with
    | _ :: _, '\x7d' :: after => some after
    | _, _ => none
  | _ => none

/-- Replaces the escapes of a text. The first argument bounds the number of steps. -/
def decodeText : Nat → List Char → Option (List Char)
  | 0, _ => some []
  | _, [] => some []
  | fuel + 1, '\\' :: rest =>
    match rest with
    | [] => some ['\\']
    | c :: more =>
      if c == '\n' then decodeText fuel more
      else if isOctal c then
        let (n, after) := octal 3 rest
        (decodeText fuel after).map (Char.ofNat n :: ·)
      else if c == 'x' || c == 'u' || c == 'U' then
        match hex? (if c == 'x' then 2 else if c == 'u' then 4 else 8) more with
        | some (n, after) =>
          if 0x10ffff < n then none else (decodeText fuel after).map (Char.ofNat n :: ·)
        | none => none
      else if c == 'N' then
        match named? more with
        | some after => (decodeText fuel after).map ('�' :: ·)
        | none => none
      else match simple? c with
        | some d => (decodeText fuel more).map (d :: ·)
        | none => (decodeText fuel more).map fun ds => '\\' :: c :: ds
  | fuel + 1, c :: rest => (decodeText fuel rest).map (c :: ·)

/-- Replaces the escapes of a text. -/
def text? (cs : List Char) : Option (List Char) :=
  decodeText (cs.length + 1) cs

/-- Replaces the escapes of bytes. The first argument bounds the number of steps. -/
def decodeBytes : Nat → List Char → Option (List Nat)
  | 0, _ => some []
  | _, [] => some []
  | fuel + 1, '\\' :: rest =>
    match rest with
    | [] => some ['\\'.toNat]
    | c :: more =>
      if c == '\n' then decodeBytes fuel more
      else if isOctal c then
        let (n, after) := octal 3 rest
        (decodeBytes fuel after).map (n % 256 :: ·)
      else if c == 'x' then
        match hex? 2 more with
        | some (n, after) => (decodeBytes fuel after).map (n :: ·)
        | none => none
      else match simple? c with
        | some d => (decodeBytes fuel more).map (d.toNat :: ·)
        | none => (decodeBytes fuel more).map fun ds => '\\'.toNat :: c.toNat :: ds
  | fuel + 1, c :: rest => (decodeBytes fuel rest).map (c.toNat :: ·)

/-- Replaces the escapes of bytes. -/
def bytes? (cs : List Char) : Option (List Nat) :=
  decodeBytes (cs.length + 1) cs

end ClassAtlas.Source.Escape
