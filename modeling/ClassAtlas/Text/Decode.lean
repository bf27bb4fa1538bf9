import ClassAtlas.Fault

/-!
# Bytes as text

Text is stored as UTF-8. Bytes that are no UTF-8 are refused with the first place that is wrong: a byte
that starts no character, a character that is broken off by another byte, or one that is broken off by
the end. Only the shortest form of a character counts, and surrogates are no characters.
-/

namespace ClassAtlas.Text

/-- How a character starts: how many bytes follow, the bits so far, and the least and the greatest byte
that may come next. -/
structure Lead where
  following : Nat
  bits : Nat
  least : Nat := 0x80
  greatest : Nat := 0xbf

/-- What a first byte says about its character. -/
def lead? (b : Nat) : Option Lead :=
  if b < 0x80 then some { following := 0, bits := b }
  else if b < 0xc2 then none
  else if b < 0xe0 then some { following := 1, bits := b - 0xc0 }
  else if b = 0xe0 then some { following := 2, bits := 0, least := 0xa0 }
  else if b = 0xed then some { following := 2, bits := 0xd, greatest := 0x9f }
  else if b < 0xf0 then some { following := 2, bits := b - 0xe0 }
  else if b = 0xf0 then some { following := 3, bits := 0, least := 0x90 }
  else if b < 0xf4 then some { following := 3, bits := b - 0xf0 }
  else if b = 0xf4 then some { following := 3, bits := 4, greatest := 0x8f }
  else none

/-- Where a decoder stands: the characters so far in reverse, the place of the next byte, and the
character that is being read, as the bytes of it so far in reverse and what they say. -/
structure Decoder where
  done : List Char := []
  place : Nat := 0
  started : List Nat := []
  lead : Lead := { following := 0, bits := 0 }

/-- Why the character that is being read cannot go on. -/
def Decoder.fault (d : Decoder) (reason : BadByte) : Fault :=
  .undecodable reason d.started.reverse (d.place - d.started.length)

/-- Reads the first byte of a character. -/
def Decoder.first (d : Decoder) (b : Nat) : Except Fault Decoder :=
  match lead? b with
  | none => .error (.undecodable .start [b] d.place)
  | some lead =>
    if lead.following = 0 then
      .ok { d with done := Char.ofNat lead.bits :: d.done, place := d.place + 1 }
    else .ok { d with place := d.place + 1, started := [b], lead := lead }

/-- Reads a byte. -/
def Decoder.next (d : Decoder) (b : Nat) : Except Fault Decoder :=
  if d.started.isEmpty then d.first b
  else if d.lead.least ≤ b && b ≤ d.lead.greatest then
    let bits := 64 * d.lead.bits + (b - 0x80)
    if d.lead.following = 1 then
      .ok { done := Char.ofNat bits :: d.done, place := d.place + 1 }
    else
      .ok { d with
        place := d.place + 1, started := b :: d.started
        lead := { following := d.lead.following - 1, bits := bits } }
  else .error (d.fault .continuation)

/-- The text that bytes stand for. -/
def decode (bytes : List UInt8) : Except Fault (List Char) := do
  let d ← bytes.foldlM (fun (d : Decoder) b => d.next b.toNat) {}
  if d.started.isEmpty then return d.done.reverse else .error (d.fault .endOfData)

end ClassAtlas.Text
