/-!
# Bytes as text

Foreign text arrives as bytes, ended by a zero byte, and need not be valid
UTF-8. Decoding replaces whatever does not begin a character: each longest run
of bytes that could have begun one becomes a single replacement character.
-/

set_option autoImplicit false

namespace Presentation.Text

def replacement : Char := '\ufffd'

/-- How a character begins: the bits of its first byte, how many bytes follow, and the range
of the first of those. The range excludes overlong forms, surrogates and what lies above the
last code point. -/
structure Lead where
  bits : Nat
  following : Nat
  low : UInt8
  high : UInt8

def Lead.ofByte? (b : UInt8) : Option Lead :=
  let n := b.toNat
  if n < 0x80 then some ⟨n, 0, 0x80, 0xbf⟩
  else if 0xc2 ≤ n ∧ n ≤ 0xdf then some ⟨n - 0xc0, 1, 0x80, 0xbf⟩
  else if n = 0xe0 then some ⟨0, 2, 0xa0, 0xbf⟩
  else if n = 0xed then some ⟨0xd, 2, 0x80, 0x9f⟩
  else if 0xe1 ≤ n ∧ n ≤ 0xef then some ⟨n - 0xe0, 2, 0x80, 0xbf⟩
  else if n = 0xf0 then some ⟨0, 3, 0x90, 0xbf⟩
  else if n = 0xf4 then some ⟨4, 3, 0x80, 0x8f⟩
  else if 0xf1 ≤ n ∧ n ≤ 0xf3 then some ⟨n - 0xf0, 3, 0x80, 0xbf⟩
  else none

/-- Reads `n` bytes of a character, the first of them in a range, onto the bits read so far.
Gives the character, or the replacement as soon as a byte does not fit, with how many bytes
were taken. -/
def readTail (low high : UInt8) : Nat → Nat → List UInt8 → Char × Nat
  | 0, bits, _ => (Char.ofNat bits, 0)
  | _ + 1, _, [] => (replacement, 0)
  | n + 1, bits, b :: rest =>
    if low ≤ b && b ≤ high then
      let (c, taken) := readTail 0x80 0xbf n (64 * bits + (b.toNat - 0x80)) rest
      (c, taken + 1)
    else (replacement, 0)

/-- Decodes bytes; the first `skip` of them belong to a character already read. -/
def decodeFrom : Nat → List UInt8 → List Char
  | _, [] => []
  | skip + 1, _ :: rest => decodeFrom skip rest
  | 0, b :: rest =>
    match Lead.ofByte? b with
    | none => replacement :: decodeFrom 0 rest
    | some lead =>
      let (c, taken) := readTail lead.low lead.high lead.following lead.bits rest
      c :: decodeFrom taken rest

def decode (bytes : List UInt8) : String := String.ofList (decodeFrom 0 bytes)

/-- The bytes before the first zero byte, if there is one. -/
def cString? (bytes : List UInt8) : Option (List UInt8) :=
  if bytes.contains 0 then some (bytes.takeWhile (· ≠ 0)) else none

end Presentation.Text
