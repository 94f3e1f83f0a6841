import SecureUpdate.Text.Hex

/-!
Percent-encoding of names for use in a file name or an address: letters, digits and `-_.~` stay,
every other byte of the text becomes `%` and two upper-case hexadecimal digits.
-/

namespace SecureUpdate.Text.Percent

/-- The bytes that stand for themselves. -/
def isPlain (b : UInt8) : Bool :=
  (0x41 ≤ b && b ≤ 0x5A) || (0x61 ≤ b && b ≤ 0x7A) || (0x30 ≤ b && b ≤ 0x39) ||
    b == 0x2D || b == 0x5F || b == 0x2E || b == 0x7E

/-- The two upper-case hexadecimal digits of a byte after a percent sign. -/
def escape (b : UInt8) : List Char :=
  ['%', (Hex.digit (b.toNat / 16)).toUpper, (Hex.digit (b.toNat % 16)).toUpper]

/-- The written form of one byte. -/
def encodeByte (b : UInt8) : List Char :=
  if isPlain b then [Char.ofNat b.toNat] else escape b

def encodeBytes (bs : Bytes) : List Char := bs.flatMap encodeByte

/-- The percent-encoded form of a text, taken byte by byte. -/
def encode (s : String) : String := String.ofList (encodeBytes (Bytes.ofText s))

end SecureUpdate.Text.Percent
