/-!
Decimal numbers in texts: digits, the text of a number, and the reader of 64-bit limits.
-/

namespace SecureUpdate.Text

/-- Whether a character is one of the ten ASCII digits. -/
def isDigit (c : Char) : Bool := '0' ≤ c && c ≤ '9'

/-- The number that a run of digits stands for. -/
def digitsValue (cs : List Char) : Nat := cs.foldl (fun n c => 10 * n + (c.toNat - 48)) 0

/-- The digits of a number, without leading zeros. -/
def decimal (n : Nat) : List Char := Nat.toDigits 10 n

/-- The digits of a number, padded with zeros to at least `width` characters. -/
def paddedDecimal (width n : Nat) : List Char :=
  let ds := decimal n
  List.replicate (width - ds.length) '0' ++ ds

/-- Reads an unsigned 64-bit number: an optional plus sign and at least one digit. -/
def readUnsigned (cs : List Char) : Option UInt64 :=
  let ds := match cs with
    | '+' :: rest => rest
    | _ => cs
  if ds.isEmpty || !ds.all isDigit then none
  else if digitsValue ds < UInt64.size then some (UInt64.ofNat (digitsValue ds)) else none

end SecureUpdate.Text
