import SecureUpdate.Bytes

/-!
Bytes written as hexadecimal digits. Writing uses lower case; reading takes either case and refuses
an odd number of digits. Main statement: `decodeDigits_encodeDigits`, reading undoes writing.
-/

namespace SecureUpdate.Text.Hex

/-- The lower-case digit of a number below sixteen. -/
def digit (n : Nat) : Char := Char.ofNat (if n < 10 then 48 + n else 87 + n)

/-- The number a hexadecimal digit stands for. -/
def digitValue? (c : Char) : Option Nat :=
  let n := c.toNat
  if 48 ≤ n ∧ n ≤ 57 then some (n - 48)
  else if 97 ≤ n ∧ n ≤ 102 then some (n - 87)
  else if 65 ≤ n ∧ n ≤ 70 then some (n - 55)
  else none

/-- The two digits of each byte, the high half first. -/
def encodeDigits (bs : Bytes) : List Char :=
  bs.flatMap fun b => [digit (b.toNat / 16), digit (b.toNat % 16)]

/-- The bytes that pairs of digits stand for. -/
def decodeDigits : List Char → Option Bytes
  | [] => some []
  | [_] => none
  | h :: l :: cs => do
    let high ← digitValue? h
    let low ← digitValue? l
    let bs ← decodeDigits cs
    some (UInt8.ofNat (16 * high + low) :: bs)

/-- The hexadecimal text of some bytes. -/
def encode (bs : Bytes) : String := String.ofList (encodeDigits bs)

/-- The bytes of a hexadecimal text. -/
def decode (s : String) : Option Bytes := decodeDigits s.toList

theorem digitValue?_digit {n : Nat} (h : n < 16) : digitValue? (digit n) = some n := by
  have : ∀ m : Fin 16, digitValue? (digit m) = some m.val := by decide
  exact this ⟨n, h⟩

theorem decodeDigits_encodeDigits (bs : Bytes) : decodeDigits (encodeDigits bs) = some bs := by
  induction bs with
  | nil => rfl
  | cons b bs ih =>
    have hb := b.toNat_lt
    have hd : 16 * (b.toNat / 16) + b.toNat % 16 = b.toNat := by omega
    have hh : digitValue? (digit (b.toNat / 16)) = some (b.toNat / 16) :=
      digitValue?_digit (by omega)
    have hl : digitValue? (digit (b.toNat % 16)) = some (b.toNat % 16) :=
      digitValue?_digit (by omega)
    rw [show encodeDigits (b :: bs) =
      digit (b.toNat / 16) :: digit (b.toNat % 16) :: encodeDigits bs from rfl]
    simp only [decodeDigits, hh, hl, ih, Option.bind_eq_bind, Option.bind_some, hd,
      UInt8.ofNat_toNat]

end SecureUpdate.Text.Hex
