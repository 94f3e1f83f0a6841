import SecureUpdate.Text.Duration

/-!
Finite numbers in 64-bit binary floating point. A magnitude is a natural number that counts the
smallest positive number, 2⁻¹⁰⁷⁴; it has at most 53 significant binary digits. A decimal number is
taken in by rounding more than once: its digits, the power of ten and their product or quotient are
rounded each. Main statement: `quotient_near`, rounding stays within half a unit.
-/

namespace SecureUpdate

/-- A finite number: its sign, and its magnitude as a multiple of 2⁻¹⁰⁷⁴. -/
structure Binary64 where
  negative : Bool
  units : Nat
deriving DecidableEq

namespace Binary64

/-- The binary places of a magnitude. -/
def binaryPlaces : Nat := 1074

/-- The magnitude of one. -/
def one : Nat := 1 <<< binaryPlaces

/-- The magnitude that is no longer finite. -/
def infinity : Nat := one <<< 1024

/-- A quotient rounded to a whole number, halves to the even neighbour. -/
def quotient (n d : Nat) : Nat :=
  if d < 2 * (n % d) ∨ (2 * (n % d) = d ∧ n / d % 2 = 1) then n / d + 1 else n / d

theorem quotient_near {n d : Nat} (h : 0 < d) :
    2 * (quotient n d * d) ≤ 2 * n + d ∧ 2 * n ≤ 2 * (quotient n d * d) + d := by
  have hn := Nat.div_add_mod' n d
  have hr := Nat.mod_lt n h
  unfold quotient
  split
  · rw [Nat.add_mul]
    omega
  · omega

/-- The distance of neighbouring magnitudes near `n`, so that those below 2⁵³ are one apart. -/
def gap (n : Nat) : Nat := 1 <<< (n.log2 - 52)

/-- The magnitude nearest to the fraction `n / d`. -/
def nearest (n d : Nat) : Nat := quotient n (d * gap (n / d)) * gap (n / d)

/-- The magnitude nearest to a natural number. -/
def ofNat (n : Nat) : Nat := nearest (n * one) 1

def times (a b : Nat) : Nat := nearest (a * b) one
def dividedBy (a b : Nat) : Nat := nearest (a * one) b

/-- The greatest power of ten that is finite. -/
def greatestPower : Nat := 308

def powerOfTen (k : Nat) : Nat := ofNat (Nat.pow 10 k)

/-- A magnitude divided by a power of ten, in steps by the greatest power. -/
def shiftDown (a k : Nat) : Nat :=
  if a = 0 then 0
  else if k ≤ greatestPower then dividedBy a (powerOfTen k)
  else shiftDown (dividedBy a (powerOfTen greatestPower)) (k - greatestPower)
termination_by k
decreasing_by
  simp only [greatestPower] at *
  omega

/-- A magnitude multiplied by a power of ten, if that is finite. -/
def shiftUp? (a k : Nat) : Option Nat :=
  if a = 0 then some 0
  else if k ≤ greatestPower then
    let b := times a (powerOfTen k)
    if b < infinity then some b else none
  else none

/-- The number of some digits times a power of ten, if it is finite. -/
def ofDigits? (negative : Bool) (digits : Nat) (exponent : Int) : Option Binary64 :=
  if exponent < 0 then some ⟨negative, shiftDown (ofNat digits) exponent.natAbs⟩
  else (shiftUp? (ofNat digits) exponent.natAbs).map (⟨negative, ·⟩)

/-- The exact decimal text, with one decimal place at least. -/
def text (x : Binary64) : String :=
  let places := Text.fraction binaryPlaces (x.units % one * Nat.pow 5 binaryPlaces)
  String.ofList ((if x.negative then ['-'] else []) ++ Text.decimal (x.units / one) ++
    if places.isEmpty then ['.', '0'] else places)

end Binary64

end SecureUpdate
