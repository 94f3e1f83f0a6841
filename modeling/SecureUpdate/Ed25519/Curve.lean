import SecureUpdate.Bytes

/-!
The twisted Edwards curve -x² + y² = 1 + d·x²·y² over the integers modulo 2²⁵⁵ - 19, and the group
of its points. Numbers of the field are naturals below the prime. A point is held in extended
coordinates: x = X/Z, y = Y/Z and x·y = T/Z, so that one addition rule without division serves all
pairs of points.
-/

namespace SecureUpdate.Ed25519

/-- The prime of the field. -/
def prime : Nat := (1 <<< 255) - 19

/-- The order of the group that the base point generates. -/
def groupOrder : Nat := (1 <<< 252) + 27742317777372353535851937790883648493

/-- Difference in the field. -/
def minus (a b : Nat) : Nat := (a + prime - b) % prime

/-- Power in the field. -/
def power (a n : Nat) : Nat :=
  if n = 0 then 1
  else
    let h := power (a * a % prime) (n / 2)
    if n % 2 = 1 then a * h % prime else h
termination_by n

/-- Inverse in the field; zero for zero. -/
def inverse (a : Nat) : Nat := power a (prime - 2)

/-- The constant d of the curve. -/
def d : Nat := 37095705934669439343138083508754565189542113879843219016388785533085940283555

/-- A square root of -1. -/
def rootOfMinusOne : Nat :=
  19681161376707505956807079304988542015446066515923890162744021073123829784752

/-- A root of u/v, if there is one. -/
def rootOfQuotient? (u v : Nat) : Option Nat :=
  let v3 := v * v % prime * v % prime
  let v7 := v3 * v3 % prime * v % prime
  let r := u * v3 % prime * power (u * v7 % prime) ((prime - 5) / 8) % prime
  let check := v * r % prime * r % prime
  if check = u then some r
  else if check = minus 0 u then some (r * rootOfMinusOne % prime)
  else none

/-- A point of the curve in extended coordinates. -/
structure Point where
  x : Nat
  y : Nat
  z : Nat
  t : Nat

namespace Point

/-- The neutral point. -/
def zero : Point := ⟨0, 1, 1, 0⟩

/-- The base point. -/
def base : Point where
  x := 15112221349535400772501151409588531511454012693041857206046113283949847762202
  y := 46316835694926478169428394003475163141307993866256225615783033603165251855960
  z := 1
  t := 46827403850823179245072216630277197565144205554125654976674165829533817101731

def add (p q : Point) : Point :=
  let a := minus p.y p.x * minus q.y q.x % prime
  let b := (p.y + p.x) * (q.y + q.x) % prime
  let c := 2 * p.t * q.t % prime * d % prime
  let e := 2 * p.z * q.z % prime
  let f := minus b a
  let g := minus e c
  let h := (e + c) % prime
  let i := (b + a) % prime
  { x := f * g % prime, y := h * i % prime, z := g * h % prime, t := f * i % prime }

def neg (p : Point) : Point := { p with x := minus 0 p.x, t := minus 0 p.t }

/-- The sum of `n` copies of a point. -/
def multiple (n : Nat) (p : Point) : Point :=
  if n = 0 then zero
  else
    let q := multiple (n / 2) (p.add p)
    if n % 2 = 1 then q.add p else q
termination_by n

def isZero (p : Point) : Bool := p.x == 0 && p.y == p.z

/-- Whether eight copies of the point sum to zero. -/
def isSmallOrder (p : Point) : Bool := (multiple 8 p).isZero

end Point

/-- The number that bytes stand for, the lowest first. -/
def littleEndian (bs : Bytes) : Nat := bs.foldr (fun b n => b.toNat + 256 * n) 0

/-- The low 32 bytes of a number, the lowest first. -/
def toLittleEndian (n : Nat) : Bytes := (List.range 32).map fun i => UInt8.ofNat (n >>> (8 * i))

namespace Point

/-- The written form of a point: y, and the parity of x in the highest bit. -/
def encode (p : Point) : Bytes :=
  let i := inverse p.z
  let x := p.x * i % prime
  let y := p.y * i % prime
  toLittleEndian (y + (x % 2) <<< 255)

/-- The point that 32 bytes are a written form of. The number y may be the prime or above it, and a
parity bit is allowed where x is zero. -/
def decode? (bs : Bytes) : Option Point :=
  if bs.length = 32 then do
    let n := littleEndian bs
    let y := n % (1 <<< 255) % prime
    let odd := n >>> 255 = 1
    let yy := y * y % prime
    let r ← rootOfQuotient? (minus yy 1) ((d * yy + 1) % prime)
    let x := if (r % 2 = 1) = odd then r else minus 0 r
    some ⟨x, y, 1, x * y % prime⟩
  else none

end Point

end SecureUpdate.Ed25519
