import SecureUpdate.Hash.Blocks

/-!
The digest SHA-256: words of 32 bits, blocks of 64 bytes, 64 rounds a block.
-/

namespace SecureUpdate.Hash.Sha256

/-- The eight working words. -/
structure State where
  a : UInt32
  b : UInt32
  c : UInt32
  d : UInt32
  e : UInt32
  f : UInt32
  g : UInt32
  h : UInt32

/-- The start words: the first 32 bits of the fractional parts of the square roots of the first
eight primes. -/
def start : State where
  a := 0x6a09e667
  b := 0xbb67ae85
  c := 0x3c6ef372
  d := 0xa54ff53a
  e := 0x510e527f
  f := 0x9b05688c
  g := 0x1f83d9ab
  h := 0x5be0cd19

/-- The round words: the first 32 bits of the fractional parts of the cube roots of the first
64 primes. -/
def roundWords : List UInt32 := [
  0x428a2f98, 0x71374491, 0xb5c0fbcf, 0xe9b5dba5, 0x3956c25b, 0x59f111f1, 0x923f82a4, 0xab1c5ed5,
  0xd807aa98, 0x12835b01, 0x243185be, 0x550c7dc3, 0x72be5d74, 0x80deb1fe, 0x9bdc06a7, 0xc19bf174,
  0xe49b69c1, 0xefbe4786, 0x0fc19dc6, 0x240ca1cc, 0x2de92c6f, 0x4a7484aa, 0x5cb0a9dc, 0x76f988da,
  0x983e5152, 0xa831c66d, 0xb00327c8, 0xbf597fc7, 0xc6e00bf3, 0xd5a79147, 0x06ca6351, 0x14292967,
  0x27b70a85, 0x2e1b2138, 0x4d2c6dfc, 0x53380d13, 0x650a7354, 0x766a0abb, 0x81c2c92e, 0x92722c85,
  0xa2bfe8a1, 0xa81a664b, 0xc24b8b70, 0xc76c51a3, 0xd192e819, 0xd6990624, 0xf40e3585, 0x106aa070,
  0x19a4c116, 0x1e376c08, 0x2748774c, 0x34b0bcb5, 0x391c0cb3, 0x4ed8aa4a, 0x5b9cca4f, 0x682e6ff3,
  0x748f82ee, 0x78a5636f, 0x84c87814, 0x8cc70208, 0x90befffa, 0xa4506ceb, 0xbef9a3f7, 0xc67178f2]

/-- Rotates a word to the right. -/
def rotate (n : UInt32) (x : UInt32) : UInt32 := (x >>> n) ||| (x <<< (32 - n))

/-- The words of the message schedule: those of the block, and then words mixed from earlier ones.
-/
def schedule (block : Bytes) : Array UInt32 :=
  let mix (w : Array UInt32) (i : Nat) : Array UInt32 :=
    let x := w.getD (i - 15) 0
    let y := w.getD (i - 2) 0
    let s₀ := rotate 7 x ^^^ rotate 18 x ^^^ (x >>> 3)
    let s₁ := rotate 17 y ^^^ rotate 19 y ^^^ (y >>> 10)
    w.push (w.getD (i - 16) 0 + s₀ + w.getD (i - 7) 0 + s₁)
  let words := (blocks 4 block).map fun bs => bs.foldl (fun x b => (x <<< 8) ||| b.toUInt32) 0
  (List.range' 16 48).foldl mix words.toArray

/-- One round, with its round word and its word of the schedule. -/
def round (s : State) (k w : UInt32) : State :=
  let s₁ := rotate 6 s.e ^^^ rotate 11 s.e ^^^ rotate 25 s.e
  let choice := (s.e &&& s.f) ^^^ (~~~s.e &&& s.g)
  let t₁ := s.h + s₁ + choice + k + w
  let s₀ := rotate 2 s.a ^^^ rotate 13 s.a ^^^ rotate 22 s.a
  let majority := (s.a &&& s.b) ^^^ (s.a &&& s.c) ^^^ (s.b &&& s.c)
  let t₂ := s₀ + majority
  { a := t₁ + t₂, b := s.a, c := s.b, d := s.c, e := s.d + t₁, f := s.e, g := s.f, h := s.g }

/-- Mixes a block of 64 bytes into the working words. -/
def compress (s : State) (block : Bytes) : State :=
  let t := (roundWords.zip (schedule block).toList).foldl (fun t kw => round t kw.1 kw.2) s
  { a := s.a + t.a, b := s.b + t.b, c := s.c + t.c, d := s.d + t.d
    e := s.e + t.e, f := s.f + t.f, g := s.g + t.g, h := s.h + t.h }

/-- The digest of a message, 32 bytes. -/
def digest (message : Bytes) : Bytes :=
  let s := (blocks 64 (pad 64 8 message)).foldl compress start
  [s.a, s.b, s.c, s.d, s.e, s.f, s.g, s.h].flatMap fun x => bigEndian 4 x.toNat

end SecureUpdate.Hash.Sha256
