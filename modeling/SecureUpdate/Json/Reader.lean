import SecureUpdate.Bytes
import SecureUpdate.Json.Basic
import SecureUpdate.Text.Decimal
import SecureUpdate.Text.Hex

/-!
JSON text read from bytes, by the strict grammar: blanks are space, tab, line feed and carriage
return; strings are UTF-8 without raw control characters and without lone surrogates; values nest at
most 127 deep; nothing but blanks follows the value. Of two members with one name the last stays. A
value that nobody looks at can be skipped, which checks its grammar only.

A reader takes bytes and answers with what it read and the bytes that are left. Readers of lists and
objects take a bound `most` on the number of items, for which the length of the text is enough.
-/

namespace SecureUpdate.Json

/-- A step that takes something off the front of the bytes. -/
abbrev Reader (α : Type) := Bytes → Option (α × Bytes)

namespace Reader

/-- Blanks between tokens. -/
def isBlank (b : UInt8) : Bool := b == 0x20 || b == 0x09 || b == 0x0A || b == 0x0D

def skipBlanks (bs : Bytes) : Bytes := bs.dropWhile isBlank

def isDigit (b : UInt8) : Bool := 0x30 ≤ b && b ≤ 0x39

/-- Expects the given bytes. -/
def keyword {α : Type} (word : Bytes) (value : α) : Reader α := fun bs =>
  if word.isPrefixOf bs then some (value, bs.drop word.length) else none

/-! ### Strings -/

/-- A piece of a string: a byte as it stands, or a 16-bit unit given by its number. -/
inductive Piece where
  | byte (b : UInt8)
  | unit (n : Nat)
deriving DecidableEq

/-- The byte that a one-letter escape stands for. -/
def escapedByte? (b : UInt8) : Option UInt8 :=
  if b == 0x22 || b == 0x5C || b == 0x2F then some b
  else if b == 0x62 then some 0x08
  else if b == 0x66 then some 0x0C
  else if b == 0x6E then some 0x0A
  else if b == 0x72 then some 0x0D
  else if b == 0x74 then some 0x09
  else none

/-- The number that four hexadecimal digits stand for. -/
def unitValue? (ds : List UInt8) : Option Nat :=
  ds.foldlM (fun n d => do
    let v ← Text.Hex.digitValue? (Char.ofNat d.toNat)
    some (16 * n + v)) 0

/-- The pieces of a string up to its closing quote. -/
def pieces : Reader (List Piece)
  | [] => none
  | b :: bs =>
    if b == 0x22 then some ([], bs)
    else if b == 0x5C then
      match bs with
      | [] => none
      | e :: bs =>
        if e == 0x75 then
          match bs with
          | h₁ :: h₂ :: h₃ :: h₄ :: bs => do
            let n ← unitValue? [h₁, h₂, h₃, h₄]
            let (ps, rest) ← pieces bs
            some (.unit n :: ps, rest)
          | _ => none
        else do
          let c ← escapedByte? e
          let (ps, rest) ← pieces bs
          some (.byte c :: ps, rest)
    else if b < 0x20 then none
    else do
      let (ps, rest) ← pieces bs
      some (.byte b :: ps, rest)

/-- The bytes of a string: a pair of surrogate units is one character, a lone one is an error. -/
def joinPieces : List Piece → Option Bytes
  | [] => some []
  | .byte b :: ps => (joinPieces ps).map (b :: ·)
  | .unit n :: ps =>
    if 0xDC00 ≤ n ∧ n ≤ 0xDFFF then none
    else if 0xD800 ≤ n ∧ n ≤ 0xDBFF then
      match ps with
      | .unit m :: ps =>
        if 0xDC00 ≤ m ∧ m ≤ 0xDFFF then
          let c := Char.ofNat (0x10000 + (n - 0xD800) * 0x400 + (m - 0xDC00))
          (joinPieces ps).map (Bytes.ofText c.toString ++ ·)
        else none
      | _ => none
    else (joinPieces ps).map (Bytes.ofText (Char.ofNat n).toString ++ ·)

/-- The text of a string whose opening quote has been read. -/
def stringBody : Reader String := fun bs => do
  let (ps, rest) ← pieces bs
  let text ← joinPieces ps >>= Bytes.toText?
  some (text, rest)

/-! ### Numbers -/

/-- The parts of a written number: sign, digits before and after the point, sign and digits of the
exponent. -/
structure Numeral where
  negative : Bool
  whole : Bytes
  places : Bytes
  exponentNegative : Bool
  exponent : Bytes

/-- The digits at the front. -/
def digits (bs : Bytes) : Bytes × Bytes := bs.span isDigit

/-- The digits before the point: a zero alone, or digits that do not start with one. -/
def wholeDigits : Reader Bytes := fun bs =>
  let (ds, rest) := digits bs
  match ds with
  | [] => none
  | [d] => some ([d], rest)
  | d :: ds => if d == 0x30 then none else some (d :: ds, rest)

/-- The digits after a point, if there is one. -/
def decimalPlaces : Reader Bytes
  | 0x2E :: bs =>
    let (ds, rest) := digits bs
    if ds.isEmpty then none else some (ds, rest)
  | bs => some ([], bs)

/-- The sign and digits of an exponent, if there is one. -/
def exponentPart : Reader (Bool × Bytes) := fun bs =>
  match bs with
  | b :: rest =>
    if b == 0x65 || b == 0x45 then
      let (negative, rest) := match rest with
        | 0x2B :: r => (false, r)
        | 0x2D :: r => (true, r)
        | r => (false, r)
      let (ds, rest) := digits rest
      if ds.isEmpty then none else some ((negative, ds), rest)
    else some ((false, []), bs)
  | [] => some ((false, []), bs)

def numeral : Reader Numeral := fun bs => do
  let (negative, bs) := match bs with
    | 0x2D :: r => (true, r)
    | r => (false, r)
  let (whole, bs) ← wholeDigits bs
  let (places, bs) ← decimalPlaces bs
  let ((exponentNegative, exponent), bs) ← exponentPart bs
  some ({ negative, whole, places, exponentNegative, exponent }, bs)

/-- The number that some digits stand for. -/
def digitsValue (ds : Bytes) : Nat := ds.foldl (fun n d => 10 * n + (d.toNat - 48)) 0

/-- Appends digits to a number as long as it fits 64 bits, and counts the digits left over. -/
def appendDigits (n : Nat) : Bytes → Nat × Nat
  | [] => (n, 0)
  | d :: ds =>
    let m := 10 * n + (d.toNat - 48)
    if m < UInt64.size then appendDigits m ds else (n, ds.length + 1)

/-- The number in floating point, if it is finite. Digits past 64 bits are cut off. -/
def Numeral.real? (n : Numeral) : Option Binary64 :=
  let (whole, wholeLeft) := appendDigits 0 n.whole
  let (mantissa, placesLeft) := appendDigits whole n.places
  let shift : Int := wholeLeft + placesLeft - n.places.length
  let exponent : Int :=
    if n.exponentNegative then shift - digitsValue n.exponent else shift + digitsValue n.exponent
  Binary64.ofDigits? n.negative mantissa exponent

/-- The 64-bit integer that the number is: without point and exponent, unsigned or, with a sign,
below zero. -/
def Numeral.integer? (n : Numeral) : Option Int :=
  let whole := digitsValue n.whole
  if n.places.isEmpty && n.exponent.isEmpty then
    if n.negative then if 0 < whole ∧ 2 * whole ≤ UInt64.size then some (-whole) else none
    else if whole < UInt64.size then some whole else none
  else none

def number : Reader Json := fun bs => do
  let (n, rest) ← numeral bs
  match n.integer? with
  | some i => some (.int i, rest)
  | none => n.real?.map fun x => (.real x, rest)

/-! ### Lists, objects and values -/

/-- One item or more, each followed by a comma or, the last, by the closing byte. -/
def itemsUntil {α : Type} (item : Reader α) (close : UInt8) : Nat → Reader (List α)
  | 0, _ => none
  | n + 1, bs => do
    let (x, bs) ← item (skipBlanks bs)
    match skipBlanks bs with
    | [] => none
    | b :: bs =>
      if b == close then some ([x], bs)
      else if b == 0x2C then do
        let (xs, bs) ← itemsUntil item close n bs
        some (x :: xs, bs)
      else none

/-- The items between an opening byte, already read, and the closing byte. -/
def enclosed {α : Type} (most : Nat) (item : Reader α) (close : UInt8) : Reader (List α) :=
  fun bs =>
  match skipBlanks bs with
  | [] => none
  | b :: rest =>
    if b == close then some ([], rest) else itemsUntil item close most (b :: rest)

/-- A name, a colon, and what `read` makes of the value under that name. -/
def memberOf {α : Type} (read : String → Reader α) : Reader α
  | [] => none
  | b :: bs =>
    if b == 0x22 then do
      let (name, bs) ← stringBody bs
      match skipBlanks bs with
      | 0x3A :: bs => read name (skipBlanks bs)
      | _ => none
    else none

/-- A value that holds no other value. -/
def scalar : Reader Json
  | [] => none
  | b :: bs =>
    if b == 0x22 then (stringBody bs).map fun (s, rest) => (.str s, rest)
    else if b == 0x6E then keyword [0x75, 0x6C, 0x6C] .null bs
    else if b == 0x74 then keyword [0x72, 0x75, 0x65] (.bool true) bs
    else if b == 0x66 then keyword [0x61, 0x6C, 0x73, 0x65] (.bool false) bs
    else number (b :: bs)

/-- A value that nests at most `depth` deep, without blanks before it. -/
def value (most : Nat) : (depth : Nat) → Reader Json
  | 0 => scalar
  | depth + 1 => fun bs =>
    match bs with
    | [] => none
    | b :: rest =>
      if b == 0x5B then
        (enclosed most (value most depth) 0x5D rest).map fun (xs, rest) => (.arr xs, rest)
      else if b == 0x7B then
        (enclosed most
          (memberOf fun name bs => (value most depth bs).map fun (v, rest) => ((name, v), rest))
          0x7D rest).map fun (ms, rest) => (mkObj ms, rest)
      else scalar bs

/-- How deep values may nest. -/
def maxDepth : Nat := 127

/-- What `read`, given the length of the bytes as its bound, makes of them, if only blanks stand
before and after it. -/
def whole {α : Type} (read : (most : Nat) → Reader α) (bs : Bytes) : Option α := do
  let (x, rest) ← read bs.length (skipBlanks bs)
  if (skipBlanks rest).isEmpty then some x else none

/-! ### Skipping -/

/-- Passes over a string whose opening quote has been read. -/
def skipString : Bytes → Option Bytes
  | [] => none
  | b :: bs =>
    if b == 0x22 then some bs
    else if b == 0x5C then
      match bs with
      | [] => none
      | e :: bs =>
        if e == 0x75 then
          match bs with
          | h₁ :: h₂ :: h₃ :: h₄ :: bs => do
            let _ ← unitValue? [h₁, h₂, h₃, h₄]
            skipString bs
          | _ => none
        else do
          let _ ← escapedByte? e
          skipString bs
    else if b < 0x20 then none
    else skipString bs

/-- Passes over a name, a colon and a value. -/
def skipMember (skipValue : Reader Unit) : Reader Unit
  | [] => none
  | b :: bs =>
    if b == 0x22 then do
      let bs ← skipString bs
      match skipBlanks bs with
      | 0x3A :: bs => skipValue (skipBlanks bs)
      | _ => none
    else none

/-- Passes over a value that nests at most `depth` deep. -/
def skipNested (most : Nat) : (depth : Nat) → Reader Unit
  | 0 => fun _ => none
  | depth + 1 => fun bs =>
    match bs with
    | [] => none
    | b :: rest =>
      if b == 0x5B then
        (enclosed most (skipNested most depth) 0x5D rest).map fun (_, rest) => ((), rest)
      else if b == 0x7B then
        (enclosed most (skipMember (skipNested most depth)) 0x7D rest).map
          fun (_, rest) => ((), rest)
      else if b == 0x22 then (skipString rest).map fun rest => ((), rest)
      else if b == 0x6E then keyword [0x75, 0x6C, 0x6C] () rest
      else if b == 0x74 then keyword [0x72, 0x75, 0x65] () rest
      else if b == 0x66 then keyword [0x61, 0x6C, 0x73, 0x65] () rest
      else (numeral (b :: rest)).map fun (_, rest) => ((), rest)

/-- Passes over a value, however deep it nests: no deeper than the text is long. -/
def skip (most : Nat) : Reader Unit := skipNested most most

end Reader

/-- The value that some bytes are the JSON text of. -/
def parse (bs : Bytes) : Option Json :=
  Reader.whole (fun most => Reader.value most Reader.maxDepth) bs

end SecureUpdate.Json
