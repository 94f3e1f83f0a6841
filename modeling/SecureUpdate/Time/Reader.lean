import SecureUpdate.Text.Blank
import SecureUpdate.Time.Instant

/-!
Instants read from texts, in a relaxed form of the internet date format: blanks may stand before
numbers and separators, numbers may be short, and the offset may be spelled in several ways. The
date must exist and the instant must lie in the years -262143 to 262142 both as written and in
universal time.
-/

namespace SecureUpdate.Instant

/-- A step that takes something off the front of a text. -/
abbrev Reader (α : Type) := List Char → Option (α × List Char)

namespace Reader

/-- At least one digit, and at most `width` of them. -/
def number (width : Nat) : Reader Nat := fun cs =>
  let ds := (cs.takeWhile Text.isDigit).take width
  if ds.isEmpty then none else some (Text.digitsValue ds, cs.drop ds.length)

/-- A number of at most two digits, after blanks. -/
def short : Reader Nat := fun cs => number 2 (Text.trimStart cs)

/-- A year, after blanks: at most four digits, or a sign and any number of digits. -/
def year : Reader Int := fun cs =>
  match Text.trimStart cs with
  | '-' :: rest => (number rest.length rest).map fun (n, rest) => (-(n : Int), rest)
  | '+' :: rest => (number rest.length rest).map fun (n, rest) => ((n : Int), rest)
  | rest => (number 4 rest).map fun (n, rest) => ((n : Int), rest)

/-- Expects a character, after blanks. -/
def separator (c : Char) (cs : List Char) : Option (List Char) :=
  match Text.trimStart cs with
  | d :: rest => if d == c then some rest else none
  | [] => none

/-- The nanoseconds after a point, if there is one: nine digits count, more are dropped. -/
def nanoseconds : Reader Nat
  | '.' :: cs =>
    let ds := cs.takeWhile Text.isDigit
    let kept := ds.take 9
    if ds.isEmpty then none
    else some (Text.digitsValue (kept ++ List.replicate (9 - kept.length) '0'), cs.drop ds.length)
  | cs => some (0, cs)

/-- The digits of an offset in minutes, after its sign. -/
def offsetMinutes : Reader Int
  | h₁ :: h₂ :: cs =>
    if Text.isDigit h₁ && Text.isDigit h₂ then
      match cs.dropWhile fun c => c == ':' || Text.isBlank c with
      | m₁ :: m₂ :: rest =>
        if Text.isDigit m₁ && Text.isDigit m₂ && m₁ < '6' then
          some (60 * Text.digitsValue [h₁, h₂] + Text.digitsValue [m₁, m₂], rest)
        else none
      | _ => none
    else none
  | _ => none

/-- The offset from universal time in minutes, below a day in size. -/
def offset : Reader Int := fun cs => do
  let (minutes, rest) ← match cs with
    | 'Z' :: rest => some (0, rest)
    | 'z' :: rest => some (0, rest)
    | '+' :: rest => offsetMinutes rest
    | '-' :: rest => (offsetMinutes rest).map fun (n, rest) => (-n, rest)
    | '\u2212' :: rest => (offsetMinutes rest).map fun (n, rest) => (-n, rest)
    | u :: t :: c :: rest =>
      if String.ofList [u.toUpper, t.toUpper, c.toUpper] == "UTC" then some (0, rest) else none
    | _ => none
  if minutes.natAbs < 1440 then some (minutes, rest) else none

/-- The instant of a date and a time of day at an offset in minutes, if they exist. -/
def assemble (d : Date) (hour minute second nanos : Nat) (offset : Int) : Option Instant :=
  if d.exists? && hour ≤ 23 && minute ≤ 59 && second ≤ 60 then
    let leap := second = 60
    let written : Int :=
      d.dayNumber * 86400 + hour * 3600 + minute * 60 + if leap then 59 else second
    let nanos := nanos + if leap then 1000000000 else 0
    if firstSecond ≤ written ∧ written < endSecond then
      if h : Valid (written - offset * 60) nanos then some ⟨_, _, h⟩ else none
    else none
  else none

end Reader

open Reader in
/-- Reads an instant; nothing but blanks may follow it. -/
def read (s : String) : Option Instant := do
  let (y, cs) ← year s.toList
  let cs ← separator '-' cs
  let (month, cs) ← short cs
  let cs ← separator '-' cs
  let (day, cs) ← short cs
  let cs ← match cs with
    | 'T' :: cs => some cs
    | 't' :: cs => some cs
    | ' ' :: cs => some cs
    | _ => none
  let (hour, cs) ← short cs
  let cs ← separator ':' cs
  let (minute, cs) ← short cs
  let cs ← separator ':' cs
  let (second, cs) ← short cs
  let (nanos, cs) ← nanoseconds cs
  let (minutes, cs) ← offset (Text.trimStart cs)
  if (Text.trimStart cs).isEmpty then
    assemble ⟨y, month, day⟩ hour minute second nanos minutes
  else none

end SecureUpdate.Instant
