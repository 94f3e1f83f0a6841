import SecureUpdate.Text.Decimal
import SecureUpdate.Time.Calendar

/-!
Instants of universal time, counted in seconds from the start of 1970. A leap second is kept apart:
it is second 59 of its minute with a billion nanoseconds or more. Instants lie in the years -262143
to 262142.
-/

namespace SecureUpdate

namespace Instant

/-- The first second of the years that instants lie in, and the second after the last. -/
def firstSecond : Int := (Date.mk (-262143) 1 1).dayNumber * 86400
def endSecond : Int := (Date.mk 262143 1 1).dayNumber * 86400

/-- Whether seconds and nanoseconds are those of an instant. -/
def Valid (seconds : Int) (nanos : Nat) : Prop :=
  firstSecond ≤ seconds ∧ seconds < endSecond ∧ nanos < 2000000000 ∧
    (1000000000 ≤ nanos → seconds % 60 = 59)

instance (seconds : Int) (nanos : Nat) : Decidable (Valid seconds nanos) := by
  unfold Valid; infer_instance

end Instant

/-- A point in time: whole seconds, and nanoseconds that run up to two billion in a leap second. -/
structure Instant where
  seconds : Int
  nanos : Nat
  valid : Instant.Valid seconds nanos
deriving DecidableEq

namespace Instant

instance : Inhabited Instant := ⟨⟨0, 0, by decide⟩⟩

/-- Whether one instant is before another. -/
def before (a b : Instant) : Bool :=
  a.seconds < b.seconds || (a.seconds == b.seconds && a.nanos < b.nanos)

/-- Whether something that lasts until `expires` is over at `now`: it must end strictly later. -/
def isOver (expires now : Instant) : Bool := !now.before expires

/-- A year: four digits, and a sign when they do not suffice. -/
def writeYear (y : Int) : List Char :=
  if 0 ≤ y ∧ y ≤ 9999 then Text.paddedDecimal 4 y.toNat
  else (if y < 0 then '-' else '+') :: Text.paddedDecimal 4 y.natAbs

/-- The shortest of three, six or nine decimal places that is exact; nothing for zero. -/
def writeFraction (nanos : Nat) : List Char :=
  if nanos = 0 then []
  else if nanos % 1000000 = 0 then '.' :: Text.paddedDecimal 3 (nanos / 1000000)
  else if nanos % 1000 = 0 then '.' :: Text.paddedDecimal 6 (nanos / 1000)
  else '.' :: Text.paddedDecimal 9 nanos

/-- Year, month and day between dashes. -/
def writeDate (d : Date) : List Char :=
  writeYear d.year ++ '-' :: Text.paddedDecimal 2 d.month ++ '-' :: Text.paddedDecimal 2 d.day

/-- The time of day that is `second` seconds and `nanos` nanoseconds long. -/
def writeTime (second nanos : Nat) : List Char :=
  let two := Text.paddedDecimal 2
  let leap := 1000000000 ≤ nanos
  two (second / 3600) ++ ':' :: two (second / 60 % 60) ++
    ':' :: two (second % 60 + if leap then 1 else 0) ++
    writeFraction (if leap then nanos - 1000000000 else nanos)

/-- Date and time of day with `separator` between them. -/
def writeWith (separator : Char) (t : Instant) : List Char :=
  writeDate (Date.ofDayNumber (t.seconds / 86400)) ++
    separator :: writeTime (t.seconds % 86400).toNat t.nanos

/-- The form in which metadata holds an instant. -/
def write (t : Instant) : String := String.ofList (writeWith 'T' t ++ ['Z'])

/-- The form in which messages show an instant. -/
def display (t : Instant) : String := String.ofList (writeWith ' ' t) ++ " UTC"

end Instant

end SecureUpdate
