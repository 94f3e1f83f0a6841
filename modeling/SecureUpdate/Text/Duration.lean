import SecureUpdate.Text.Decimal

/-!
The text of a span of time: the largest unit of `s`, `ms`, `µs` and `ns` in which it is at least
one, with a decimal fraction that has no trailing zeros.
-/

namespace SecureUpdate.Text

/-- A fraction of `width` decimal places after a point, without trailing zeros; nothing for zero. -/
def fraction (width n : Nat) : List Char :=
  let ds := ((paddedDecimal width n).reverse.dropWhile (· == '0')).reverse
  if ds.isEmpty then [] else '.' :: ds

/-- A number of nanoseconds as a text. -/
def duration (nanos : Nat) : String :=
  let inUnit (size places : Nat) (unit : String) : String :=
    String.ofList (decimal (nanos / size) ++ fraction places (nanos % size)) ++ unit
  if nanos ≥ 1000000000 then inUnit 1000000000 9 "s"
  else if nanos ≥ 1000000 then inUnit 1000000 6 "ms"
  else if nanos ≥ 1000 then inUnit 1000 3 "µs"
  else inUnit 1 0 "ns"

end SecureUpdate.Text
