/-!
# Durations

A duration is a number of nanoseconds. It is written in the largest of the units s, ms, µs and ns
of which it holds at least one, with the fraction that is left over and no trailing zeros.
-/
namespace MediaOverQuic

/-- A span of time, in nanoseconds. -/
structure Duration where
  nanos : Nat
  deriving DecidableEq, Repr, Inhabited

namespace Duration

def ofMillis (ms : Nat) : Duration := ⟨ms * 1000000⟩

/-- The `places` digits of a fraction, without the zeros at its end. -/
def fractionDigits (places fraction : Nat) : List Char :=
  let ds := Nat.toDigits 10 fraction
  let padded := List.replicate (places - ds.length) '0' ++ ds
  (padded.reverse.dropWhile (· = '0')).reverse

/-- The number of units of `10 ^ places` nanoseconds, with its fraction. -/
def inUnit (d : Duration) (places : Nat) (unit : String) : String :=
  let scale := Nat.pow 10 places
  let whole := toString (d.nanos / scale)
  if d.nanos % scale = 0 then whole ++ unit
  else whole ++ "." ++ String.ofList (fractionDigits places (d.nanos % scale)) ++ unit

/-- The text of a duration, such as `1.5s` or `250ms`. -/
def text (d : Duration) : String :=
  if 1000000000 ≤ d.nanos then d.inUnit 9 "s"
  else if 1000000 ≤ d.nanos then d.inUnit 6 "ms"
  else if 1000 ≤ d.nanos then d.inUnit 3 "µs"
  else d.inUnit 0 "ns"

end Duration

end MediaOverQuic
