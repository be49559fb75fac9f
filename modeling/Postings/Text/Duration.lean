/-!
# Durations

A duration is shown in the largest unit of which it fills at least one, from
nanoseconds to seconds, with three decimal places.
-/

namespace Postings

namespace Duration

/-- The quotient rounded to the nearest number, a tie to the even one. -/
def roundDiv (dividend divisor : Nat) : Nat :=
  let quotient := dividend / divisor
  let twice := 2 * (dividend % divisor)
  if twice < divisor then quotient
  else if divisor < twice then quotient + 1
  else quotient + quotient % 2

def renderThousandths (thousandths : Nat) : String :=
  let places := toString (thousandths % 1000)
  toString (thousandths / 1000) ++ "." ++
    String.ofList (places.toList.leftpad 3 '0')

/-- The unit in which a number of nanoseconds is shown: its size in
nanoseconds and its sign. -/
def unit (nanoseconds : Nat) : Nat × String :=
  if 1000000000 ≤ nanoseconds then (1000000000, "s")
  else if 1000000 ≤ nanoseconds then (1000000, "ms")
  else if 1000 ≤ nanoseconds then (1000, "µs")
  else (1, "ns")

def render (nanoseconds : Nat) : String :=
  let (size, sign) := unit nanoseconds
  renderThousandths (roundDiv (nanoseconds * 1000) size) ++ sign

end Duration

end Postings
