/-!
# Durations and the clock

A duration is a number of nanoseconds. The clock shows instants as a duration since its start and can
show no instant whose whole seconds exceed a signed 64-bit number.
-/

namespace HidAccess

/-- A length of time in nanoseconds. -/
abbrev Duration := Nat

/-- A reading of the clock, in nanoseconds since its start. -/
abbrev Instant := Nat

namespace Duration

def nanosPerMicro : Nat := 1000
def nanosPerMilli : Nat := 1000000
def nanosPerSecond : Nat := 1000000000

def micros (n : Nat) : Duration := n * nanosPerMicro
def millis (n : Nat) : Duration := n * nanosPerMilli

def asMillis (d : Duration) : Nat := d / nanosPerMilli
def asMicros (d : Duration) : Nat := d / nanosPerMicro

def clamp (lo hi d : Duration) : Duration := max lo (min d hi)

/-- The digits of `part / scale` after the decimal point, without trailing zeros. -/
def fraction (scale part : Nat) : List Char :=
  let digits := Nat.toDigits 10 part
  let width := (Nat.toDigits 10 scale).length - 1
  let padded := List.replicate (width - digits.length) '0' ++ digits
  (padded.reverse.dropWhile (· == '0')).reverse

def inUnit (d scale : Nat) (unit : String) : String :=
  let part := fraction scale (d % scale)
  let whole := toString (d / scale)
  if part.isEmpty then whole ++ unit else whole ++ "." ++ String.ofList part ++ unit

/-- The duration in the largest of the units s, ms, µs, ns that leaves a non-zero whole part. -/
def shown (d : Duration) : String :=
  if nanosPerSecond ≤ d then inUnit d nanosPerSecond "s"
  else if nanosPerMilli ≤ d then inUnit d nanosPerMilli "ms"
  else if nanosPerMicro ≤ d then inUnit d nanosPerMicro "µs"
  else toString d ++ "ns"

end Duration

namespace Instant

/-- The first instant after everything the clock can show. -/
def limit : Nat := 9223372036854775808 * Duration.nanosPerSecond

def after? (t : Instant) (d : Duration) : Option Instant :=
  if t + d < limit then some (t + d) else none

end Instant

end HidAccess
