/-!
# Durations

A length of time in nanoseconds, and its text: the largest unit of seconds, milliseconds,
microseconds and nanoseconds that does not exceed it, with as many decimal places as it needs.
-/

namespace AsmDiagnostics.Number

structure Duration where
  nanos : Nat
  deriving DecidableEq, Repr

namespace Duration

def ofMillis (n : Nat) : Duration := ⟨n * 1000000⟩

def ofSeconds (n : Nat) : Duration := ⟨n * 1000000000⟩

def millis (d : Duration) : Nat := d.nanos / 1000000

def fractionText (value places : Nat) : List Char :=
  let digits := Nat.toDigits 10 value
  let padded := List.replicate (places - digits.length) '0' ++ digits
  (padded.reverse.dropWhile (· == '0')).reverse

def inUnit (nanos unit places : Nat) (name : String) : String :=
  let fraction := fractionText (nanos % unit) places
  let whole := Nat.toDigits 10 (nanos / unit)
  String.ofList (if fraction.isEmpty then whole else whole ++ '.' :: fraction) ++ name

def text (d : Duration) : String :=
  if 1000000000 ≤ d.nanos then inUnit d.nanos 1000000000 9 "s"
  else if 1000000 ≤ d.nanos then inUnit d.nanos 1000000 6 "ms"
  else if 1000 ≤ d.nanos then inUnit d.nanos 1000 3 "µs"
  else inUnit d.nanos 1 0 "ns"

end Duration

end AsmDiagnostics.Number
