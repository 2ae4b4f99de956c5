/-
  Lengths of time: whole seconds and nanoseconds below one second.  In a log a
  duration is shown in its largest unit with the exact fraction.
-/
import QueryWire.Text.Numeral

namespace QueryWire

structure Duration where
  seconds : Nat
  nanos : Nat
  nanos_lt : nanos < 1000000000
deriving DecidableEq

namespace Duration

/-- The duration of some seconds and any number of nanoseconds. -/
def ofParts (seconds nanos : Nat) : Duration :=
  ⟨seconds + nanos / 1000000000, nanos % 1000000000, Nat.mod_lt _ (by decide)⟩

def ofMillis (millis : Nat) : Duration :=
  ofParts (millis / 1000) (millis % 1000 * 1000000)

/-- All of it in nanoseconds. -/
def inNanos (d : Duration) : Nat :=
  d.seconds * 1000000000 + d.nanos

theorem inNanos_ofParts (seconds nanos : Nat) :
    (ofParts seconds nanos).inNanos = seconds * 1000000000 + nanos := by
  simp only [inNanos, ofParts]
  omega

theorem inNanos_ofMillis (millis : Nat) : (ofMillis millis).inNanos = millis * 1000000 := by
  rw [ofMillis, inNanos_ofParts]
  omega

/-- A number of parts, of which a whole has `10 ^ places`, with zeros at the end cut. -/
def decimalChars (places parts : Nat) : List Char :=
  let whole := Text.Numeral.ofNat (parts / Nat.pow 10 places)
  let digits := (Text.Numeral.padded places (parts % Nat.pow 10 places)).take places
  let fraction := (digits.reverse.dropWhile (· == '0')).reverse
  if fraction.isEmpty then whole else whole ++ '.' :: fraction

def diagnostic (d : Duration) : String :=
  if d.seconds ≠ 0 then String.ofList (decimalChars 9 d.inNanos) ++ "s"
  else if 1000000 ≤ d.nanos then String.ofList (decimalChars 6 d.nanos) ++ "ms"
  else if 1000 ≤ d.nanos then String.ofList (decimalChars 3 d.nanos) ++ "µs"
  else String.ofList (decimalChars 0 d.nanos) ++ "ns"

end Duration

end QueryWire
