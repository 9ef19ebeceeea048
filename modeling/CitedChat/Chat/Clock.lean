import CitedChat.Word

/-!
The clock of a session. Its instants are counted from an origin of its own, in whole milliseconds;
the last one that it can name is bounded, since it holds the seconds in a word. Spans of time are
given in microseconds, and are written with the largest unit that gives a whole number and the rest
as a decimal fraction without trailing zeros.
-/

set_option autoImplicit false

namespace CitedChat.Clock

/-- The first instant that the clock cannot name, in microseconds. -/
def limit : Nat := Word.signedLimit * 1000000

/-- The clock can name the instant that comes a span after another. -/
def reaches (now micros : Nat) : Bool :=
  decide (1000 * now + micros < limit)

/-- A span takes up whole milliseconds of the clock. -/
def ceilMillis (micros : Nat) : Nat :=
  (micros + 999) / 1000

/-! ### Spans in words -/

/-- The digits of `rest / 10 ^ width` behind the point, trailing zeros dropped. -/
def fractionDigits (rest width : Nat) : List Char :=
  let digits := Nat.toDigits 10 rest
  let padded := List.replicate (width - digits.length) '0' ++ digits
  (padded.reverse.dropWhile (· == '0')).reverse

def withUnit (whole rest width : Nat) (unit : String) : String :=
  let fraction := if rest == 0 then [] else '.' :: fractionDigits rest width
  toString whole ++ String.ofList fraction ++ unit

/-- A span in seconds, milliseconds or microseconds; none at all counts in nanoseconds. -/
def duration (micros : Nat) : String :=
  if 1000000 ≤ micros then withUnit (micros / 1000000) (micros % 1000000) 6 "s"
  else if 1000 ≤ micros then withUnit (micros / 1000) (micros % 1000) 3 "ms"
  else if 0 < micros then toString micros ++ "µs"
  else "0ns"

end CitedChat.Clock
