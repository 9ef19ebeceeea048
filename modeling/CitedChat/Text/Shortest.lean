/-!
The shortest decimal that reads back as a given double: of all decimals inside the interval of
reals that round to the double, one with the fewest digits, and of those the nearest.
-/

set_option autoImplicit false

namespace CitedChat.Text

/-- The positive decimal `digits · 10 ^ exponent`. -/
structure Decimal where
  digits : Nat
  exponent : Int
  deriving DecidableEq

/-- The positive double `mantissa · 2 ^ exponent`. -/
structure Binary where
  mantissa : Nat
  exponent : Int
  deriving DecidableEq

/-- The least mantissa of a double that is not subnormal. -/
def leastMantissa : Nat := 0x10000000000000

/-- Mantissa and exponent of a finite double, its sign dropped. -/
def Binary.ofFloat (x : Float) : Binary :=
  let bits : Nat := x.toBits.toNat
  let fraction := bits % leastMantissa
  let biased := bits / leastMantissa % 0x800
  if biased == 0 then ⟨fraction, -1074⟩
  else ⟨fraction + leastMantissa, Int.ofNat biased - 1075⟩

/-- The reals that round to the double, in quarters of its last place: the neighbour below is half
as far away when the mantissa is the least one, and the ends belong to an even mantissa. -/
structure Binary.Interval where
  low : Nat
  middle : Nat
  high : Nat
  closed : Bool

def Binary.interval (b : Binary) : Binary.Interval where
  low := 4 * b.mantissa - (if b.mantissa == leastMantissa && -1074 < b.exponent then 1 else 2)
  middle := 4 * b.mantissa
  high := 4 * b.mantissa + 2
  closed := b.mantissa % 2 == 0

/-- `(n, d)` with `n / d = 10 ^ k`. -/
def tenPower (k : Int) : Nat × Nat :=
  if 0 ≤ k then (Nat.pow 10 k.toNat, 1) else (1, Nat.pow 10 (-k).toNat)

/-- `(n, d)` with `n / d = 2 ^ k`. -/
def twoPower (k : Int) : Nat × Nat :=
  if 0 ≤ k then (Nat.pow 2 k.toNat, 1) else (1, Nat.pow 2 (-k).toNat)

/-- The two neighbours of the value on the grid of multiples of `10 ^ k` that round to the double,
the nearer one first and the even one of two equally near. -/
def Binary.onGrid (b : Binary) (k : Int) : Option Decimal :=
  let (n, d) := tenPower k
  let (bn, bd) := twoPower (b.exponent - 2)
  -- quarters of the last place, and multiples of the grid, over one common denominator
  let quarter := bn * d
  let unit := n * bd
  let i := b.interval
  let inside (x : Nat) : Bool :=
    if i.closed then i.low * quarter ≤ x * unit && x * unit ≤ i.high * quarter
    else i.low * quarter < x * unit && x * unit < i.high * quarter
  let below := i.middle * quarter / unit
  let left := i.middle * quarter - below * unit
  let right := (below + 1) * unit - i.middle * quarter
  let belowFirst := left < right || (left == right && below % 2 == 0)
  match inside below, inside (below + 1) with
  | true, true => some ⟨if belowFirst then below else below + 1, k⟩
  | true, false => some ⟨below, k⟩
  | false, true => some ⟨below + 1, k⟩
  | false, false => none

/-- Whether the value is at least `10 ^ k`. -/
def Binary.reaches (b : Binary) (k : Int) : Bool :=
  let (n, d) := tenPower k
  let (bn, bd) := twoPower b.exponent
  n * bd ≤ b.mantissa * bn * d

/-- The exponent of the leading digit, searched downwards from `k`. -/
def Binary.leading (b : Binary) : Nat → Int → Int
  | 0, k => k
  | fuel + 1, k => if b.reaches k then k else b.leading fuel (k - 1)

/-- The first grid that holds a fitting decimal, from the coarsest on; seventeen digits always
suffice. -/
def Binary.firstFit (b : Binary) : Nat → Int → Decimal
  | 0, k => ⟨b.mantissa, k⟩
  | fuel + 1, k => (b.onGrid k).getD (b.firstFit fuel (k - 1))

/-- Trailing zeros move into the exponent. -/
def Decimal.strip : Nat → Decimal → Decimal
  | 0, x => x
  | fuel + 1, x =>
    if x.digits ≠ 0 ∧ x.digits % 10 = 0 then strip fuel ⟨x.digits / 10, x.exponent + 1⟩ else x

def Binary.shortest (b : Binary) : Decimal :=
  if b.mantissa == 0 then ⟨0, 0⟩
  else (b.firstFit 18 (b.leading 700 309 + 1)).strip 20

end CitedChat.Text
