/-!
# Decimal.Shortest — the fewest digits that read back

A finite binary number stands for every real number that rounds to it.  Its shortest decimal is the decimal with the
fewest digits among those, and of two with equally many digits the nearer one.  The search runs over the powers of ten
from the greatest down; on the first grid that has a point in the interval, one of the two neighbours of the number is
such a point.
-/
namespace Scaffold.Decimal

/-- A positive binary number `mantissa * 2 ^ exponent`; `narrow` says that the number below it is only half as far
away as the one above. -/
structure Binary where
  mantissa : Nat
  exponent : Int
  narrow : Bool
  deriving Repr, DecidableEq

def Binary.ofBits (bits : UInt64) : Binary :=
  let field : Nat := bits.toNat / Nat.pow 2 52 % Nat.pow 2 11
  let fraction : Nat := bits.toNat % Nat.pow 2 52
  if field == 0 then ⟨fraction, -1074, false⟩
  else ⟨fraction + Nat.pow 2 52, (field : Int) - 1075, fraction == 0 && field != 1⟩

/-- A positive decimal number `digits * 10 ^ exponent`. -/
structure Scaled where
  digits : Nat
  exponent : Int
  deriving Repr, DecidableEq

/-- The digits of the decimal nearest to the number on the grid of a power of ten, if one of the two neighbours of the
number rounds to it.  All amounts are quarters of the number's last place, brought over one denominator; the ends of
the interval belong to it if the mantissa is even. -/
def onGrid? (b : Binary) (power : Int) : Option Nat :=
  let up := Nat.pow 2 (b.exponent - 2).toNat * Nat.pow 10 (-power).toNat
  let step := Nat.pow 2 (2 - b.exponent).toNat * Nat.pow 10 power.toNat
  let value := 4 * b.mantissa * up
  let low := (4 * b.mantissa - if b.narrow then 1 else 2) * up
  let high := (4 * b.mantissa + 2) * up
  let inside (amount : Nat) : Bool :=
    if b.mantissa % 2 == 0 then low ≤ amount && amount ≤ high else low < amount && amount < high
  let below := value / step
  let fits (digits : Nat) : Bool := inside (digits * step)
  if fits below && fits (below + 1) then
    if 2 * (value - below * step) ≤ step then some below else some (below + 1)
  else if fits below then some below
  else if fits (below + 1) then some (below + 1)
  else none

/-- Searches the grids from a power of ten downward; `steps` powers are tried. -/
def search (b : Binary) : Nat → Int → Scaled
  | 0, power => ⟨0, power⟩
  | steps + 1, power =>
    match onGrid? b power with
    | some digits => ⟨digits, power⟩
    | none => search b steps (power - 1)

/-- The shortest decimal of a positive number.  No finite double reaches the power 309, and each has a decimal with at
most seventeen digits, so the search ends among these powers. -/
def shortest (b : Binary) : Scaled := search b 660 309

end Scaffold.Decimal
