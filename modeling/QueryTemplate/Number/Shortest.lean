import QueryTemplate.Number.Binary

/-! The fewest decimal digits that read back.

The reals that round to a finite number form an interval. The digits are those of the coarsest
decimal grid that meets it, and of its points there the nearest to the number. Over one power of ten
all of these are whole numbers.
-/

set_option autoImplicit false

namespace QueryTemplate.Number

/-- A non-negative decimal: a coefficient times ten to an exponent. -/
structure Decimal where
  coefficient : Nat
  exponent : Int
  deriving DecidableEq, Repr

inductive Tie where
  | up
  | even
  deriving DecidableEq, Repr

/-- The reals that round to one number, with that number, in units of ten to `unit`. -/
structure Rounding where
  low : Nat
  value : Nat
  high : Nat
  closed : Bool
  unit : Int
  deriving Repr

namespace Rounding

/-- Quarters of the last place, so that the ends are whole. -/
def ofBinary {f : FloatFormat} (x : Binary f) : Rounding :=
  let exponent := x.exponent - 2
  -- Two to a negative power is five to its opposite, counted in units of that power of ten.
  let scale := Nat.pow (if exponent < 0 then 5 else 2) exponent.natAbs
  let quarters := 4 * x.significand
  { low := (quarters - if x.belowIsCloser then 1 else 2) * scale
    value := quarters * scale
    high := (quarters + 2) * scale
    closed := x.significand % 2 == 0
    unit := min exponent 0 }

def contains (r : Rounding) (point : Nat) : Bool :=
  if r.closed then r.low ≤ point && point ≤ r.high else r.low < point && point < r.high

/-- Of the two neighbours of the number on the grid of `step`, the one to take: the nearer if both
lie in the interval. -/
def onGrid (r : Rounding) (tie : Tie) (step : Nat) : Option Nat :=
  let below := r.value / step
  let above := below + 1
  match r.contains (below * step), r.contains (above * step) with
  | true, true =>
    let down := r.value - below * step
    let up := above * step - r.value
    if down < up then some below
    else if up < down then some above
    else match tie with
      | .up => some above
      | .even => some (if below % 2 = 0 then below else above)
  | true, false => some below
  | false, true => some above
  | false, false => none

/-- Search the grids of ten to `places`, ten to one less and so on; the one of single units always
holds the number. -/
def search (r : Rounding) (tie : Tie) : Nat → Decimal
  | 0 => ⟨r.value, r.unit⟩
  | places + 1 =>
    match r.onGrid tie (Nat.pow 10 (places + 1)) with
    | some coefficient => ⟨coefficient, r.unit + (places + 1 : Nat)⟩
    | none => r.search tie places

end Rounding

/-- The fewest digits that read back as `x`, which is taken to be finite and without its sign. -/
def shortest {f : FloatFormat} (tie : Tie) (x : Binary f) : Decimal :=
  if x.significand = 0 then ⟨0, 0⟩
  else
    let r := Rounding.ofBinary x
    r.search tie (Text.decimal r.value).length

end QueryTemplate.Number
