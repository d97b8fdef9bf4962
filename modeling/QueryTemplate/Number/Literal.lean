import QueryTemplate.Number.Nearest

/-! The literal forms of numbers.

The positional form never has an exponent and shows a point only before a fraction. The scientific
form always shows a point or an exponent; it is positional for numbers of moderate size.
-/

set_option autoImplicit false

namespace QueryTemplate.Number

namespace Decimal

def positional (d : Decimal) : Text :=
  let digits := Text.decimal d.coefficient
  match d.exponent with
  | .ofNat zeros => digits ++ List.replicate zeros '0'
  | .negSucc n =>
    let places := n + 1
    if places < digits.length then
      digits.take (digits.length - places) ++ '.' :: digits.drop (digits.length - places)
    else '0' :: '.' :: List.replicate (places - digits.length) '0' ++ digits

/-- Positional when the point falls within sixteen digits or at most four zeros follow it, and
then with at least one digit after the point; otherwise one digit, its fraction and an exponent with
its sign. -/
def scientific (d : Decimal) : Text :=
  let digits := Text.decimal d.coefficient
  let point : Int := digits.length + d.exponent
  if d.coefficient = 0 then ['0', '.', '0']
  else if -5 < point ∧ point ≤ 16 then
    if 0 ≤ d.exponent then d.positional ++ ['.', '0'] else d.positional
  else
    let fraction := match digits with
      | first :: [] => [first]
      | first :: rest => first :: '.' :: rest
      | [] => []
    let sign := if 0 < point then ['+'] else []
    fraction ++ 'e' :: sign ++ Text.signedDecimal (point - 1)

end Decimal

namespace Binary

variable {f : FloatFormat}

/-- The sign, then what `finite` makes of the shortest digits; infinities and what is no number
have names. -/
def spell (tie : Tie) (finite : Decimal → Text) (x : Binary f) : Text :=
  if x.isNaN then ['N', 'a', 'N']
  else
    let size := if x.isInfinite then ['i', 'n', 'f'] else finite (shortest tie x)
    if x.negative then '-' :: size else size

def literal (x : Binary f) : Text := x.spell .up Decimal.positional

def dataLiteral (x : Binary f) : Text := x.spell .even Decimal.scientific

end Binary

/-- The double that the literal form of a single denotes; one without digits keeps its kind. -/
def widen (x : Binary32) : Binary64 :=
  -- Of the words that are no number, the one with the top bit of its fraction alone.
  if x.isNaN then .ofMagnitude false (Nat.pow 2 51 + FloatFormat.double.infinity)
  else if x.isInfinite then .ofMagnitude x.negative FloatFormat.double.infinity
  else (shortest .up x).nearest .double x.negative

end QueryTemplate.Number
