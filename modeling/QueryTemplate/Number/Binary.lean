import QueryTemplate.Text

/-! Binary floating-point numbers, kept as the words that store them.

The magnitude, which is the word without its sign, counts the non-negative numbers of the format in
ascending order: zero, the subnormal numbers, the normal ones, then infinity, then the words that
are no number.
-/

set_option autoImplicit false

namespace QueryTemplate.Number

/-- The widths of the two fields below the sign. -/
structure FloatFormat where
  exponentBits : Nat
  fractionBits : Nat
  deriving DecidableEq, Repr

namespace FloatFormat

def double : FloatFormat := ⟨11, 52⟩

def single : FloatFormat := ⟨8, 23⟩

def width (f : FloatFormat) : Nat := 1 + f.exponentBits + f.fractionBits

/-- The magnitude of infinity: all ones in the exponent field, zero below it. -/
def infinity (f : FloatFormat) : Nat := (Nat.pow 2 f.exponentBits - 1) * Nat.pow 2 f.fractionBits

/-- The smallest positive number is two to this power. -/
def leastExponent (f : FloatFormat) : Int := 2 - (Nat.pow 2 (f.exponentBits - 1) + f.fractionBits : Nat)

end FloatFormat

structure Binary (f : FloatFormat) where
  word : BitVec f.width
  deriving DecidableEq, Repr

abbrev Binary64 := Binary .double

abbrev Binary32 := Binary .single

namespace Binary

variable {f : FloatFormat}

def ofMagnitude (negative : Bool) (magnitude : Nat) : Binary f :=
  ⟨.ofNat _ (if negative then Nat.pow 2 (f.width - 1) + magnitude else magnitude)⟩

def negative (x : Binary f) : Bool := Nat.pow 2 (f.width - 1) ≤ x.word.toNat

def magnitude (x : Binary f) : Nat := x.word.toNat % Nat.pow 2 (f.width - 1)

def isNaN (x : Binary f) : Bool := f.infinity < x.magnitude

def isInfinite (x : Binary f) : Bool := x.magnitude == f.infinity

/-- The field that tells the subnormal numbers, which have a zero there, from the others. -/
def exponentField (x : Binary f) : Nat := x.magnitude / Nat.pow 2 f.fractionBits

def fractionField (x : Binary f) : Nat := x.magnitude % Nat.pow 2 f.fractionBits

/-- A finite number is its significand times two to its exponent, up to its sign. -/
def significand (x : Binary f) : Nat :=
  if x.exponentField = 0 then x.fractionField else Nat.pow 2 f.fractionBits + x.fractionField

def exponent (x : Binary f) : Int := f.leastExponent + (x.exponentField - 1 : Nat)

/-- The numbers below a power of two lie twice as close as those above it, unless both are
subnormal. -/
def belowIsCloser (x : Binary f) : Bool := x.fractionField == 0 && 1 < x.exponentField

/-- Equality of numbers: what is no number equals nothing, and the two zeros are equal. -/
def sameNumber (x y : Binary f) : Bool :=
  !x.isNaN && !y.isNaN && (x == y || (x.magnitude == 0 && y.magnitude == 0))

end Binary

end QueryTemplate.Number
