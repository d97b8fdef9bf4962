import QueryTemplate.Json
import QueryTemplate.Number.Nearest

/-! Numbers in JSON texts.

Integers of 64 bits keep their value. Of any other number the leading digits are taken that 64 bits
hold, and scaled by a power of ten in floating-point arithmetic, so it may not be the double nearest
to what is written.
-/

set_option autoImplicit false

namespace QueryTemplate.Json

structure NumberText where
  whole : Text
  fraction : Text := []
  exponent : Option (Bool × Text) := none
  deriving DecidableEq, Repr

/-- The largest exponent that is told apart from still larger ones. -/
def exponentLimit : Nat := Nat.pow 2 31 - 1

def passesLimit? (value : Nat) : Text → Option Text
  | [] => none
  | c :: rest =>
    let value := 10 * value + (c.toNat - '0'.toNat)
    if exponentLimit < value then some rest else passesLimit? value rest

/-- An exponent, after its letter: whether it is positive, and its digits. -/
def exponentPart (rest : Text) : Except Fault ((Bool × Text) × Text) :=
  let (positive, rest) := match rest with
    | '+' :: rest => (true, rest)
    | '-' :: rest => (false, rest)
    | rest => (true, rest)
  match rest with
  | [] => fail .endOfValue [] 0
  | c :: tail =>
    if Text.isDigit c then .ok ((positive, rest.takeWhile Text.isDigit), rest.dropWhile Text.isDigit)
    else fail .invalidNumber (c :: tail) 1

def withExponent (number : NumberText) : Text → Except Fault (NumberText × Text)
  | 'e' :: rest | 'E' :: rest => do
    let (exponent, rest) ← exponentPart rest
    .ok ({ number with exponent := some exponent }, rest)
  | rest => .ok (number, rest)

def withFraction (whole : Text) : Text → Except Fault (NumberText × Text)
  | '.' :: rest =>
    match rest.takeWhile Text.isDigit with
    | [] => failAheadOrEnd .invalidNumber .endOfValue rest
    | fraction => withExponent { whole, fraction } (rest.dropWhile Text.isDigit)
  | rest => withExponent { whole } rest

def numberText : Text → Except Fault (NumberText × Text)
  | [] => fail .endOfValue [] 0
  | '0' :: rest =>
    match rest with
    | c :: _ => if Text.isDigit c then failAhead .invalidNumber rest else withFraction ['0'] rest
    | [] => withFraction ['0'] rest
  | c :: rest =>
    if Text.isDigit c then
      withFraction (c :: rest.takeWhile Text.isDigit) (rest.dropWhile Text.isDigit)
    else fail .invalidNumber (c :: rest) 1

/-- Digits taken into a significand, up to the first for which 64 bits have no room. -/
def takeDigits (significand : Nat) : Text → Nat × Text
  | [] => (significand, [])
  | c :: rest =>
    let next := 10 * significand + (c.toNat - '0'.toNat)
    if next < Nat.pow 2 64 then takeDigits next rest else (significand, c :: rest)

/-- The greatest power of ten by which a number is scaled at once. -/
def greatestPower : Nat := 308

def tenPower (n : Nat) : Number.Binary64 := .ofNat (Nat.pow 10 n)

/-- Division by the greatest power, over and over until nothing is left. -/
def scaleDown : Nat → Number.Binary64 → Number.Binary64
  | 0, x => x
  | count + 1, x => if x.magnitude = 0 then x else scaleDown count (x.dividedBy (tenPower greatestPower))

def scaled (d : Number.Decimal) : Number.Binary64 :=
  let x : Number.Binary64 := .ofNat d.coefficient
  match d.exponent with
  | .ofNat n =>
    if n ≤ greatestPower then x.times (tenPower n)
    else if x.magnitude = 0 then x
    else .ofMagnitude false Number.FloatFormat.double.infinity
  | .negSucc n => (scaleDown (n / greatestPower) x).dividedBy (tenPower (n % greatestPower + 1))

namespace NumberText

/-- An integer keeps its value if 64 bits hold it; negative zero is no integer. -/
def integer? (negative : Bool) (number : NumberText) : Option Int :=
  match number.fraction, number.exponent with
  | [], none =>
    let n := Text.digitsValue number.whole
    if negative then (if 0 < n ∧ n ≤ Nat.pow 2 63 then some (-n) else none)
    else if n < Nat.pow 2 64 then some n else none
  | _, _ => none

/-- The leading digits, without the exponent that is written. Further digits before the point count
as factors of ten; behind the point they are left out. -/
def leading (number : NumberText) : Number.Decimal :=
  let (whole, further) := takeDigits 0 number.whole
  let (significand, left) := takeDigits whole number.fraction
  ⟨significand, further.length - (number.fraction.length - left.length : Nat)⟩

def decimal (number : NumberText) : Number.Decimal :=
  let shift : Int := match number.exponent with
    | none => 0
    | some (positive, digits) =>
      let size := Text.digitsValue digits
      if positive then size else -size
  ⟨number.leading.coefficient, number.leading.exponent + shift⟩

/-- The number, which `rest` follows. An exponent past the limit makes it zero if negative or if all
digits are zero; a positive one is refused at the digit that passes the limit. -/
def read (negative : Bool) (number : NumberText) (rest : Text) : Except Fault (Numeral × Text) :=
  match number.integer? negative with
  | some n => .ok (.integer n, rest)
  | none =>
    let passed := number.exponent.bind fun (positive, digits) =>
      (passesLimit? 0 digits).map fun left => (positive, left)
    match passed with
    | some (positive, left) =>
      if positive ∧ number.leading.coefficient ≠ 0 then fail .numberOutOfRange (left ++ rest) 0
      else .ok (.float (.ofMagnitude negative 0), rest)
    | none =>
      let x := scaled number.decimal
      if x.isInfinite then fail .numberOutOfRange rest 0
      else .ok (.float (.ofMagnitude negative x.magnitude), rest)

end NumberText

def numeral : Text → Except Fault (Numeral × Text)
  | '-' :: rest => do
    let (spelling, rest) ← numberText rest
    spelling.read true rest
  | rest => do
    let (spelling, rest) ← numberText rest
    spelling.read false rest

end QueryTemplate.Json
