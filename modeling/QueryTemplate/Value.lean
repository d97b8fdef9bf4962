import QueryTemplate.Kind
import QueryTemplate.Number.Literal

/-! Values bound to parameters. A value carries no kind of its own; a kind that it does not conform
to is an error when it is written. -/

set_option autoImplicit false

namespace QueryTemplate

open Number (Binary64)

inductive Value where
  | null
  | boolean (b : Bool)
  | integer (n : Int)
  | float (x : Binary64)
  | string (text : Text)
  | list (items : List Value)
  deriving Repr

/-- A value together with the declared kind of its parameter. -/
structure Argument where
  kind : Kind
  value : Value
  deriving Repr

namespace Value

/-- The name of the value's shape in messages. -/
def shape : Value → String
  | null => "null"
  | boolean _ => "boolean"
  | integer _ => "integer"
  | float _ => "float"
  | string _ => "string"
  | list _ => "list"

mutual
/-- Values are the same up to the equality of numbers: no number differs from itself, the two zeros
are one number, and an integer is never a floating-point number. -/
def same : Value → Value → Bool
  | null, null => true
  | boolean a, boolean b => a == b
  | integer a, integer b => a == b
  | float a, float b => a.sameNumber b
  | string a, string b => a == b
  | list a, list b => sameItems a b
  | _, _ => false

def sameItems : List Value → List Value → Bool
  | [], [] => true
  | a :: as, b :: bs => same a b && sameItems as bs
  | _, _ => false
end

mutual
def decEq : (a b : Value) → Decidable (a = b)
  | null, null => isTrue rfl
  | boolean a, boolean b => decidable_of_iff (a = b) (by simp)
  | integer a, integer b => decidable_of_iff (a = b) (by simp)
  | float a, float b => decidable_of_iff (a = b) (by simp)
  | string a, string b => decidable_of_iff (a = b) (by simp)
  | list a, list b =>
    match decEqItems a b with
    | isTrue h => isTrue (by rw [h])
    | isFalse h => isFalse (by simpa using h)
  | null, boolean _ | null, integer _ | null, float _ | null, string _ | null, list _
  | boolean _, null | boolean _, integer _ | boolean _, float _ | boolean _, string _
  | boolean _, list _ | integer _, null | integer _, boolean _ | integer _, float _
  | integer _, string _ | integer _, list _ | float _, null | float _, boolean _
  | float _, integer _ | float _, string _ | float _, list _ | string _, null
  | string _, boolean _ | string _, integer _ | string _, float _ | string _, list _
  | list _, null | list _, boolean _ | list _, integer _ | list _, float _ | list _, string _ =>
    isFalse (by simp)

def decEqItems : (as bs : List Value) → Decidable (as = bs)
  | [], [] => isTrue rfl
  | [], _ :: _ => isFalse (by simp)
  | _ :: _, [] => isFalse (by simp)
  | a :: as, b :: bs =>
    match decEq a b, decEqItems as bs with
    | isTrue h, isTrue t => isTrue (by rw [h, t])
    | isFalse h, _ => isFalse (by simp [h])
    | _, isFalse t => isFalse (by simp [t])
end

instance : DecidableEq Value := decEq

end Value

deriving instance DecidableEq for Argument

namespace Argument

def ofString (text : Text) : Argument := ⟨.string, .string text⟩

def ofScalar (value : Value) : Argument := ⟨.scalar, value⟩

def ofStrings (texts : List Text) : Argument := ⟨.strings, .list (texts.map .string)⟩

def ofScalars (values : List Value) : Argument := ⟨.scalars, .list values⟩

end Argument

end QueryTemplate
