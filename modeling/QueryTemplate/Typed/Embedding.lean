import QueryTemplate.Value
import Std.Data.TreeSet

/-! Integers of a fixed width, and Lean types whose values are values of the library, nested to any
depth and without a kind. -/

set_option autoImplicit false

namespace QueryTemplate

structure IntegerFormat where
  signed : Bool
  bits : Nat
  deriving DecidableEq, Repr

namespace IntegerFormat

def least (f : IntegerFormat) : Int := if f.signed then -(Nat.pow 2 (f.bits - 1) : Nat) else 0

def greatest (f : IntegerFormat) : Int := (Nat.pow 2 (if f.signed then f.bits - 1 else f.bits) : Nat) - 1

end IntegerFormat

structure FixedInteger (f : IntegerFormat) where
  value : Int
  least_le : f.least ≤ value
  le_greatest : value ≤ f.greatest
  deriving DecidableEq, Repr

def FixedInteger.ofInt? (f : IntegerFormat) (n : Int) : Option (FixedInteger f) :=
  if h : f.least ≤ n ∧ n ≤ f.greatest then some ⟨n, h.1, h.2⟩ else none

open Number (Binary32 Binary64)

class Embedding (α : Type) where
  embed : α → Value

def Value.of {α : Type} [Embedding α] (x : α) : Value := Embedding.embed x

namespace Embedding

variable {α : Type}

instance {f : IntegerFormat} : Embedding (FixedInteger f) := ⟨fun n => .integer n.value⟩

instance : Embedding Binary32 := ⟨fun x => .float (Number.widen x)⟩

instance : Embedding Binary64 := ⟨.float⟩

instance : Embedding Bool := ⟨.boolean⟩

instance : Embedding Char := ⟨fun c => .string [c]⟩

instance : Embedding String := ⟨fun s => .string s.toList⟩

instance option [Embedding α] : Embedding (Option α) :=
  ⟨fun
    | none => .null
    | some x => .of x⟩

/-- The items one after the other, collected from the last. -/
def collect [Embedding α] (xs : List α) : Value := .list (xs.foldr (fun x values => .of x :: values) [])

instance list [Embedding α] : Embedding (List α) := ⟨collect⟩

instance array [Embedding α] : Embedding (Array α) := ⟨fun xs => .list (xs.map Value.of).toList⟩

instance vector {n : Nat} [Embedding α] : Embedding (Vector α n) :=
  ⟨fun xs => .list (xs.map Value.of).toList⟩

instance queue [Embedding α] : Embedding (Std.Queue α) :=
  ⟨fun xs => .list (xs.dList.map .of ++ (xs.eList.map .of).reverse)⟩

instance set {cmp : α → α → Ordering} [Embedding α] : Embedding (Std.TreeSet α cmp) :=
  ⟨fun xs => collect xs.toList⟩

end Embedding

end QueryTemplate
