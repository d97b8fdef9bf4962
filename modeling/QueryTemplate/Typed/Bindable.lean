import QueryTemplate.Typed.Embedding
import QueryTemplate.Value
import Std.Data.TreeSet

/-! Lean types whose values bind to placeholders.

The kind of a parameter is fixed by its type. A missing value becomes null, which no kind accepts.
Collections hold items only, and a single-precision number keeps its own literal form.
-/

set_option autoImplicit false

namespace QueryTemplate

open Number (Binary32 Binary64)

structure Shared (α : Type) where
  target : α
  deriving DecidableEq, Repr

class Bindable (α : Type) where
  kind : Kind
  toValue : α → Value

/-- A type whose values may be items of a collection. -/
class BindableItem (α : Type) extends Bindable α where
  element : ElementKind

def Argument.of {α : Type} [Bindable α] (x : α) : Argument := ⟨Bindable.kind α, Bindable.toValue x⟩

namespace Bindable

variable {α : Type}

instance {f : IntegerFormat} : BindableItem (FixedInteger f) where
  kind := .scalar
  toValue n := .integer n.value
  element := .scalar

instance : BindableItem Binary32 where
  kind := .scalar
  toValue x := .float (Number.widen x)
  element := .scalar

instance : BindableItem Binary64 where
  kind := .scalar
  toValue x := .float x
  element := .scalar

instance : BindableItem Bool where
  kind := .scalar
  toValue b := .boolean b
  element := .scalar

instance : BindableItem Char where
  kind := .string
  toValue c := .string [c]
  element := .string

instance : BindableItem String where
  kind := .string
  toValue s := .string s.toList
  element := .string

instance shared [Bindable α] : Bindable (Shared α) where
  kind := kind α
  toValue x := toValue x.target

instance sharedItem [BindableItem α] : BindableItem (Shared α) where
  element := BindableItem.element α

instance option [Bindable α] : Bindable (Option α) where
  kind := kind α
  toValue x := (x.map toValue).getD .null

instance optionItem [BindableItem α] : BindableItem (Option α) where
  element := BindableItem.element α

instance list [BindableItem α] : Bindable (List α) where
  kind := .collection (BindableItem.element α)
  toValue xs := .list (xs.map toValue)

instance array [BindableItem α] : Bindable (Array α) where
  kind := .collection (BindableItem.element α)
  toValue xs := toValue xs.toList

instance vector {n : Nat} [BindableItem α] : Bindable (Vector α n) where
  kind := .collection (BindableItem.element α)
  toValue xs := toValue xs.toList

instance queue [BindableItem α] : Bindable (Std.Queue α) where
  kind := .collection (BindableItem.element α)
  toValue xs := .list (xs.toArray.toList.map toValue)

instance set {cmp : α → α → Ordering} [BindableItem α] : Bindable (Std.TreeSet α cmp) where
  kind := .collection (BindableItem.element α)
  toValue xs := .list (xs.toList.map toValue)

end Bindable

end QueryTemplate
