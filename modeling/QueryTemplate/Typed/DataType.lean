import QueryTemplate.Typed.Bindable
import QueryTemplate.Typed.Embedding

/-! The types of data that a caller may have, as data themselves.

Each stands for a Lean type with an order, which sets of it follow. Which of the types bind and
which embed is computed with the instances that the Lean types have.
-/

set_option autoImplicit false

namespace QueryTemplate

open Number (Binary32 Binary64)

inductive DataType where
  | integer (f : IntegerFormat)
  | single
  | double
  | boolean
  | character
  | string
  | shared (t : DataType)
  | optional (t : DataType)
  | list (t : DataType)
  | array (t : DataType)
  | vector (n : Nat) (t : DataType)
  | queue (t : DataType)
  | set (t : DataType)
  deriving DecidableEq, Repr

structure Domain where
  carrier : Type
  order : carrier → carrier → Ordering

namespace DataType

def optionOrder {α : Type} (order : α → α → Ordering) : Option α → Option α → Ordering
  | none, none => .eq
  | none, some _ => .lt
  | some _, none => .gt
  | some a, some b => order a b

/-- What a type stands for. Floating-point numbers are ordered by their words. -/
def domain : DataType → Domain
  | integer f => ⟨FixedInteger f, fun a b => compare a.value b.value⟩
  | single => ⟨Binary32, fun a b => compare a.word.toNat b.word.toNat⟩
  | double => ⟨Binary64, fun a b => compare a.word.toNat b.word.toNat⟩
  | boolean => ⟨Bool, compare⟩
  | character => ⟨Char, compare⟩
  | string => ⟨String, compare⟩
  | shared t => ⟨Shared t.domain.carrier, fun a b => t.domain.order a.target b.target⟩
  | optional t => ⟨Option t.domain.carrier, optionOrder t.domain.order⟩
  | list t => ⟨List t.domain.carrier, List.compareLex t.domain.order⟩
  | array t => ⟨Array t.domain.carrier, fun a b => List.compareLex t.domain.order a.toList b.toList⟩
  | vector n t =>
    ⟨Vector t.domain.carrier n, fun a b => List.compareLex t.domain.order a.toList b.toList⟩
  | queue t =>
    ⟨Std.Queue t.domain.carrier,
      fun a b => List.compareLex t.domain.order a.toArray.toList b.toArray.toList⟩
  | set t =>
    ⟨Std.TreeSet t.domain.carrier t.domain.order,
      fun a b => List.compareLex t.domain.order a.toList b.toList⟩

abbrev carrier (t : DataType) : Type := t.domain.carrier

def item? : (t : DataType) → Option (BindableItem t.carrier)
  | integer f => some (inferInstanceAs (BindableItem (FixedInteger f)))
  | single => some (inferInstanceAs (BindableItem Binary32))
  | double => some (inferInstanceAs (BindableItem Binary64))
  | boolean => some (inferInstanceAs (BindableItem Bool))
  | character => some (inferInstanceAs (BindableItem Char))
  | string => some (inferInstanceAs (BindableItem String))
  | shared t => t.item?.map fun held => @Bindable.sharedItem _ held
  | optional t => t.item?.map fun held => @Bindable.optionItem _ held
  | list _ | array _ | vector _ _ | queue _ | set _ => none

def bindable? : (t : DataType) → Option (Bindable t.carrier)
  | shared t => t.bindable?.map fun held => @Bindable.shared _ held
  | optional t => t.bindable?.map fun held => @Bindable.option _ held
  | list t => t.item?.map fun held => @Bindable.list _ held
  | array t => t.item?.map fun held => @Bindable.array _ held
  | vector n t => t.item?.map fun held => @Bindable.vector _ n held
  | queue t => t.item?.map fun held => @Bindable.queue _ held
  | set t => t.item?.map fun held => @Bindable.set _ t.domain.order held
  | t => t.item?.map (·.toBindable)

/-- How the data embed into values, if they do. Handles do not. -/
def embedding? : (t : DataType) → Option (Embedding t.carrier)
  | integer f => some (inferInstanceAs (Embedding (FixedInteger f)))
  | single => some (inferInstanceAs (Embedding Binary32))
  | double => some (inferInstanceAs (Embedding Binary64))
  | boolean => some (inferInstanceAs (Embedding Bool))
  | character => some (inferInstanceAs (Embedding Char))
  | string => some (inferInstanceAs (Embedding String))
  | shared _ => none
  | optional t => t.embedding?.map fun held => @Embedding.option _ held
  | list t => t.embedding?.map fun held => @Embedding.list _ held
  | array t => t.embedding?.map fun held => @Embedding.array _ held
  | vector n t => t.embedding?.map fun held => @Embedding.vector _ n held
  | queue t => t.embedding?.map fun held => @Embedding.queue _ held
  | set t => t.embedding?.map fun held => @Embedding.set _ t.domain.order held

end DataType

end QueryTemplate
