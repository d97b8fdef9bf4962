import QueryTemplate.Text

/-! Kinds of parameters. A kind is declared with a parameter and decides how its values are written;
it is either an element class or a collection of one. -/

set_option autoImplicit false

namespace QueryTemplate

/-- What a single item is: text to be escaped, or a number or truth value in its literal form. -/
inductive ElementKind where
  | string
  | scalar
  deriving DecidableEq, Repr

inductive Kind where
  | single (element : ElementKind)
  | collection (element : ElementKind)
  deriving DecidableEq, Repr

namespace Kind

@[match_pattern] abbrev string : Kind := .single .string

@[match_pattern] abbrev scalar : Kind := .single .scalar

@[match_pattern] abbrev strings : Kind := .collection .string

@[match_pattern] abbrev scalars : Kind := .collection .scalar

def all : List Kind := [string, scalar, strings, scalars]

/-- The class of the kind's items; of a single kind, its own. -/
def element : Kind → ElementKind
  | single e => e
  | collection e => e

def name : Kind → String
  | string => "string"
  | scalar => "scalar"
  | strings => "string-collection"
  | scalars => "scalar-collection"

/-- Other names, understood on the command line only. -/
def aliases : Kind → List String
  | string => ["str"]
  | scalar => ["number", "bool"]
  | strings => ["string-list", "strings"]
  | scalars => ["scalar-list", "scalars"]

def ofName? (name : String) : Option Kind := all.find? (·.name == name)

def ofAlias? (name : String) : Option Kind :=
  all.find? fun kind => kind.name == name || kind.aliases.contains name

theorem ofName?_name (kind : Kind) : ofName? kind.name = some kind := by
  rcases kind with e | e <;> cases e <;> rfl

theorem ofAlias?_name (kind : Kind) : ofAlias? kind.name = some kind := by
  rcases kind with e | e <;> cases e <;> rfl

def unknownMessage (name : String) : String :=
  s!"unknown parameter kind '{name}', expected one of: string, scalar, string-collection, scalar-collection"

end Kind

end QueryTemplate
