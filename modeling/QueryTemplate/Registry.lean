import QueryTemplate.Definition.Reader
import QueryTemplate.Files
import QueryTemplate.Method
import QueryTemplate.Suggestion
import Std.Data.TreeMap

/-! Registries of query methods, found by name and listed in the order in which they came.

A method once registered stays. A name is registered once; what fails to register changes nothing.
-/

set_option autoImplicit false

namespace QueryTemplate

inductive DefinitionError where
  | compile (source : CompileError)
  | duplicateMethod (name : String)
  | json (source : Json.Error)
  | io (path : String) (source : ReadError)
  deriving DecidableEq, Repr

namespace DefinitionError

def message : DefinitionError → String
  | compile source => source.message
  | duplicateMethod name => s!"duplicate query method '{name}'"
  | json source => s!"invalid repository definition: {source.message}"
  | io path source => s!"failed to read '{path}': {source.message}"

def causes : DefinitionError → List String
  | compile (.parse _ source) => [source.message]
  | json source => [source.message]
  | io _ source => [source.message]
  | _ => []

end DefinitionError

structure Registry where
  methods : Std.TreeMap String Method := {}
  order : List String := []

namespace Registry

def empty : Registry := {}

def get? (registry : Registry) (name : String) : Option Method := registry.methods[name]?

def toList (registry : Registry) : List Method := registry.order.filterMap registry.get?

def size (registry : Registry) : Nat := registry.methods.size

def isEmpty (registry : Registry) : Bool := registry.methods.isEmpty

def insert (registry : Registry) (method : Method) : Except DefinitionError Registry :=
  if registry.methods.contains method.name then .error (.duplicateMethod method.name)
  else .ok ⟨registry.methods.insert method.name method, registry.order ++ [method.name]⟩

def define (registry : Registry) (definition : MethodDefinition) : Except DefinitionError Registry :=
  match Method.compile definition with
  | .error source => .error (.compile source)
  | .ok method => registry.insert method

def createQuery (registry : Registry) (name : String) (values : List Value) : Except BindError Text :=
  match registry.get? name with
  | none => .error (.methodNotFound name (suggestions name registry.order))
  | some method => method.createQuery values

def warnings (registry : Registry) : List Warning := registry.toList.flatMap Method.warnings

end Registry

end QueryTemplate
