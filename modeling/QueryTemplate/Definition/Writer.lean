import QueryTemplate.Json.Writer
import QueryTemplate.Kind

/-! Declarations of query methods, alone and as a repository, and the JSON values that they are
written as. All fields are written, in their order. -/

set_option autoImplicit false

namespace QueryTemplate

structure MethodDefinition where
  name : String
  query : Text
  params : List Kind := []
  deriving DecidableEq, Repr

structure RepositoryDefinition where
  methods : List MethodDefinition := []
  deriving DecidableEq, Repr

def Kind.toJson (kind : Kind) : Json := .ofString kind.name

def MethodDefinition.toJson (definition : MethodDefinition) : Json :=
  .object [("name".toList, .ofString definition.name), ("query".toList, .string definition.query),
    ("params".toList, .array (definition.params.map Kind.toJson))]

def RepositoryDefinition.toJson (definition : RepositoryDefinition) : Json :=
  .object [("methods".toList, .array (definition.methods.map MethodDefinition.toJson))]

end QueryTemplate
