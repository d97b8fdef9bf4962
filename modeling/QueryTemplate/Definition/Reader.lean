import QueryTemplate.Definition.Writer
import QueryTemplate.Json.Skip

/-! Reading declarations from JSON texts.

A declaration is an object of named fields, or a list of them in their order. A kind is its name, or
an object whose one member has that name and no value.
-/

set_option autoImplicit false

namespace QueryTemplate

open Json

def readString (expected : String) : Reader Text := fun text =>
  match skipBlank text with
  | '"' :: rest => stringBody rest
  | rest => unexpected expected rest

def readList {α : Type} (item : Reader α) : Reader (List α) := fun text =>
  match skipBlank text with
  | '[' :: rest => listBody item rest
  | rest => unexpected "a sequence" rest

def readKindName : Reader Kind := fun text => do
  let (name, rest) ← readString "variant identifier" text
  match Kind.ofName? (String.ofList name) with
  | some kind => .ok (kind, rest)
  | none => fail (.unknownVariant name (Kind.all.map Kind.name)) rest 0

def readUnit (text : Text) : Except Fault Text :=
  match skipBlank text with
  | 'n' :: rest => word ['u', 'l', 'l'] rest
  | rest => unexpected "unit" rest

/-- The name of a kind that stands as the key of an object, blanks before it left out. -/
def readKindKey : Reader Kind
  | '"' :: rest => readKindName ('"' :: rest)
  | '}' :: rest => failAhead .expectedValue ('}' :: rest)
  | rest => failAheadOrEnd .keyMustBeString .endOfObject rest

def readKind : Reader Kind := fun text =>
  match skipBlank text with
  | '"' :: rest => readKindName ('"' :: rest)
  | '{' :: rest => do
    let (kind, rest) ← readKindKey (skipBlank rest)
    match skipBlank (← readUnit (← colon rest)) with
    | '}' :: rest => .ok (kind, rest)
    | [] => fail .endOfObject [] 0
    | rest => fail .expectedValue rest 0
  | rest => failAheadOrEnd .expectedValue .endOfValue rest

def duplicate {α : Type} (name : String) (text : Text) : Except Fault α :=
  match skipBlank text with
  | '}' :: rest => fail (.duplicateField name) rest 0
  | rest => fail (.duplicateField name) rest 0

def readField {α : Type} (name : String) (before : Option α) (field : Reader α) : Reader α := fun text =>
  match before with
  | some _ => duplicate name text
  | none => do field (← colon text)

def skipField (text : Text) : Except Fault Text := do skipValue (← colon text)

namespace MethodDefinition

structure Fields where
  name : Option Text := none
  query : Option Text := none
  params : Option (List Kind) := none
  deriving DecidableEq, Repr

def Fields.take (fields : Fields) (name : Text) : Reader Fields := fun text => do
  match String.ofList name with
  | "name" =>
    let (name, rest) ← readField "name" fields.name (readString "a string") text
    .ok ({ fields with name := some name }, rest)
  | "query" =>
    let (query, rest) ← readField "query" fields.query (readString "a string") text
    .ok ({ fields with query := some query }, rest)
  | "params" =>
    let (params, rest) ← readField "params" fields.params (readList readKind) text
    .ok ({ fields with params := some params }, rest)
  | _ => .ok (fields, ← skipField text)

def readInOrder : Reader MethodDefinition := fun text => do
  let expected := "struct QueryMethodDefinition with 3 elements"
  match ← nextItem true text with
  | .done rest => fail (.invalidLength 0 expected) rest 0
  | .item rest =>
    let (name, rest) ← readString "a string" rest
    match ← nextItem false rest with
    | .done rest => fail (.invalidLength 1 expected) rest 0
    | .item rest =>
      let (query, rest) ← readString "a string" rest
      match ← nextItem false rest with
      | .done rest => .ok (⟨String.ofList name, query, []⟩, rest)
      | .item rest =>
        let (params, rest) ← readList readKind rest
        .ok (⟨String.ofList name, query, params⟩, ← listEnd rest)

def read : Reader MethodDefinition := fun text =>
  match skipBlank text with
  | '[' :: rest => readInOrder rest
  | '{' :: rest => do
    let (fields, rest) ← objectBody Fields.take {} rest
    match fields.name, fields.query with
    | none, _ => fail (.missingField "name") rest 0
    | _, none => fail (.missingField "query") rest 0
    | some name, some query => .ok (⟨String.ofList name, query, fields.params.getD []⟩, rest)
  | rest => unexpected "struct QueryMethodDefinition" rest

def ofJsonText (text : Text) : Except Json.Error MethodDefinition := readAll read text

end MethodDefinition

namespace RepositoryDefinition

abbrev Fields := Option (List MethodDefinition)

def Fields.take (fields : Fields) (name : Text) : Reader Fields := fun text => do
  match String.ofList name with
  | "methods" =>
    let (methods, rest) ← readField "methods" fields (readList MethodDefinition.read) text
    .ok (some methods, rest)
  | _ => .ok (fields, ← skipField text)

def read : Reader RepositoryDefinition := fun text =>
  match skipBlank text with
  | '[' :: rest => do
    match ← nextItem true rest with
    | .done rest => .ok (⟨[]⟩, rest)
    | .item rest =>
      let (methods, rest) ← readList MethodDefinition.read rest
      .ok (⟨methods⟩, ← listEnd rest)
  | '{' :: rest => do
    let (fields, rest) ← objectBody Fields.take none rest
    .ok (⟨fields.getD []⟩, rest)
  | rest => unexpected "struct RepositoryDefinition" rest

def ofJsonText (text : Text) : Except Json.Error RepositoryDefinition := readAll read text

end RepositoryDefinition

def Kind.ofJsonText (text : Text) : Except Json.Error Kind := readAll readKind text

end QueryTemplate
