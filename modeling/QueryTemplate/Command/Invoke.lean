import QueryTemplate.Command.Argument
import QueryTemplate.Command.Log

/-! Making the query of a method of a repository file. Values are only read when the method exists
and their number is right. -/

set_option autoImplicit false

namespace QueryTemplate.Command

structure InvokeOptions where
  repository : String
  method : String
  values : List Text := []
  json : Bool := false
  deriving DecidableEq, Repr

def pathWord (word : String) : Except Refusal String :=
  if word.isEmpty then .error .invalidValue else .ok word

namespace InvokeOptions

structure Given where
  repository : Option String := none
  method : Option String := none
  values : List Text := []
  json : Bool := false

def grammar : Grammar Given where
  options := [
    ⟨"repository", some 'r', .value false fun given word => do
      .ok { given with repository := some (← pathWord word) }⟩,
    ⟨"method", some 'm', .value false fun given word => .ok { given with method := some word }⟩,
    ⟨"json", none, .flag fun given => .ok { given with json := true }⟩]
  free := some fun given word => .ok { given with values := given.values ++ [word.toList] }

def ofGiven (given : Given) : Except Refusal InvokeOptions :=
  match given.repository, given.method with
  | some repository, some method => .ok ⟨repository, method, given.values, given.json⟩
  | _, _ => .error .missingArgument

def ofWords (words : List String) : Except Refusal InvokeOptions := do
  ofGiven (← Line.read grammar {} words).1

end InvokeOptions

def loadReport (read : FileReader) (path : String) : DefinitionError → Report
  | .json source =>
    .diagnostic (.ofJsonError (match read path with
      | .ok content => content
      | .error _ => []) source)
  | .compile (.parse method source) =>
    .plain s!"{path}: query method '{method}' has an invalid template: {source.message}"
  | e => .plain e.message

/-- The values that words stand for under their kinds, up to the first that stands for none. -/
def readValues : List Kind → List Text → Except ArgumentError (List Value)
  | kind :: kinds, raw :: raws => do
    let value ← Value.ofWord kind raw
    let values ← readValues kinds raws
    .ok (value :: values)
  | _, _ => .ok []

def invoke (read : FileReader) (options : InvokeOptions) : Except Report Output :=
  match Registry.ofFile read options.repository with
  | .error e => .error (loadReport read options.repository e)
  | .ok registry =>
    match registry.get? options.method with
    | none => .ok (printQuery (registry.createQuery options.method []) options.json)
    | some method =>
      if method.params.length ≠ options.values.length then
        let e := .argumentCount options.method method.params.length options.values.length
        .ok (printQuery (.error e) options.json)
      else
        match readValues method.params options.values with
        | .error e => .error (.plain e.message)
        | .ok values => .ok (printQuery (method.createQuery values) options.json)

def invokeEvents (read : FileReader) (options : InvokeOptions) : List LogEvent :=
  Registry.fileEvents read options.repository ++
    match Registry.ofFile read options.repository with
    | .error _ => []
    | .ok registry =>
      match registry.get? options.method with
      | none => []
      | some method =>
        if method.params.length ≠ options.values.length then []
        else
          match readValues method.params options.values with
          | .error _ => []
          | .ok values => LogEvent.ofQuery method.template values.length (method.createQuery values)

end QueryTemplate.Command
