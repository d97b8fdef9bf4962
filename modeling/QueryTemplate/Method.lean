import QueryTemplate.Bind
import QueryTemplate.Definition.Writer

/-! Query methods: named templates with declared kinds. A declaration is checked once, when it is
compiled; after that a query only takes values. -/

set_option autoImplicit false

namespace QueryTemplate

structure Method where
  name : String
  source : Text
  template : Template
  params : List Kind
  deriving DecidableEq, Repr

inductive CompileError where
  | parse (method : String) (source : ParseError)
  | indexOutOfRange (method : String) (index declared : Nat)
  deriving DecidableEq, Repr

def CompileError.message : CompileError → String
  | parse method source => s!"query method '{method}': {source.message}"
  | indexOutOfRange method index declared =>
    s!"query method '{method}': placeholder ?{index} is out of range: {declared} parameters declared"

/-- A declaration that compiles but hardly means what it says. -/
inductive Warning where
  | unusedParameter (method : String) (index : Nat)
  deriving DecidableEq, Repr

def Warning.message : Warning → String
  | unusedParameter method index =>
    s!"query method '{method}': parameter {index} is never referenced"

namespace Method

/-- Read the template and check that each placeholder has a declared parameter. -/
def compile (definition : MethodDefinition) : Except CompileError Method :=
  match Template.parse definition.query with
  | .error source => .error (.parse definition.name source)
  | .ok template =>
    match template.placeholders.find? (definition.params.length ≤ ·) with
    | some index => .error (.indexOutOfRange definition.name index definition.params.length)
    | none => .ok ⟨definition.name, definition.query, template, definition.params⟩

def argument? (method : Method) (values : List Value) (index : Nat) : Option Argument :=
  match method.params[index]?, values[index]? with
  | some kind, some value => some ⟨kind, value⟩
  | _, _ => none

/-- The query for as many values as there are parameters. -/
def createQuery (method : Method) (values : List Value) : Except BindError Text :=
  if values.length = method.params.length then
    Segment.fill (method.argument? values) values.length [] method.template.segments
  else .error (.argumentCount method.name method.params.length values.length)

def unusedParameters (method : Method) : List Nat :=
  (List.range method.params.length).filter (!method.template.referenced.contains ·)

def warnings (method : Method) : List Warning :=
  method.unusedParameters.map (.unusedParameter method.name)

end Method

end QueryTemplate
