import QueryTemplate.Command.Outcome
import QueryTemplate.Registry.Change

/-! What goes to standard error before a command ends: the events that are logged, and diagnostics on
the way. -/

set_option autoImplicit false

namespace QueryTemplate

inductive LogEvent where
  | loading (path : String)
  | compiled (method : String) (params placeholders : Nat)
  | registered (method : String)
  | binding (placeholders arguments : Nat)
  | bound (segments arguments length : Nat)
  deriving DecidableEq, Repr

namespace LogEvent

def isTrace : LogEvent → Bool
  | bound .. => true
  | _ => false

def text : LogEvent → String
  | loading path => s!"loading repository definition path={path}"
  | compiled method params placeholders =>
    s!"compiled query method method={method} params={params} placeholders={placeholders}"
  | registered method => s!"registered query method method={method}"
  | binding placeholders arguments =>
    s!"binding template placeholders={placeholders} arguments={arguments}"
  | bound segments arguments length =>
    s!"bound query template segments={segments} arguments={arguments} output_len={length}"

def ofMethod (method : Method) : LogEvent :=
  .compiled method.name method.params.length method.template.placeholders.length

def ofQuery (template : Template) (count : Nat) : Except BindError Text → List LogEvent
  | .ok query => [.bound template.segments.length count (Text.byteLength query)]
  | .error _ => []

end LogEvent

namespace Registry

/-- What is logged while declarations are registered, up to the first that fails. -/
def loadEvents (registry : Registry) : List MethodDefinition → List LogEvent
  | [] => []
  | definition :: rest =>
    match Method.compile definition with
    | .error _ => []
    | .ok method =>
      .ofMethod method :: match registry.insert method with
        | .error _ => []
        | .ok registry => .registered method.name :: registry.loadEvents rest

def fileEvents (read : FileReader) (path : String) : List LogEvent :=
  match read path with
  | .error _ => []
  | .ok text =>
    .loading path :: match RepositoryDefinition.ofJsonText text with
      | .error _ => []
      | .ok repository => empty.loadEvents repository.methods

end Registry

namespace Command

inductive Notice where
  | event (event : LogEvent)
  | diagnostic (d : Diagnostic)
  deriving DecidableEq, Repr

/-- Where the program runs: what the environment wants logged, and how lines of the log, reports and
refusals look there. -/
structure Console where
  filter : Option (LogEvent → Bool)
  line : LogEvent → Text
  report : Report → Text
  refusal : Refusal → Text

namespace Console

/-- The environment decides what is logged; if it does not, all but traces are, on request. -/
def logs (console : Console) (verbose : Bool) (event : LogEvent) : Bool :=
  match console.filter with
  | some wanted => wanted event
  | none => verbose && !event.isTrace

def notice (console : Console) (verbose : Bool) : Notice → Text
  | .event event => if console.logs verbose event then console.line event else []
  | .diagnostic d => console.report (.diagnostic d)

def plain : Console where
  filter := none
  line event := (event.text ++ "\n").toList
  report r := s!"Error: {r.message}\n".toList
  refusal _ := "error: the command line is not understood\n".toList

def silent : Console := { plain with filter := some fun _ => false }

end Console

end Command

end QueryTemplate
