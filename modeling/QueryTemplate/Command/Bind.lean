import QueryTemplate.Command.Argument
import QueryTemplate.Command.Log

/-! Binding arguments to a template given on the command line. -/

set_option autoImplicit false

namespace QueryTemplate.Command

structure BindOptions where
  template : Text
  arguments : List Argument := []
  json : Bool := false
  deriving DecidableEq, Repr

namespace BindOptions

structure Given where
  template : Option String := none
  arguments : List Argument := []
  json : Bool := false

def grammar : Grammar Given where
  options := [
    ⟨"template", none, .value false fun given word => .ok { given with template := some word }⟩,
    ⟨"arg", some 'a', .value true fun given word =>
      match Argument.ofWord word.toList with
      | .error e => .error (.badValue e.message)
      | .ok argument => .ok { given with arguments := given.arguments ++ [argument] }⟩,
    ⟨"json", none, .flag fun given => .ok { given with json := true }⟩]

def ofGiven (given : Given) : Except Refusal BindOptions :=
  match given.template with
  | none => .error .missingArgument
  | some template => .ok ⟨template.toList, given.arguments, given.json⟩

def ofWords (words : List String) : Except Refusal BindOptions := do
  ofGiven (← Line.read grammar {} words).1

end BindOptions

def bind (options : BindOptions) : Except Report Output :=
  match Template.parse options.template with
  | .error e => .error (.diagnostic (.ofParseError options.template e))
  | .ok template => .ok (printQuery (template.bind options.arguments) options.json)

def bindEvents (options : BindOptions) : List LogEvent :=
  match Template.parse options.template with
  | .error _ => []
  | .ok template =>
    .binding template.placeholders.length options.arguments.length ::
      LogEvent.ofQuery template options.arguments.length (template.bind options.arguments)

end QueryTemplate.Command
