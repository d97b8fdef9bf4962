import QueryTemplate.Template.Parse
import QueryTemplate.Format

/-! Filling templates. Literals are copied, each placeholder is replaced by the fragment of its
argument, and what was put in is never searched for placeholders again. The first placeholder that
cannot be filled decides the error, and no partial query is given. -/

set_option autoImplicit false

namespace QueryTemplate

inductive BindError where
  | indexOutOfRange (index count : Nat)
  | format (index : Nat) (source : FormatError)
  | argumentCount (method : String) (expected got : Nat)
  | methodNotFound (name : String) (suggestions : List String)
  | parse (source : ParseError)
  deriving DecidableEq, Repr

namespace BindError

def message : BindError → String
  | indexOutOfRange index count => s!"placeholder ?{index} is out of range: {count} arguments bound"
  | format index source => s!"argument {index}: {source.message}"
  | argumentCount method expected got =>
    s!"query method '{method}' expects {expected} arguments, got {got}"
  | methodNotFound name suggestions =>
    let hint := match suggestions with
      | [] => ""
      | _ => ", did you mean: " ++ ", ".intercalate suggestions ++ "?"
    s!"query method not found: '{name}'{hint}"
  | parse source => source.message

def causes : BindError → List String
  | format _ source => source.message :: source.causes
  | _ => []

end BindError

/-- Append segments to a buffer, with arguments looked up among `count` positions. -/
def Segment.fill (argument? : Nat → Option Argument) (count : Nat) (buffer : Text) :
    List Segment → Except BindError Text
  | [] => .ok buffer
  | literal text :: rest => fill argument? count (buffer ++ text) rest
  | placeholder index :: rest =>
    match argument? index with
    | none => .error (.indexOutOfRange index count)
    | some argument =>
      let w := argument.write buffer
      match w.fault with
      | some source => .error (.format index source)
      | none => fill argument? count w.buffer rest

def Template.bind (template : Template) (arguments : List Argument) : Except BindError Text :=
  Segment.fill (arguments[·]?) arguments.length [] template.segments

def bindText (text : Text) (arguments : List Argument) : Except BindError Text :=
  match Template.parse text with
  | .error source => .error (.parse source)
  | .ok template => template.bind arguments

end QueryTemplate
