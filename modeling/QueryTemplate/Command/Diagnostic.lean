import QueryTemplate.Json
import QueryTemplate.Template.Parse

/-! Diagnostics: a message about a text with the span of bytes that it is about. The span is cut to
the text that is shown, since line and column may come from another one. -/

set_option autoImplicit false

namespace QueryTemplate.Command

structure Diagnostic where
  message : String
  help : Option String
  offset : Nat
  length : Nat
  deriving DecidableEq, Repr

namespace Diagnostic

def code : String := "strquery::syntax"

def label : String := "error here"

def placed (content : Text) (line column length : Nat) (reason : String) (help : Option String) :
    Diagnostic :=
  let offset := min (Position.lineStart (line - 1) content + (column - 1)) (Text.byteLength content)
  { message := s!"syntax error: {reason}"
    help
    offset
    length := min length (Text.byteLength content - offset) }

/-- About a template that did not parse: the marker and its digits. -/
def ofParseError (template : Text) : ParseError → Diagnostic
  | .invalidIndex place digits =>
    placed template place.line place.column (Text.byteLength digits + 1)
      s!"invalid placeholder index '?{String.ofList digits}'"
      (some "placeholder indices must fit in a machine-sized integer")
  | .malformed place reason => placed template place.line place.column 1 reason none

/-- About a repository that is no JSON text of its shape: a single byte. -/
def ofJsonError (content : Text) (e : Json.Error) : Diagnostic :=
  placed content (max e.line 1) (max e.column 1) 1 e.message
    (some "expected \x7b \"methods\": [ \x7b \"name\", \"query\", \"params\" \x7d ] \x7d")

end Diagnostic

end QueryTemplate.Command
