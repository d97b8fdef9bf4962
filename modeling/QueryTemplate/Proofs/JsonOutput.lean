import QueryTemplate.Proofs.AddedFlag
import QueryTemplate.Proofs.SpelledJson
import QueryTemplate.Proofs.QueryCommands

/-! Queries as JSON.

A command that makes a query logs the same and comes to the same end whether its output is asked for
as JSON or not. What differs is how a query, or the error that prevented it, is shown.
-/

set_option autoImplicit false

namespace QueryTemplate.Command

def Output.behind (logged : Text) (output : Output) : Output :=
  { output with stderr := logged ++ output.stderr }

section

variable (logged loggedShown : Text)

end

/-! ## The log -/

def Notice.event? : Notice → Option LogEvent
  | event e => some e
  | diagnostic _ => none

def logged (console : Console) (read : FileReader) (words : List String) : List LogEvent :=
  match Invocation.ofWords words with
  | .error _ => []
  | .ok invocation =>
    ((invocation.request.notices read).filterMap Notice.event?).filter
      (console.logs invocation.verbose)

variable {console : Console} {read : FileReader} {verbose : Bool} {request : Request}

def awkwardTemplate : Text := "\"?0\x01\\".toList

end QueryTemplate.Command
