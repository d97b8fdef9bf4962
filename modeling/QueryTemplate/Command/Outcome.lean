import QueryTemplate.Bind
import QueryTemplate.Command.Diagnostic
import QueryTemplate.Command.Line
import QueryTemplate.Json.Writer

/-! How a command ends: with an exit code and what it printed, or with a report that it could not do
its work. -/

set_option autoImplicit false

namespace QueryTemplate.Command

/-- Exit codes: all is well, the data are at fault, the work could not be done, the command line is
at fault. -/
def success : Nat := 0

def dataError : Nat := 65

def failure : Nat := 70

def usageError : Nat := 2

structure Output where
  code : Nat
  stdout : Text
  stderr : Text
  deriving DecidableEq, Repr

inductive Report where
  | plain (reason : String)
  | diagnostic (d : Diagnostic)
  deriving DecidableEq, Repr

def Report.message : Report → String
  | plain reason => reason
  | diagnostic d => d.message

/-- Print a query, or the error that prevented it, with an exit code to match. -/
def printQuery (result : Except BindError Text) (json : Bool) : Output :=
  match result with
  | .ok query =>
    let shown := if json then (Json.object [("query".toList, .string query)]).pretty else query
    ⟨success, shown ++ ['\n'], []⟩
  | .error e =>
    let shown :=
      if json then (Json.object [("error".toList, .ofString e.message)]).pretty
      else s!"Binding error: {e.message}".toList
    ⟨dataError, [], shown ++ ['\n']⟩

end QueryTemplate.Command
