import QueryTemplate.Bind
import QueryTemplate.Inline.Invocation
import QueryTemplate.Text.Printable

/-! What an inline template expands to: segments that are not read again when the program runs, and
one argument for each expression. An expansion means the query that its template makes of its
arguments, and it has a form as program code.
-/

set_option autoImplicit false

namespace QueryTemplate.Inline

structure Expansion (ε : Type) where
  segments : List Segment
  arguments : List ε
  deriving DecidableEq, Repr

/-- A part as a segment. A part that passed the check has an index. -/
def Part.segment : Part → Segment
  | literal text => .literal text
  | placeholder _ index => .placeholder (index.getD 0)

namespace Expansion

variable {ε : Type}

def ofParts (parts : List Part) (arguments : List ε) : Expansion ε :=
  ⟨parts.map Part.segment, arguments⟩

/-- The query of an expansion when its expressions have the given arguments. -/
def query (expansion : Expansion ε) (evaluate : ε → Argument) : Except BindError Text :=
  (Template.mk expansion.segments).bind (expansion.arguments.map evaluate)

end Expansion

inductive Code where
  | token (text : Text)
  | parenthesized (body : List Code)
  | bracketed (body : List Code)
  | braced (body : List Code)

namespace Code

mutual
/-- Code with a blank between neighbours. Braces stand apart from what they hold, other brackets do
not. -/
def render : Code → Text
  | token text => text
  | parenthesized body => '(' :: Text.join [' '] (renderAll body) ++ [')']
  | bracketed body => '[' :: Text.join [' '] (renderAll body) ++ [']']
  | braced body => '{' :: ' ' :: Text.join [' '] (renderAll body) ++ [' ', '}']

def renderAll : List Code → List Text
  | [] => []
  | code :: rest => render code :: renderAll rest
end

def word (s : String) : Code := token s.toList

def path (names : List String) : List Code := names.flatMap fun name => [word "::", word name]

def commaSeparated : List (List Code) → List Code
  | [] => []
  | [piece] => piece
  | piece :: next :: rest => piece ++ word "," :: commaSeparated (next :: rest)

/-- The inside of a string literal. A zero character is spelled so that a digit may follow it. -/
def literalBody : Text → Text
  | [] => []
  | c :: rest =>
    let spelled :=
      if c = Char.ofNat 0 ∧ rest.head?.any (fun d => '0' ≤ d && d ≤ '7') then ['\\', 'x', '0', '0']
      else Text.quotedChar c
    spelled ++ literalBody rest

def stringLiteral (text : Text) : Code := token ('"' :: literalBody text ++ ['"'])

def indexLiteral (index : Nat) : Code := word s!"{index}usize"

end Code

namespace Expansion

open Code

def segmentCode : Segment → List Code
  | .literal text =>
    path ["strquery", "Segment", "Literal"] ++
      [parenthesized (path ["std", "string", "String", "from"] ++ [parenthesized [stringLiteral text]])]
  | .placeholder index =>
    path ["strquery", "Segment", "Placeholder"] ++ [parenthesized [indexLiteral index]]

def argumentCode (source : String) : List Code :=
  path ["strquery", "QueryParam", "bind_argument"] ++
    [parenthesized [word "&", parenthesized [word source]]]

def letCode (name : String) (type value : List Code) : List Code :=
  [word "let", word name] ++ (if type.isEmpty then [] else word ":" :: type) ++
    [word "="] ++ value ++ [word ";"]

/-- The code of an expansion whose expressions are given by their sources. -/
def code (expansion : Expansion String) : Code :=
  braced <|
    letCode "__strquery_template" []
      (path ["strquery", "Template", "from_segments"] ++
        [parenthesized (path ["std", "vec"] ++
          [word "!", bracketed (commaSeparated (expansion.segments.map segmentCode))])]) ++
    letCode "__strquery_args"
      [bracketed (path ["strquery", "BoundArgument"] ++
        [word ";", indexLiteral expansion.arguments.length])]
      [bracketed (commaSeparated (expansion.arguments.map argumentCode))] ++
    path ["strquery", "bind"] ++
      [parenthesized [word "&", word "__strquery_template", word ",", word "&", word "__strquery_args"]]

end Expansion

def expand (invocation : Invocation) : Except CheckError (Expansion String) := do
  check invocation.arguments.length invocation.parts
  .ok (.ofParts invocation.parts invocation.arguments)

end QueryTemplate.Inline
