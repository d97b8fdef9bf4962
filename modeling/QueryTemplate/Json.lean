import QueryTemplate.Text.Printable
import QueryTemplate.Text.Position
import QueryTemplate.Number.Literal

/-! JSON values, and faults of JSON texts: what is wrong and where.

A reader reports the text that it had not consumed and how many bytes of it it had looked at, from
which line and column follow.
-/

set_option autoImplicit false

namespace QueryTemplate

namespace Json

/-- A number of a JSON text: an integer of up to 64 bits, or a floating-point number. -/
inductive Numeral where
  | integer (n : Int)
  | float (x : Number.Binary64)
  deriving DecidableEq, Repr

inductive Atom where
  | null
  | boolean (b : Bool)
  | number (n : Numeral)
  | string (text : Text)
  deriving DecidableEq, Repr

end Json

/-- An object keeps its members in the order in which they are written. -/
inductive Json where
  | atom (a : Json.Atom)
  | array (items : List Json)
  | object (members : List (Text × Json))
  deriving Repr

namespace Json

@[match_pattern] abbrev null : Json := .atom .null

@[match_pattern] abbrev boolean (b : Bool) : Json := .atom (.boolean b)

@[match_pattern] abbrev number (n : Numeral) : Json := .atom (.number n)

@[match_pattern] abbrev string (text : Text) : Json := .atom (.string text)

def ofNat (n : Nat) : Json := number (.integer n)

def ofString (s : String) : Json := string s.toList

inductive Found where
  | atom (a : Atom)
  | sequence
  | map
  deriving DecidableEq, Repr

def Found.message : Found → String
  | atom .null => "null"
  | atom (.boolean b) => s!"boolean `{b}`"
  | atom (.number (.integer n)) => s!"integer `{n}`"
  | atom (.number (.float x)) => s!"floating point `{String.ofList x.dataLiteral}`"
  | atom (.string text) => s!"string {String.ofList (Text.quoted text)}"
  | sequence => "sequence"
  | map => "map"

inductive Cause where
  | endOfValue
  | endOfList
  | endOfObject
  | endOfString
  | expectedValue
  | expectedIdent
  | expectedListCommaOrEnd
  | expectedObjectCommaOrEnd
  | expectedColon
  | trailingComma
  | trailingCharacters
  | keyMustBeString
  | invalidNumber
  | numberOutOfRange
  | invalidEscape
  | controlCharacter
  | unexpectedEndOfHexEscape
  | loneSurrogate
  | recursionLimit
  | invalidType (found : Found) (expected : String)
  | invalidLength (length : Nat) (expected : String)
  | missingField (name : String)
  | duplicateField (name : String)
  | unknownVariant (name : Text) (expected : List String)
  deriving DecidableEq, Repr

/-- The classes of causes: the text ends too early, it is no JSON text, or its values do not fit. -/
inductive Category where
  | ended
  | grammar
  | data
  deriving DecidableEq, Repr

namespace Cause

def category : Cause → Category
  | endOfValue | endOfList | endOfObject | endOfString => .ended
  | invalidType _ _ | invalidLength _ _ | missingField _ | duplicateField _ | unknownVariant _ _ => .data
  | _ => .grammar

def message : Cause → String
  | endOfValue => "EOF while parsing a value"
  | endOfList => "EOF while parsing a list"
  | endOfObject => "EOF while parsing an object"
  | endOfString => "EOF while parsing a string"
  | expectedValue => "expected value"
  | expectedIdent => "expected ident"
  | expectedListCommaOrEnd => "expected `,` or `]`"
  | expectedObjectCommaOrEnd => "expected `,` or `\x7d`"
  | expectedColon => "expected `:`"
  | trailingComma => "trailing comma"
  | trailingCharacters => "trailing characters"
  | keyMustBeString => "key must be a string"
  | invalidNumber => "invalid number"
  | numberOutOfRange => "number out of range"
  | invalidEscape => "invalid escape"
  | controlCharacter => "control character (\\u0000-\\u001F) found while parsing a string"
  | unexpectedEndOfHexEscape => "unexpected end of hex escape"
  | loneSurrogate => "lone leading surrogate in hex escape"
  | recursionLimit => "recursion limit exceeded"
  | invalidType found expected => s!"invalid type: {found.message}, expected {expected}"
  | invalidLength length expected => s!"invalid length {length}, expected {expected}"
  | missingField name => s!"missing field `{name}`"
  | duplicateField name => s!"duplicate field `{name}`"
  | unknownVariant name expected =>
    let choices := ", ".intercalate (expected.map fun choice => s!"`{choice}`")
    s!"unknown variant `{String.ofList name}`, expected one of {choices}"

end Cause

/-- A fault, with the text left when it was met and the bytes of that text already looked at. -/
structure Fault where
  cause : Cause
  rest : Text
  seen : Nat
  deriving DecidableEq, Repr

/-- A fault placed in its text. The column counts the bytes before the fault on its line. -/
structure Error where
  cause : Cause
  line : Nat
  column : Nat
  deriving DecidableEq, Repr

namespace Error

def message (e : Error) : String := s!"{e.cause.message} at line {e.line} column {e.column}"

end Error

def Fault.within (whole : Text) (fault : Fault) : Error :=
  let consumed := whole.take (whole.length - fault.rest.length)
  let place := (Position.after consumed).walkBytes fault.seen fault.rest
  ⟨fault.cause, place.line, place.column - 1⟩

def fail {α : Type} (cause : Cause) (rest : Text) (seen : Nat) : Except Fault α :=
  .error ⟨cause, rest, seen⟩

def failAhead {α : Type} (cause : Cause) (rest : Text) : Except Fault α := fail cause rest 1

def failAheadOrEnd {α : Type} (cause atEnd : Cause) : Text → Except Fault α
  | [] => failAhead atEnd []
  | rest => failAhead cause rest

end Json

end QueryTemplate
