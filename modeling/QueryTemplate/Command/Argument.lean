import QueryTemplate.Format
import QueryTemplate.Json.Reader

/-! Arguments as they are written on a command line: a kind, an equals sign and a value. The value
of a string is taken as it stands; all others are JSON, of which objects have no use. -/

set_option autoImplicit false

namespace QueryTemplate

mutual
/-- The value of a JSON value. An object anywhere in it is refused as such. -/
def Value.ofJson : Json → Except FormatError Value
  | .null => .ok .null
  | .boolean b => .ok (.boolean b)
  | .number (.integer n) => .ok (.integer n)
  | .number (.float x) => .ok (.float x)
  | .string text => .ok (.string text)
  | .array items => (Value.ofJsonItems items).map .list
  | .object _ => .error (.unsupported "object")

def Value.ofJsonItems : List Json → Except FormatError (List Value)
  | [] => .ok []
  | item :: rest => do
    let value ← Value.ofJson item
    let values ← Value.ofJsonItems rest
    .ok (value :: values)
end

inductive ArgumentError where
  | noEqualsSign (word : Text)
  | unknownKind (name : String)
  | notJson (kind : Kind) (raw : Text) (source : Json.Error)
  | noValue (kind : Kind) (raw : Text) (source : FormatError)
  deriving DecidableEq, Repr

def ArgumentError.message : ArgumentError → String
  | noEqualsSign word => s!"invalid argument format '{String.ofList word}': expected kind=value"
  | unknownKind name => Kind.unknownMessage name
  | notJson kind raw source => s!"invalid {kind.name} value '{String.ofList raw}': {source.message}"
  | noValue kind raw source => s!"invalid {kind.name} value '{String.ofList raw}': {source.message}"

def Value.ofWord (kind : Kind) (raw : Text) : Except ArgumentError Value :=
  match kind with
  | .string => .ok (.string raw)
  | kind =>
    match Json.parse raw with
    | .error source => .error (.notJson kind raw source)
    | .ok json => (Value.ofJson json).mapError (.noValue kind raw)

/-- The argument that a word stands for. The first equals sign ends the kind. -/
def Argument.ofWord (word : Text) : Except ArgumentError Argument :=
  match word.dropWhile (· ≠ '=') with
  | [] => .error (.noEqualsSign word)
  | _ :: raw =>
    let name := String.ofList (word.takeWhile (· ≠ '='))
    match Kind.ofAlias? name with
    | none => .error (.unknownKind name)
    | some kind => (Value.ofWord kind raw).map (⟨kind, ·⟩)

end QueryTemplate
