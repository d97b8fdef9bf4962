import QueryTemplate.Value

/-! The fragment that a value leaves at a placeholder of a given kind.

A string is escaped but not quoted, since the template decides whether its placeholder stands
between quotes. `format` builds a fragment as a text of its own, `write` appends it to a buffer
piece by piece.
-/

set_option autoImplicit false

namespace QueryTemplate

namespace Text

def needsEscape (c : Char) : Bool := c == '"' || c == '\\'

def escapeChar (c : Char) : Text := if needsEscape c then ['\\', c] else [c]

def escape (text : Text) : Text := text.flatMap escapeChar

@[simp] theorem escape_nil : escape [] = [] := rfl

theorem escape_cons (c : Char) (rest : Text) : escape (c :: rest) = escapeChar c ++ escape rest := rfl

theorem escape_append (first rest : Text) : escape (first ++ rest) = escape first ++ escape rest :=
  List.flatMap_append

/-- Append the escaped text to a buffer, character by character. -/
def appendEscaped (buffer : Text) : Text → Text
  | [] => buffer
  | c :: rest => appendEscaped (if needsEscape c then buffer ++ ['\\', c] else buffer ++ [c]) rest

theorem appendEscaped_eq (buffer text : Text) : appendEscaped buffer text = buffer ++ escape text := by
  induction text generalizing buffer with
  | nil => simp [appendEscaped]
  | cons c rest ih =>
    rw [appendEscaped, ih, escape_cons, escapeChar]
    split <;> simp [*]

end Text

inductive FormatError where
  | null
  | nestedCollection (kind : Kind)
  | kindMismatch (expected : Kind) (found : String)
  | element (position : Nat) (source : FormatError)
  | unsupported (found : String)
  deriving DecidableEq, Repr

namespace FormatError

def message : FormatError → String
  | null => "null value cannot be bound"
  | nestedCollection kind => s!"nested collection cannot be bound as {kind.name}"
  | kindMismatch expected found => s!"expected {expected.name} value, found {found}"
  | element position source => s!"element {position}: {source.message}"
  | unsupported found => s!"{found} values are not supported"

def causes : FormatError → List String
  | element _ source => source.message :: source.causes
  | _ => []

end FormatError

namespace Value

/-- The value as an item of its class, without the quotes of a collection. -/
def formatItem : ElementKind → Value → Except FormatError Text
  | _, null => .error .null
  | .string, string text => .ok (Text.escape text)
  | .scalar, boolean b => .ok (if b then ['t', 'r', 'u', 'e'] else ['f', 'a', 'l', 's', 'e'])
  | .scalar, integer n => .ok (Text.signedDecimal n)
  | .scalar, float x => .ok x.literal
  | element, value => .error (.kindMismatch (.single element) value.shape)

def quote : ElementKind → Text → Text
  | .string, item => '"' :: item ++ ['"']
  | .scalar, item => item

def formatElement (element : ElementKind) : Value → Except FormatError Text
  | list _ => .error (.nestedCollection (.collection element))
  | value => (value.formatItem element).map (quote element)

/-- The items of a collection, the first of them at the given position. -/
def formatElements (element : ElementKind) : Nat → List Value → Except FormatError (List Text)
  | _, [] => .ok []
  | position, value :: rest =>
    match value.formatElement element with
    | .error source => .error (.element position source)
    | .ok item => (formatElements element (position + 1) rest).map (item :: ·)

def format : Kind → Value → Except FormatError Text
  | .single element, value => value.formatItem element
  | .collection element, list items =>
    (formatElements element 0 items).map fun parts => '[' :: Text.join [','] parts ++ [']']
  | .collection _, null => .error .null
  | kind, value => .error (.kindMismatch kind value.shape)

end Value

def Argument.format (argument : Argument) : Except FormatError Text :=
  argument.value.format argument.kind

/-- A buffer after writing to it, and the fault that cut the writing short. -/
structure Written where
  buffer : Text
  fault : Option FormatError := none
  deriving DecidableEq, Repr

namespace Written

def andThen (w : Written) (more : Text → Written) : Written :=
  match w.fault with
  | none => more w.buffer
  | some _ => w

end Written

namespace Value

def writeString (buffer : Text) : Value → Written
  | string text => ⟨Text.appendEscaped buffer text, none⟩
  | null => ⟨buffer, some .null⟩
  | value => ⟨buffer, some (.kindMismatch .string value.shape)⟩

def writeScalar (buffer : Text) : Value → Written
  | boolean true => ⟨buffer ++ ['t', 'r', 'u', 'e'], none⟩
  | boolean false => ⟨buffer ++ ['f', 'a', 'l', 's', 'e'], none⟩
  | integer n => ⟨buffer ++ Text.signedDecimal n, none⟩
  | float x => ⟨buffer ++ x.literal, none⟩
  | null => ⟨buffer, some .null⟩
  | value => ⟨buffer, some (.kindMismatch .scalar value.shape)⟩

/-- Append one item of a collection; its opening quote stays in the buffer if the item fails. -/
def writeElement (kind : Kind) (buffer : Text) (value : Value) : Written :=
  match value, kind.element with
  | list _, _ => ⟨buffer, some (.nestedCollection kind)⟩
  | value, .string =>
    (value.writeString (buffer ++ ['"'])).andThen fun buffer => ⟨buffer ++ ['"'], none⟩
  | value, .scalar => value.writeScalar buffer

def writeElements (kind : Kind) (buffer : Text) : Nat → List Value → Written
  | _, [] => ⟨buffer, none⟩
  | position, value :: rest =>
    let w := value.writeElement kind (if 0 < position then buffer ++ [','] else buffer)
    match w.fault with
    | some source => ⟨w.buffer, some (.element position source)⟩
    | none => writeElements kind w.buffer (position + 1) rest

def write (kind : Kind) (buffer : Text) (value : Value) : Written :=
  match kind, value with
  | .string, value => value.writeString buffer
  | .scalar, value => value.writeScalar buffer
  | .collection _, list items =>
    (writeElements kind (buffer ++ ['[']) 0 items).andThen fun buffer => ⟨buffer ++ [']'], none⟩
  | .collection _, null => ⟨buffer, some .null⟩
  | .collection _, value => ⟨buffer, some (.kindMismatch kind value.shape)⟩

end Value

namespace Argument

def write (buffer : Text) (argument : Argument) : Written :=
  argument.value.write argument.kind buffer

/-- Append the fragments of several arguments; a fault comes with the position of its argument. -/
def writeAll (buffer : Text) : Nat → List Argument → Text × Option (Nat × FormatError)
  | _, [] => (buffer, none)
  | position, argument :: rest =>
    let w := argument.write buffer
    match w.fault with
    | some fault => (w.buffer, some (position, fault))
    | none => writeAll w.buffer (position + 1) rest

end Argument

end QueryTemplate
