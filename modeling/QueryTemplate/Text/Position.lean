import QueryTemplate.Text

/-! Lines and columns of a text. A line ends after each newline, so a carriage return belongs to the
line before it. Columns count bytes. -/

set_option autoImplicit false

namespace QueryTemplate

/-- A line and a column, both counted from one. -/
structure Position where
  line : Nat
  column : Nat
  deriving DecidableEq, Repr

namespace Position

def start : Position := ⟨1, 1⟩

def next (place : Position) (c : Char) : Position :=
  if c = '\n' then ⟨place.line + 1, 1⟩ else ⟨place.line, place.column + c.utf8Size⟩

def walk (place : Position) (text : Text) : Position := text.foldl next place

def after (text : Text) : Position := start.walk text

/-- The position after some more bytes of a text; the last of them may lie inside a character. -/
def walkBytes (place : Position) : Nat → Text → Position
  | _, [] => place
  | bytes, c :: rest =>
    if c.utf8Size ≤ bytes then (place.next c).walkBytes (bytes - c.utf8Size) rest
    else ⟨place.line, place.column + bytes⟩

/-- The number of bytes before the line that follows `newlines` newlines; all bytes if there is no
such line. -/
def lineStart : (newlines : Nat) → Text → Nat
  | 0, _ => 0
  | _, [] => 0
  | newlines + 1, c :: rest =>
    c.utf8Size + lineStart (if c = '\n' then newlines else newlines + 1) rest

@[simp] theorem walk_nil (place : Position) : place.walk [] = place := rfl

@[simp] theorem walk_cons (place : Position) (c : Char) (rest : Text) :
    place.walk (c :: rest) = (place.next c).walk rest := rfl

theorem walk_append (place : Position) (first rest : Text) :
    place.walk (first ++ rest) = (place.walk first).walk rest := List.foldl_append

theorem after_append (first rest : Text) : after (first ++ rest) = (after first).walk rest :=
  walk_append start first rest

theorem lineStart_le_byteLength (newlines : Nat) (text : Text) :
    lineStart newlines text ≤ text.byteLength := by
  induction text generalizing newlines with
  | nil => cases newlines <;> simp [lineStart]
  | cons c rest ih =>
    cases newlines with
    | zero => simp [lineStart]
    | succ newlines => simpa [lineStart] using ih _

end Position

end QueryTemplate
