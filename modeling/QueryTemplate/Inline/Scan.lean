import QueryTemplate.Template

/-! Scanning templates that are written as literals of a program, and checking them against the
number of their arguments.

The scan walks over the text once and holds text back until a placeholder or the end is met. A
placeholder keeps its digits as written, whether or not they denote an index.
-/

set_option autoImplicit false

namespace QueryTemplate.Inline

inductive Part where
  | literal (text : Text)
  | placeholder (digits : Text) (index : Option Nat)
  deriving DecidableEq, Repr

/-- The text held back, last character first, in front of further parts. -/
def flush (held : Text) (parts : List Part) : List Part :=
  if held.isEmpty then parts else .literal held.reverse :: parts

def scanHolding (held text : Text) : List Part :=
  match text with
  | [] => flush held []
  | c :: rest =>
    if c = marker ∧ rest.head?.any Text.isDigit then
      let digits := rest.takeWhile Text.isDigit
      flush held (.placeholder digits (index? digits) :: scanHolding [] (rest.dropWhile Text.isDigit))
    else scanHolding (c :: held) rest
termination_by text.length
decreasing_by
  · have shorter := (List.dropWhile_suffix (l := rest) Text.isDigit).length_le
    simp only [List.length_cons]
    omega
  · simp

def scan (text : Text) : List Part := scanHolding [] text

inductive CheckError where
  | indexTooLarge (digits : Text)
  | indexOutOfRange (index count : Nat)
  deriving DecidableEq, Repr

namespace CheckError

def help : Nat → String
  | 0 => "no arguments were given"
  | 1 => "the only valid placeholder is ?0"
  | last + 1 => s!"valid placeholders are ?0 through ?{last}"

def message : CheckError → String
  | indexTooLarge digits =>
    s!"invalid placeholder index '?{String.ofList digits}'\nhelp: the index does not fit in usize"
  | indexOutOfRange index count =>
    s!"placeholder ?{index} is out of range: {count} arguments given\nhelp: {help count}"

end CheckError

def Part.check (count : Nat) : Part → Except CheckError Unit
  | literal _ => .ok ()
  | placeholder digits none => .error (.indexTooLarge digits)
  | placeholder _ (some index) =>
    if index < count then .ok () else .error (.indexOutOfRange index count)

def check (count : Nat) : List Part → Except CheckError Unit
  | [] => .ok ()
  | part :: rest => do
    part.check count
    check count rest

end QueryTemplate.Inline
