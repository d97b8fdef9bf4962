import QueryTemplate.Json

/-! Writing JSON values, on one line or indented by two spaces. -/

set_option autoImplicit false

namespace QueryTemplate.Json

def hexPair (n : Nat) : Text := [Nat.digitChar (n / 16 % 16), Nat.digitChar (n % 16)]

/-- A character of a string: quotes, backslashes and controls are escaped, by a letter if they have
one. -/
def writtenChar (c : Char) : Text :=
  if c = '"' ∨ c = '\\' then ['\\', c]
  else if c = '\x08' then ['\\', 'b']
  else if c = '\t' then ['\\', 't']
  else if c = '\n' then ['\\', 'n']
  else if c = '\x0c' then ['\\', 'f']
  else if c = '\r' then ['\\', 'r']
  else if c.toNat < 32 then '\\' :: 'u' :: '0' :: '0' :: hexPair c.toNat
  else [c]

def writtenString (text : Text) : Text := '"' :: text.flatMap writtenChar ++ ['"']

/-- A floating-point number without digits is written as null. -/
def writtenNumeral : Numeral → Text
  | .integer n => Text.signedDecimal n
  | .float x => if x.isNaN || x.isInfinite then ['n', 'u', 'l', 'l'] else x.dataLiteral

def writtenAtom : Atom → Text
  | .null => ['n', 'u', 'l', 'l']
  | .boolean true => ['t', 'r', 'u', 'e']
  | .boolean false => ['f', 'a', 'l', 's', 'e']
  | .number n => writtenNumeral n
  | .string text => writtenString text

mutual
def compact : Json → Text
  | .atom a => writtenAtom a
  | .array items => '[' :: Text.join [','] (compactItems items) ++ [']']
  | .object members => '{' :: Text.join [','] (compactMembers members) ++ ['}']

def compactItems : List Json → List Text
  | [] => []
  | item :: rest => compact item :: compactItems rest

def compactMembers : List (Text × Json) → List Text
  | [] => []
  | (name, value) :: rest => (writtenString name ++ ':' :: compact value) :: compactMembers rest
end

def newLine (level : Nat) : Text := '\n' :: List.replicate (2 * level) ' '

/-- Lines between brackets, one level deeper than what stands around them. -/
def block (level : Nat) (opening closing : Char) : List Text → Text
  | [] => [opening, closing]
  | parts =>
    opening :: newLine (level + 1) ++ Text.join (',' :: newLine (level + 1)) parts ++
      newLine level ++ [closing]

mutual
def prettyAt (level : Nat) : Json → Text
  | .atom a => writtenAtom a
  | .array items => block level '[' ']' (prettyItems (level + 1) items)
  | .object members => block level '{' '}' (prettyMembers (level + 1) members)

def prettyItems (level : Nat) : List Json → List Text
  | [] => []
  | item :: rest => prettyAt level item :: prettyItems level rest

def prettyMembers (level : Nat) : List (Text × Json) → List Text
  | [] => []
  | (name, value) :: rest =>
    (writtenString name ++ ':' :: ' ' :: prettyAt level value) :: prettyMembers level rest
end

def pretty (json : Json) : Text := prettyAt 0 json

end QueryTemplate.Json
