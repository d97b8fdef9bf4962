import QueryTemplate.Json.Numeral
import QueryTemplate.Json.Scan

/-! The grammar of JSON texts.

A relation between texts and the values that they stand for, apart from any reader or writer. What
number a numeral means is left to whoever reads it: the grammar has that as a parameter.
-/

set_option autoImplicit false

namespace QueryTemplate.Json

def Blank (text : Text) : Prop := ∀ c ∈ text, isBlank c

/-! ## Strings -/

/-- Four hexadecimal digits, and the sixteen bits that they denote. -/
inductive Quad : Text → Nat → Prop where
  | mk {a b c d : Char} {w x y z : Nat} (first : hexDigit? a = some w) (second : hexDigit? b = some x)
    (third : hexDigit? c = some y) (fourth : hexDigit? d = some z) :
    Quad [a, b, c, d] (((w * 16 + x) * 16 + y) * 16 + z)

/-- Letters behind a backslash, with what they stand for. -/
def escapeLetters : List (Char × Char) :=
  [('"', '"'), ('\\', '\\'), ('/', '/'), ('b', '\x08'), ('f', '\x0c'), ('n', '\n'), ('r', '\r'),
    ('t', '\t')]

/-- A character of a string: as it is, by a letter, or in one or two units of sixteen bits. -/
inductive SpelledChar : Text → Char → Prop where
  | plain {c : Char} (noQuote : c ≠ '"') (noBackslash : c ≠ '\\') (printable : ¬ c.toNat < 32) :
    SpelledChar [c] c
  | letter {letter c : Char} (stands : (letter, c) ∈ escapeLetters) : SpelledChar ['\\', letter] c
  | unit {digits : Text} {c : Char} (quad : Quad digits c.toNat) : SpelledChar ('\\' :: 'u' :: digits) c
  | pair {high low : Text} {leading trailing : Nat} {c : Char} (first : Quad high leading)
    (second : Quad low trailing) (isFirst : isLeadingSurrogate leading)
    (isSecond : isTrailingSurrogate trailing)
    (same : c.toNat = 0x10000 + (leading - 0xD800) * 0x400 + (trailing - 0xDC00)) :
    SpelledChar ('\\' :: 'u' :: (high ++ '\\' :: 'u' :: low)) c

/-- What may stand between quotes for a text. -/
inductive SpelledText : Text → Text → Prop where
  | nil : SpelledText [] []
  | cons {spelling body text : Text} {c : Char} (first : SpelledChar spelling c)
    (later : SpelledText body text) : SpelledText (spelling ++ body) (c :: text)

/-! ## Numbers -/

/-- Digits, of which the first is no zero unless it is the only one. -/
inductive WholePart : Text → Prop where
  | zero : WholePart ['0']
  | digits {c : Char} {rest : Text} (nonzero : c ≠ '0') (all : ∀ d ∈ c :: rest, Text.isDigit d) :
    WholePart (c :: rest)

inductive FractionPart : Text → Text → Prop where
  | absent : FractionPart [] []
  | digits {digits : Text} (present : digits ≠ []) (all : ∀ d ∈ digits, Text.isDigit d) :
    FractionPart ('.' :: digits) digits

inductive ExponentPart : Text → Option (Bool × Text) → Prop where
  | absent : ExponentPart [] none
  | digits {letter : Char} {sign digits : Text} {positive : Bool} (lettered : letter = 'e' ∨ letter = 'E')
    (signed : (sign, positive) ∈ [([], true), (['+'], true), (['-'], false)]) (present : digits ≠ [])
    (all : ∀ d ∈ digits, Text.isDigit d) :
    ExponentPart (letter :: (sign ++ digits)) (some (positive, digits))

def signPart : Bool → Text
  | true => ['-']
  | false => []

/-- A numeral with its sign and its parts. -/
inductive SpelledNumber : Text → Bool → NumberText → Prop where
  | mk {number : NumberText} {fraction exponent : Text} (negative : Bool)
    (whole : WholePart number.whole) (behindPoint : FractionPart fraction number.fraction)
    (power : ExponentPart exponent number.exponent) :
    SpelledNumber (signPart negative ++ (number.whole ++ (fraction ++ exponent))) negative number

abbrev Meaning := Bool → NumberText → Numeral → Prop

/-! ## Values -/

inductive SpelledAtom (means : Meaning) : Text → Atom → Prop where
  | null : SpelledAtom means ['n', 'u', 'l', 'l'] .null
  | yes : SpelledAtom means ['t', 'r', 'u', 'e'] (.boolean true)
  | no : SpelledAtom means ['f', 'a', 'l', 's', 'e'] (.boolean false)
  | number {written : Text} {negative : Bool} {number : NumberText} {n : Numeral}
    (spelled : SpelledNumber written negative number) (meant : means negative number n) :
    SpelledAtom means written (.number n)
  | string {body text : Text} (spelled : SpelledText body text) :
    SpelledAtom means ('"' :: (body ++ ['"'])) (.string text)

/-- A written value with the blanks around it. -/
structure Place where
  before : Text
  written : Text
  after : Text
  json : Json
  leading : Blank before
  trailing : Blank after

/-- A member of an object, with blanks around its name and its value. -/
structure Member extends Place where
  gap : Text
  key : Text
  name : Text
  between : Text
  apart : Blank gap
  spelled : SpelledText key name
  behindKey : Blank between

namespace Place

variable (place : Place)

def text : Text := place.before ++ (place.written ++ place.after)

/-- A value with no blanks around it. -/
def tight (written : Text) (json : Json) : Place where
  before := []
  written := written
  after := []
  json := json
  leading := fun _ member => absurd member List.not_mem_nil
  trailing := fun _ member => absurd member List.not_mem_nil

end Place

namespace Member

variable (member : Member)

/-- What stands behind the key, up to the value. -/
def value : Text := member.between ++ ':' :: (member.before ++ member.written)

def text : Text := member.gap ++ '"' :: (member.key ++ '"' :: (member.value ++ member.after))

def entry : Text × Json := (member.name, member.json)

end Member

/-- The texts that stand for a value, without blanks around them. -/
inductive Spells (means : Meaning) : Text → Json → Prop where
  | atom {written : Text} {a : Atom} (spelled : SpelledAtom means written a) :
    Spells means written (.atom a)
  | array (places : List Place) (each : ∀ place ∈ places, Spells means place.written place.json)
    {blanks : Text} (blank : Blank blanks) :
    Spells means ('[' :: (Text.join [','] (places.map Place.text) ++ (blanks ++ [']'])))
      (.array (places.map Place.json))
  | object (members : List Member)
    (each : ∀ member ∈ members, Spells means member.written member.json)
    {blanks : Text} (blank : Blank blanks) :
    Spells means ('{' :: (Text.join [','] (members.map Member.text) ++ (blanks ++ ['}'])))
      (.object (members.map Member.entry))

/-- JSON texts, with the values that they stand for. -/
def Stands (means : Meaning) (text : Text) (json : Json) : Prop :=
  ∃ place : Place, place.text = text ∧ place.json = json ∧ Spells means place.written json

variable {means : Meaning} {written : Text} {json : Json}

theorem blank_nil : Blank [] := fun _ member => absurd member List.not_mem_nil

theorem Spells.stands (spells : Spells means written json) : Stands means written json :=
  ⟨.tight written json, by simp [Place.tight, Place.text], rfl, spells⟩

end QueryTemplate.Json
