import QueryTemplate.Json

/-! Blanks, words and strings of JSON texts.

A reader takes the text ahead and gives what it read with the text after it. Lone halves of
surrogate pairs and raw control characters are refused.
-/

set_option autoImplicit false

namespace QueryTemplate.Json

def isBlank (c : Char) : Bool := c == ' ' || c == '\n' || c == '\t' || c == '\r'

def skipBlank (text : Text) : Text := text.dropWhile isBlank

/-- Read the given letters, the rest of a word whose first letter was recognised. -/
def word : Text → Text → Except Fault Text
  | [], text => .ok text
  | _ :: _, [] => fail .endOfValue [] 0
  | letter :: letters, c :: rest =>
    if c = letter then word letters rest else fail .expectedIdent (c :: rest) 1

def hexDigit? (c : Char) : Option Nat :=
  if '0' ≤ c ∧ c ≤ '9' then some (c.toNat - '0'.toNat)
  else if 'a' ≤ c ∧ c ≤ 'f' then some (c.toNat - 'a'.toNat + 10)
  else if 'A' ≤ c ∧ c ≤ 'F' then some (c.toNat - 'A'.toNat + 10)
  else none

/-- Four hexadecimal digits. Four bytes are looked at before any of them is judged. -/
def hexQuad : Text → Except Fault (Nat × Text)
  | text@(a :: b :: c :: d :: rest) =>
    match hexDigit? a, hexDigit? b, hexDigit? c, hexDigit? d with
    | some a, some b, some c, some d => .ok (((a * 16 + b) * 16 + c) * 16 + d, rest)
    | _, _, _, _ => fail .invalidEscape text 4
  | text =>
    -- Fewer than four characters may still be four bytes.
    if Text.byteLength text < 4 then fail .endOfString [] 0 else fail .invalidEscape text 4

def isLeadingSurrogate (unit : Nat) : Bool := 0xD800 ≤ unit && unit ≤ 0xDBFF

def isTrailingSurrogate (unit : Nat) : Bool := 0xDC00 ≤ unit && unit ≤ 0xDFFF

def trailingUnit : Text → Except Fault (Nat × Text)
  | [] => fail .endOfString [] 0
  | '\\' :: [] => fail .endOfString [] 0
  | '\\' :: 'u' :: rest => do
    let (unit, rest) ← hexQuad rest
    if isTrailingSurrogate unit then .ok (unit, rest) else fail .loneSurrogate rest 0
  | '\\' :: rest => fail .unexpectedEndOfHexEscape rest 1
  | rest => fail .unexpectedEndOfHexEscape rest 1

def escaped : Text → Except Fault (Char × Text)
  | [] => fail .endOfString [] 0
  | '"' :: rest => .ok ('"', rest)
  | '\\' :: rest => .ok ('\\', rest)
  | '/' :: rest => .ok ('/', rest)
  | 'b' :: rest => .ok ('\x08', rest)
  | 'f' :: rest => .ok ('\x0c', rest)
  | 'n' :: rest => .ok ('\n', rest)
  | 'r' :: rest => .ok ('\r', rest)
  | 't' :: rest => .ok ('\t', rest)
  | 'u' :: rest => do
    let (unit, rest) ← hexQuad rest
    if isTrailingSurrogate unit then fail .loneSurrogate rest 0
    else if isLeadingSurrogate unit then
      let (trailing, rest) ← trailingUnit rest
      .ok (Char.ofNat (0x10000 + (unit - 0xD800) * 0x400 + (trailing - 0xDC00)), rest)
    else .ok (Char.ofNat unit, rest)
  | c :: rest => fail .invalidEscape (c :: rest) 1

theorem length_lt_of_hexQuad {text rest : Text} {unit : Nat}
    (read : hexQuad text = .ok (unit, rest)) : rest.length < text.length := by
  unfold hexQuad at read
  split at read
  · split at read
    · obtain ⟨_, rfl⟩ := Prod.mk.inj (Except.ok.inj read)
      simp only [List.length_cons]
      omega
    · simp [fail] at read
  · split at read <;> simp [fail] at read

theorem length_lt_of_trailingUnit {text rest : Text} {unit : Nat}
    (read : trailingUnit text = .ok (unit, rest)) : rest.length < text.length := by
  unfold trailingUnit at read
  split at read <;> try simp [fail] at read
  rename_i tail
  simp only [bind, Except.bind] at read
  split at read
  · simp at read
  · rename_i found quad
    split at read
    · obtain ⟨_, rfl⟩ := Prod.mk.inj (Except.ok.inj read)
      have shorter := length_lt_of_hexQuad quad
      simp only [List.length_cons]
      omega
    · simp at read

theorem length_lt_of_escaped {text rest : Text} {c : Char}
    (read : escaped text = .ok (c, rest)) : rest.length < text.length := by
  unfold escaped at read
  split at read <;> try (simp [fail] at read)
  all_goals try (obtain ⟨_, rfl⟩ := read; simp)
  rename_i tail
  simp only [bind, Except.bind] at read
  split at read
  · simp at read
  · rename_i found quad
    have shorter := length_lt_of_hexQuad quad
    split at read
    · simp at read
    · split at read
      · split at read
        · simp at read
        · rename_i pair trailing
          have shorter' := length_lt_of_trailingUnit trailing
          obtain ⟨_, rfl⟩ := Prod.mk.inj (Except.ok.inj read)
          simp only [List.length_cons]
          omega
      · obtain ⟨_, rfl⟩ := Prod.mk.inj (Except.ok.inj read)
        simp only [List.length_cons]
        omega

def stringBody (text : Text) : Except Fault (Text × Text) :=
  match text with
  | [] => fail .endOfString [] 0
  | '"' :: rest => .ok ([], rest)
  | '\\' :: rest =>
    match read : escaped rest with
    | .error fault => .error fault
    | .ok (c, after) =>
      have := length_lt_of_escaped read
      (stringBody after).map fun (body, rest) => (c :: body, rest)
  | c :: rest =>
    if c.toNat < 32 then fail .controlCharacter (c :: rest) 1
    else (stringBody rest).map fun (body, rest) => (c :: body, rest)
termination_by text.length
decreasing_by all_goals (simp only [List.length_cons]; omega)

end QueryTemplate.Json
