import QueryTemplate.Inline.Expansion
import QueryTemplate.Json.Scan

/-! String literals of programs, read back.

Between its quotes a character stands for itself, unless it is a backslash: then it starts an
escape.
-/

set_option autoImplicit false

namespace QueryTemplate.Inline

open Json (hexDigit?)

def hexNumber? (digits : Text) : Option Nat :=
  digits.foldlM (fun value c => (hexDigit? c).map (16 * value + ·)) 0

def character? (n : Nat) : Option Char := if n.isValidChar then some (Char.ofNat n) else none

def escapeLetter? : Char → Option Char
  | 'n' => some '\n'
  | 'r' => some '\r'
  | 't' => some '\t'
  | '0' => some (Char.ofNat 0)
  | '\\' => some '\\'
  | '"' => some '"'
  | '\'' => some '\''
  | _ => none

def escape? : Text → Option (Char × Text)
  | 'x' :: first :: second :: rest =>
    match hexNumber? [first, second] with
    | some n => if n < 128 then some (Char.ofNat n, rest) else none
    | none => none
  | 'u' :: '{' :: rest =>
    match rest.dropWhile (· ≠ '}') with
    | [] => none
    | _ :: behind => ((hexNumber? (rest.takeWhile (· ≠ '}'))).bind character?).map (·, behind)
  | letter :: rest => (escapeLetter? letter).map (·, rest)
  | [] => none

theorem length_lt_of_escape? {text rest : Text} {c : Char}
    (found : escape? text = some (c, rest)) : rest.length < text.length := by
  unfold escape? at found
  split at found
  next first second behind =>
    split at found
    next n _ =>
      split at found
      next =>
        cases found
        simp only [List.length_cons]
        omega
      next => cases found
    next => cases found
  next inner =>
    have whole := (List.dropWhile_suffix (l := inner) (· ≠ '}')).length_le
    split at found
    next => cases found
    next behind closed =>
      obtain ⟨_, _, same⟩ := Option.map_eq_some_iff.mp found
      cases same
      rw [closed] at whole
      simp only [List.length_cons] at whole ⊢
      omega
  next letter behind _ _ =>
    obtain ⟨_, _, same⟩ := Option.map_eq_some_iff.mp found
    cases same
    exact Nat.lt_succ_self _
  next => cases found

/-- The text of a string literal, behind its opening quote. Nothing follows the closing one. -/
def unquoted? (text : Text) : Option Text :=
  match text with
  | [] => none
  | c :: rest =>
    if c = '"' then
      if rest.isEmpty then some [] else none
    else if c = '\\' then
      match found : escape? rest with
      | none => none
      | some (meant, behind) =>
        have := length_lt_of_escape? found
        (unquoted? behind).map (meant :: ·)
    else (unquoted? rest).map (c :: ·)
termination_by text.length

theorem hexDigit?_digitChar {digit : Nat} (small : digit < 16) :
    hexDigit? (Nat.digitChar digit) = some digit := by
  revert digit
  decide

theorem hexNumber?_hexadecimal (n : Nat) : hexNumber? (Text.hexadecimal n) = some n := by
  induction n using Nat.strongRecOn with
  | ind n ih =>
    rw [Text.hexadecimal, Nat.toDigits_eq_if (by decide)]
    split
    next small => simp [hexNumber?, hexDigit?_digitChar small]
    next large =>
      -- The digits before the last denote the quotient, the last one the remainder.
      have shorter := ih (n / 16) (by omega)
      have last := hexDigit?_digitChar (Nat.mod_lt n (by decide : 0 < 16))
      rw [hexNumber?, Text.hexadecimal] at shorter
      rw [hexNumber?, List.foldlM_append, shorter]
      simp [last]
      omega

theorem ne_brace_of_mem_hexadecimal {n : Nat} {c : Char} (member : c ∈ Text.hexadecimal n) :
    c ≠ '}' := by
  induction n using Nat.strongRecOn with
  | ind n ih =>
    have plain : ∀ digit < 16, Nat.digitChar digit ≠ '}' := by decide
    rw [Text.hexadecimal, Nat.toDigits_eq_if (by decide)] at member
    split at member
    next small =>
      obtain rfl := List.mem_singleton.mp member
      exact plain n small
    next large =>
      rcases List.mem_append.mp member with earlier | last
      · exact ih (n / 16) (by omega) earlier
      · obtain rfl := List.mem_singleton.mp last
        exact plain _ (Nat.mod_lt n (by decide))

theorem escape?_spelledOut (c : Char) (rest : Text) :
    escape? ('u' :: '{' :: (Text.hexadecimal c.toNat ++ '}' :: rest)) = some (c, rest) := by
  have inner : ∀ digit ∈ Text.hexadecimal c.toNat, decide (digit ≠ '}') = true := by
    intro digit member
    simpa using ne_brace_of_mem_hexadecimal member
  have valid : c.toNat.isValidChar := c.valid
  simp only [escape?]
  rw [List.dropWhile_append_of_pos inner, List.takeWhile_append_of_pos inner]
  simp [hexNumber?_hexadecimal, character?, valid]

theorem unquoted?_plain {c : Char} (noQuote : c ≠ '"') (noBackslash : c ≠ '\\') (rest : Text) :
    unquoted? (c :: rest) = (unquoted? rest).map (c :: ·) := by
  rw [unquoted?, if_neg noQuote, if_neg noBackslash]

theorem unquoted?_escape {text rest : Text} {c : Char} (found : escape? text = some (c, rest)) :
    unquoted? ('\\' :: text) = (unquoted? rest).map (c :: ·) := by
  rw [unquoted?, if_neg (by decide), if_pos rfl]
  split
  next absent => rw [found] at absent; cases absent
  next meant behind same => rw [found] at same; cases same; rfl

theorem unquoted?_quotedChar (c : Char) (rest : Text) :
    unquoted? (Text.quotedChar c ++ rest) = (unquoted? rest).map (c :: ·) := by
  -- Quotes and backslashes, the four characters with a letter, those spelled by number, the rest.
  unfold Text.quotedChar
  split
  next quotes =>
    apply unquoted?_escape
    rcases quotes with rfl | rfl <;> rfl
  next ordinary =>
    split
    next newline => exact unquoted?_escape (by rw [newline]; rfl)
    split
    next carriageReturn => exact unquoted?_escape (by rw [carriageReturn]; rfl)
    split
    next tab => exact unquoted?_escape (by rw [tab]; rfl)
    split
    next zero => exact unquoted?_escape (by rw [zero]; rfl)
    split
    next =>
      rw [Text.spelledOut]
      apply unquoted?_escape
      simpa using escape?_spelledOut c rest
    next =>
      obtain ⟨noQuote, noBackslash⟩ := not_or.mp ordinary
      exact unquoted?_plain noQuote noBackslash rest

theorem unquoted?_literalBody (text : Text) :
    unquoted? (Code.literalBody text ++ ['"']) = some text := by
  induction text with
  | nil => rw [Code.literalBody, List.nil_append, unquoted?]; rfl
  | cons c rest ih =>
    rw [Code.literalBody]
    split
    next zero =>
      -- Two hexadecimal digits, so that the octal digit behind stays a character of its own.
      have found : escape? ('x' :: '0' :: '0' :: (Code.literalBody rest ++ ['"'])) =
          some (c, Code.literalBody rest ++ ['"']) := by
        rw [zero.1]
        rfl
      have spelled := unquoted?_escape found
      rw [ih] at spelled
      exact spelled
    next =>
      rw [List.append_assoc, unquoted?_quotedChar, ih]
      rfl

def literal? : Text → Option Text
  | '"' :: rest => unquoted? rest
  | _ => none

theorem literal?_stringLiteral (text : Text) :
    literal? ('"' :: Code.literalBody text ++ ['"']) = some text :=
  unquoted?_literalBody text

end QueryTemplate.Inline
