import Mathlib.Data.List.Forall2
import QueryTemplate.Json.Reader
import QueryTemplate.Proofs.JsonGrammar

/-! Spelled JSON, read piece by piece.

A string is read from every spelling, a list if its items are, and an object if its members are
taken one after the other, whatever blanks stand around them. A reader stops right behind what it
read, provided that no number could go on there.
-/

set_option autoImplicit false

namespace QueryTemplate.Json

/-! ## Strings -/

theorem stringBody_plain {c : Char} (noQuote : c ≠ '"') (noBackslash : c ≠ '\\')
    (printable : ¬ c.toNat < 32) (rest : Text) :
    stringBody (c :: rest) = (stringBody rest).map fun (body, rest) => (c :: body, rest) := by
  rw [stringBody.eq_def]
  split
  next same => cases same
  next same => exact absurd (List.cons.inj same).1 noQuote
  next same => exact absurd (List.cons.inj same).1 noBackslash
  next same =>
    cases same
    rw [if_neg printable]

theorem stringBody_escape {c : Char} {text rest : Text} (found : escaped text = .ok (c, rest)) :
    stringBody ('\\' :: text) = (stringBody rest).map fun (body, rest) => (c :: body, rest) := by
  rw [stringBody]
  split
  next absent =>
    rw [found] at absent
    cases absent
  next same =>
    rw [found] at same
    cases same
    rfl

theorem hexQuad_append {digits : Text} {unit : Nat} (quad : Quad digits unit) (rest : Text) :
    hexQuad (digits ++ rest) = .ok (unit, rest) := by
  cases quad with
  | mk first second third fourth =>
    simp only [List.cons_append, List.nil_append, hexQuad, first, second, third, fourth]

theorem escaped_letter {letter c : Char} (stands : (letter, c) ∈ escapeLetters) (rest : Text) :
    escaped (letter :: rest) = .ok (c, rest) := by
  simp only [escapeLetters, List.mem_cons, Prod.mk.injEq, List.not_mem_nil, or_false] at stands
  rcases stands with ⟨rfl, rfl⟩ | ⟨rfl, rfl⟩ | ⟨rfl, rfl⟩ | ⟨rfl, rfl⟩ | ⟨rfl, rfl⟩ | ⟨rfl, rfl⟩ |
    ⟨rfl, rfl⟩ | ⟨rfl, rfl⟩
  all_goals rfl

/-- No character is half of a surrogate pair. -/
theorem no_surrogate (c : Char) :
    isTrailingSurrogate c.toNat = false ∧ isLeadingSurrogate c.toNat = false := by
  have valid : c.toNat < 0xD800 ∨ 0xDFFF < c.toNat ∧ c.toNat < 0x110000 := c.valid
  simp only [isTrailingSurrogate, isLeadingSurrogate, Bool.and_eq_false_iff,
    decide_eq_false_iff_not]
  omega

theorem escaped_unit {digits : Text} {c : Char} (quad : Quad digits c.toNat) (rest : Text) :
    escaped ('u' :: (digits ++ rest)) = .ok (c, rest) := by
  obtain ⟨noTrailing, noLeading⟩ := no_surrogate c
  simp [escaped, hexQuad_append quad, bind, Except.bind, noTrailing, noLeading]

theorem escaped_pair {high low : Text} {leading trailing : Nat} {c : Char}
    (first : Quad high leading) (second : Quad low trailing) (isFirst : isLeadingSurrogate leading)
    (isSecond : isTrailingSurrogate trailing)
    (same : c.toNat = 0x10000 + (leading - 0xD800) * 0x400 + (trailing - 0xDC00)) (rest : Text) :
    escaped ('u' :: (high ++ '\\' :: 'u' :: (low ++ rest))) = .ok (c, rest) := by
  have noTrailing : isTrailingSurrogate leading = false := by
    simp only [isLeadingSurrogate, Bool.and_eq_true, decide_eq_true_eq] at isFirst
    simp only [isTrailingSurrogate, Bool.and_eq_false_iff, decide_eq_false_iff_not]
    omega
  simp [escaped, hexQuad_append first, hexQuad_append second, trailingUnit, bind, Except.bind,
    noTrailing, isFirst, isSecond, ← same]

theorem stringBody_spelledChar {spelling : Text} {c : Char} (spelled : SpelledChar spelling c)
    (rest : Text) :
    stringBody (spelling ++ rest) = (stringBody rest).map fun (body, rest) => (c :: body, rest) := by
  cases spelled with
  | plain noQuote noBackslash printable => exact stringBody_plain noQuote noBackslash printable rest
  | letter stands => exact stringBody_escape (escaped_letter stands rest)
  | unit quad => exact stringBody_escape (escaped_unit quad rest)
  | pair first second isFirst isSecond same =>
    have found := escaped_pair first second isFirst isSecond same rest
    rw [List.cons_append, List.cons_append, List.append_assoc]
    exact stringBody_escape found

theorem stringBody_spelled {body text : Text} (spelled : SpelledText body text) (rest : Text) :
    stringBody (body ++ rest) = (stringBody rest).map fun (more, rest) => (text ++ more, rest) := by
  induction spelled with
  | nil => cases read : stringBody rest <;> simp [read, Except.map]
  | cons first _ ih =>
    rw [List.append_assoc, stringBody_spelledChar first, ih]
    cases stringBody rest <;> rfl

theorem stringBody_quoted {body text : Text} (spelled : SpelledText body text) (rest : Text) :
    stringBody (body ++ '"' :: rest) = .ok (text, rest) := by
  have close : stringBody ('"' :: rest) = .ok ([], rest) := by rw [stringBody]
  rw [stringBody_spelled spelled, close]
  simp [Except.map]

/-! ## What a reader reads back -/

def numberEnds (rest : Text) : Bool :=
  rest.head?.all fun c => !(Text.isDigit c || c == '.' || c == 'e' || c == 'E')

def opensItem (text : Text) : Bool :=
  text.head?.any fun c => !(isBlank c || c == ',' || c == ']')

/-- Written so, `x` is found again by the reader, which stops right behind it. -/
structure Reads {α : Type} (reader : Reader α) (written : Text) (x : α) : Prop where
  opens : opensItem written
  read : ∀ rest, numberEnds rest → reader (written ++ rest) = .ok (x, rest)

variable {α σ : Type} {reader item : Reader α} {written : Text} {x : α}

theorem opensItem_append {text : Text} (opens : opensItem text) (rest : Text) :
    opensItem (text ++ rest) := by
  cases text with
  | nil => cases opens
  | cons c text => exact opens

theorem exists_of_opensItem {text : Text} (opens : opensItem text) :
    ∃ c rest, text = c :: rest ∧ isBlank c = false ∧ c ≠ ',' ∧ c ≠ ']' := by
  cases text with
  | nil => cases opens
  | cons c rest =>
    obtain ⟨⟨solid, noComma⟩, noEnd⟩ : (isBlank c = false ∧ c ≠ ',') ∧ c ≠ ']' := by
      simpa [opensItem, and_assoc] using opens
    exact ⟨c, rest, rfl, solid, noComma, noEnd⟩

theorem skipBlank_of_opensItem {text : Text} (opens : opensItem text) : skipBlank text = text := by
  obtain ⟨c, rest, rfl, solid, _⟩ := exists_of_opensItem opens
  simp [skipBlank, solid]

/-! ## Blanks around what is read -/

theorem skipBlank_append {blanks : Text} (blank : Blank blanks) (rest : Text) :
    skipBlank (blanks ++ rest) = skipBlank rest :=
  List.dropWhile_append_of_pos blank

theorem skipBlank_append_of_opensItem {text : Text} (opens : opensItem (skipBlank text))
    (rest : Text) : skipBlank (text ++ rest) = skipBlank text ++ rest := by
  obtain ⟨c, tail, solid, _⟩ := exists_of_opensItem opens
  rw [skipBlank] at solid
  simp [skipBlank, List.dropWhile_append, solid]

theorem numberEnds_append {blanks rest : Text} (blank : Blank blanks) (ends : numberEnds rest) :
    numberEnds (blanks ++ rest) := by
  cases blanks with
  | nil => exact ends
  | cons c blanks =>
    have first : isBlank c := blank c List.mem_cons_self
    simp only [isBlank, Bool.or_eq_true, beq_iff_eq] at first
    rcases first with ((rfl | rfl) | rfl) | rfl <;> rfl

/-- What is written stands for `x`, with blanks around it. -/
inductive Padded (reader : Reader α) : Text → α → Prop where
  | mk {before written after : Text} {x : α} (leading : Blank before)
    (reads : Reads reader written x) (trailing : Blank after) :
    Padded reader (before ++ (written ++ after)) x

theorem Reads.padded (reads : Reads reader written x) : Padded reader written x := by
  have whole : Padded reader ([] ++ (written ++ [])) x := .mk blank_nil reads blank_nil
  simpa using whole

theorem skipBlank_append_opensItem {blanks text : Text} (blank : Blank blanks)
    (opens : opensItem text) : skipBlank (blanks ++ text) = text := by
  rw [skipBlank_append blank, skipBlank_of_opensItem opens]

theorem Padded.opens {text : Text} (padded : Padded reader text x) :
    opensItem (skipBlank text) := by
  cases padded with
  | @mk before written after _ leading reads trailing =>
    have opens := opensItem_append reads.opens after
    rwa [skipBlank_append_opensItem leading opens]

/-! ## Lists -/

theorem nextItem_done (first : Bool) (rest : Text) :
    nextItem first (']' :: rest) = .ok (.done rest) := rfl

theorem nextItem_append {blanks : Text} (blank : Blank blanks) (first : Bool) (rest : Text) :
    nextItem first (blanks ++ rest) = nextItem first rest := by
  simp only [nextItem, skipBlank_append blank]

theorem nextItem_first {text ahead : Text} (starts : skipBlank text = ahead)
    (opens : opensItem ahead) : nextItem true text = .ok (.item ahead) := by
  rw [nextItem, starts]
  obtain ⟨c, rest, rfl, _, noComma, noEnd⟩ := exists_of_opensItem opens
  split <;> simp_all

theorem nextItem_comma {text ahead : Text} (starts : skipBlank text = ahead)
    (opens : opensItem ahead) : nextItem false (',' :: text) = .ok (.item ahead) := by
  have comma : skipBlank (',' :: text) = ',' :: text := rfl
  rw [nextItem, comma]
  simp only [starts]
  obtain ⟨c, rest, rfl, _, noComma, noEnd⟩ := exists_of_opensItem opens
  simp [noEnd]

theorem items_done {bound : Nat} {first : Bool} {text rest : Text}
    (next : nextItem first text = .ok (.done rest)) :
    items item (bound + 1) first text = .ok ([], rest) := by
  simp only [items, next, bind, Except.bind]

theorem items_item {bound : Nat} {first : Bool} {text ahead behind : Text}
    (next : nextItem first text = .ok (.item ahead)) (read : item ahead = .ok (x, behind)) :
    items item (bound + 1) first text =
      (items item bound false behind).map fun (xs, rest) => (x :: xs, rest) := by
  simp only [items, next, read, bind, Except.bind]
  cases items item bound false behind <;> rfl

theorem items_fault {bound : Nat} {first : Bool} {text ahead : Text} {fault : Fault}
    (next : nextItem first text = .ok (.item ahead)) (failed : item ahead = .error fault) :
    items item (bound + 1) first text = .error fault := by
  simp only [items, next, failed, bind, Except.bind]

theorem items_append {blanks : Text} (blank : Blank blanks) (bound : Nat) (first : Bool)
    (rest : Text) :
    items item (bound + 1) first (blanks ++ rest) = items item (bound + 1) first rest := by
  simp only [items, nextItem_append blank]

theorem numberEnds_flatMap (parts : List Text) {rest : Text} (ends : numberEnds rest) :
    numberEnds (parts.flatMap ([','] ++ ·) ++ rest) := by
  cases parts with
  | nil => exact ends
  | cons => rfl

/-- Written items are read one after the other, up to whatever comes behind them. -/
theorem items_padded {parts : List Text} {xs : List α}
    (reads : List.Forall₂ (Padded item) parts xs) (bound : Nat) {rest : Text}
    (ends : numberEnds rest) :
    items item (parts.length + (bound + 1)) false (parts.flatMap ([','] ++ ·) ++ rest) =
      (items item (bound + 1) false rest).map fun (ys, rest) => (xs ++ ys, rest) := by
  induction reads with
  | nil =>
    rw [List.length_nil, Nat.zero_add]
    cases read : items item (bound + 1) false rest <;> simp [read, Except.map]
  | @cons part x parts xs first _ ih =>
    cases first with
    | @mk before written after _ leading reads trailing =>
      have text : ((before ++ (written ++ after)) :: parts).flatMap ([','] ++ ·) ++ rest =
          ',' :: (before ++ (written ++ (after ++ (parts.flatMap ([','] ++ ·) ++ rest)))) := by
        simp
      have opens := opensItem_append reads.opens
        (after ++ (parts.flatMap ([','] ++ ·) ++ rest))
      have next := nextItem_comma (skipBlank_append_opensItem leading opens) opens
      have read := reads.read _ (numberEnds_append trailing (numberEnds_flatMap parts ends))
      rw [List.length_cons, Nat.add_right_comm, text, items_item next read, ← Nat.add_assoc,
        items_append trailing, Nat.add_assoc, ih]
      cases items item (bound + 1) false rest <;> rfl

theorem length_le_length_flatMap (parts : List Text) :
    parts.length ≤ (parts.flatMap ([','] ++ ·)).length := by
  induction parts with
  | nil => exact Nat.le_refl 0
  | cons part parts ih =>
    simp only [List.flatMap_cons, List.length_append, List.length_cons]
    omega

/-- Reading is bounded by the length of the text, and no text has more parts than characters. -/
theorem exists_bound (part : Text) (parts : List Text) (blanks : Text) (close : Char)
    (rest : Text) :
    ∃ bound, parts.length ≤ bound ∧
      (Text.join [','] (part :: parts) ++ (blanks ++ close :: rest)).length = bound + 1 := by
  refine ⟨(Text.join [','] (part :: parts)).length + (blanks.length + rest.length), ?_, ?_⟩
  · have counted := length_le_length_flatMap parts
    simp only [Text.join_cons, List.length_append]
    omega
  · simp only [List.length_append, List.length_cons]
    omega

theorem items_first {text : Text} (opens : opensItem (skipBlank text)) (bound : Nat) :
    items item (bound + 1) true text = items item (bound + 1) false (',' :: text) := by
  simp only [items, nextItem_first rfl opens, nextItem_comma rfl opens]

/-- A list with a first item is read like items behind others, and its bound is not reached. -/
theorem exists_listBody_eq {first : Text} (opens : opensItem (skipBlank first)) (parts : List Text)
    (rest : Text) :
    ∃ bound, listBody item (Text.join [','] (first :: parts) ++ rest) =
      items item ((first :: parts).length + (bound + 1)) false
        ((first :: parts).flatMap ([','] ++ ·) ++ rest) := by
  let whole := first ++ (parts.flatMap ([','] ++ ·) ++ rest)
  have joined : Text.join [','] (first :: parts) ++ rest = whole := by simp [Text.join_cons, whole]
  have behind : (first :: parts).flatMap ([','] ++ ·) ++ rest = ',' :: whole := by simp [whole]
  have starts : opensItem (skipBlank whole) := by
    rw [skipBlank_append_of_opensItem opens]
    exact opensItem_append opens _
  have long : parts.length < whole.length := by
    have present : first ≠ [] := by
      rintro rfl
      cases opens
    have counted := length_le_length_flatMap parts
    have positive := List.length_pos_iff.mpr present
    simp only [whole, List.length_append]
    omega
  obtain ⟨bound, same⟩ := Nat.exists_eq_add_of_lt long
  refine ⟨bound, ?_⟩
  rw [listBody, joined, behind, items_first starts, same, List.length_cons]
  congr 1
  omega

/-- A list is read back if its items are, whatever blanks stand around them and before its end. -/
theorem listBody_spread {parts : List Text} {xs : List α}
    (reads : List.Forall₂ (Padded item) parts xs) {blanks : Text} (blank : Blank blanks)
    (rest : Text) :
    listBody item (Text.join [','] parts ++ (blanks ++ ']' :: rest)) = .ok (xs, rest) := by
  have ends : ∀ bound first,
      items item (bound + 1) first (blanks ++ ']' :: rest) = .ok ([], rest) := by
    intro bound first
    rw [items_append blank, items_done (nextItem_done first rest)]
  cases reads with
  | nil => exact ends _ true
  | @cons part x parts xs first more =>
    obtain ⟨bound, opened⟩ := exists_listBody_eq first.opens parts (blanks ++ ']' :: rest)
    rw [opened, items_padded (.cons first more) bound (numberEnds_append blank rfl), ends]
    simp [Except.map]

theorem listBody_padded {parts : List Text} {xs : List α}
    (reads : List.Forall₂ (Padded item) parts xs) (rest : Text) :
    listBody item (Text.join [','] parts ++ ']' :: rest) = .ok (xs, rest) :=
  listBody_spread reads blank_nil rest

/-! ## Objects -/

/-- Members of an object, each as it stands between commas, take a reader from one state to
another. -/
inductive Takes (take : σ → Text → Reader σ) : σ → List Text → σ → Prop where
  | nil (state : σ) : Takes take state [] state
  | cons {before between after : σ} {gap key name value blanks : Text} {parts : List Text}
    (apart : Blank gap) (spelled : SpelledText key name)
    (taken : ∀ rest, numberEnds rest → take before name (value ++ rest) = .ok (between, rest))
    (trailing : Blank blanks) (later : Takes take between parts after) :
    Takes take before ((gap ++ '"' :: (key ++ '"' :: (value ++ blanks))) :: parts) after

theorem nextKey_done (first : Bool) (rest : Text) :
    nextKey first ('}' :: rest) = .ok (.done rest) := rfl

theorem nextKey_append {blanks : Text} (blank : Blank blanks) (first : Bool) (rest : Text) :
    nextKey first (blanks ++ rest) = nextKey first rest := by
  simp only [nextKey, skipBlank_append blank]

theorem skipBlank_quote (rest : Text) : skipBlank ('"' :: rest) = '"' :: rest := rfl

theorem keyBody_quoted {key name : Text} (spelled : SpelledText key name) (rest : Text) :
    keyBody (key ++ '"' :: rest) = .ok (.key name rest) := by
  rw [keyBody, stringBody_quoted spelled]
  rfl

theorem nextKey_first {gap key name : Text} (apart : Blank gap) (spelled : SpelledText key name)
    (rest : Text) :
    nextKey true (gap ++ '"' :: (key ++ '"' :: rest)) = .ok (.key name rest) := by
  rw [nextKey_append apart, nextKey, skipBlank_quote]
  exact keyBody_quoted spelled rest

theorem nextKey_comma {gap key name : Text} (apart : Blank gap) (spelled : SpelledText key name)
    (rest : Text) :
    nextKey false (',' :: (gap ++ '"' :: (key ++ '"' :: rest))) = .ok (.key name rest) := by
  have comma : ∀ behind, skipBlank (',' :: behind) = ',' :: behind := fun _ => rfl
  rw [nextKey, comma]
  simp [skipBlank_append apart, skipBlank_quote, keyBody_quoted spelled]

section

variable {take : σ → Text → Reader σ} {before between after : σ} {parts : List Text}

theorem members_done {bound : Nat} {first : Bool} {text rest : Text}
    (next : nextKey first text = .ok (.done rest)) :
    members take (bound + 1) first before text = .ok (before, rest) := by
  simp only [members, next, bind, Except.bind]

theorem members_key {bound : Nat} {first : Bool} {text ahead behind rest name : Text}
    (next : nextKey first text = .ok (.key name ahead))
    (taken : take before name ahead = .ok (between, behind))
    (later : members take bound false between behind = .ok (after, rest)) :
    members take (bound + 1) first before text = .ok (after, rest) := by
  simp only [members, next, taken, later, bind, Except.bind]

theorem members_append {blanks : Text} (blank : Blank blanks) (bound : Nat) (first : Bool)
    (rest : Text) :
    members take (bound + 1) first before (blanks ++ rest) =
      members take (bound + 1) first before rest := by
  simp only [members, nextKey_append blank]

theorem memberText_append (gap key value blanks rest : Text) :
    gap ++ '"' :: (key ++ '"' :: (value ++ blanks)) ++ rest =
      gap ++ '"' :: (key ++ '"' :: (value ++ (blanks ++ rest))) := by
  simp

/-- Members are taken one after the other, up to the end of the object. -/
theorem members_spread (takes : Takes take before parts after) {blanks : Text}
    (blank : Blank blanks) {bound : Nat} (enough : parts.length ≤ bound) (rest : Text) :
    members take (bound + 1) false before
        (parts.flatMap ([','] ++ ·) ++ (blanks ++ '}' :: rest)) = .ok (after, rest) := by
  have ends : numberEnds (blanks ++ '}' :: rest) := numberEnds_append blank rfl
  induction takes generalizing bound with
  | nil =>
    have done : nextKey false (blanks ++ '}' :: rest) = .ok (.done rest) := by
      rw [nextKey_append blank, nextKey_done]
    exact members_done done
  | @cons before between after gap key name value trail parts apart spelled taken trailing _ ih =>
    cases bound with
    | zero => exact absurd enough (Nat.not_succ_le_zero _)
    | succ bound =>
      have later := ih (Nat.le_of_succ_le_succ enough)
      rw [← members_append trailing] at later
      rw [List.flatMap_cons, List.append_assoc, List.append_assoc, memberText_append]
      exact members_key (nextKey_comma apart spelled _)
        (taken _ (numberEnds_append trailing (numberEnds_flatMap _ ends))) later

/-- An object is read if its members are taken one after the other. -/
theorem objectBody_spread (takes : Takes take before parts after) {blanks : Text}
    (blank : Blank blanks) (rest : Text) :
    objectBody take before (Text.join [','] parts ++ (blanks ++ '}' :: rest)) = .ok (after, rest) := by
  have ends : numberEnds (blanks ++ '}' :: rest) := numberEnds_append blank rfl
  cases takes with
  | nil =>
    have done : nextKey true (blanks ++ '}' :: rest) = .ok (.done rest) := by
      rw [nextKey_append blank, nextKey_done]
    exact members_done done
  | @cons _ between _ gap key name value trail parts apart spelled taken trailing more =>
    obtain ⟨bound, enough, long⟩ :=
      exists_bound (gap ++ '"' :: (key ++ '"' :: (value ++ trail))) parts blanks '}' rest
    have later := members_spread more blank enough rest
    rw [← members_append trailing] at later
    rw [objectBody, long, Text.join_cons, List.append_assoc, memberText_append]
    exact members_key (nextKey_first apart spelled _)
      (taken _ (numberEnds_append trailing (numberEnds_flatMap _ ends))) later

end

end QueryTemplate.Json
