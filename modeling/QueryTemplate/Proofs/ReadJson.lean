import Mathlib.Data.List.TakeWhile
import QueryTemplate.Proofs.SpelledJson

/-! What the JSON reader accepts.

Every reader takes a spelling of what it gives off the front of its text. As it also reads every
spelling, the texts that it accepts are those of the grammar, up to its limit of open brackets.
-/

set_option autoImplicit false

namespace QueryTemplate.Json

variable {text rest : Text}

/-! ## Strings -/

theorem exists_blanks (text : Text) : ∃ blanks, Blank blanks ∧ text = blanks ++ skipBlank text :=
  ⟨text.takeWhile isBlank, fun _ => List.mem_takeWhile_imp, List.takeWhile_append_dropWhile.symm⟩

theorem eq_append_of_word {letters : Text} (read : word letters text = .ok rest) :
    text = letters ++ rest := by
  induction letters generalizing text with
  | nil => exact Except.ok.inj read
  | cons letter letters ih =>
    cases text with
    | nil => cases read
    | cons c text =>
      rw [word] at read
      split at read
      next same => rw [same, ih read, List.cons_append]
      next => cases read

theorem exists_quad_of_hexQuad {unit : Nat} (read : hexQuad text = .ok (unit, rest)) :
    ∃ digits, Quad digits unit ∧ text = digits ++ rest := by
  unfold hexQuad at read
  split at read
  next a b c d behind =>
    split at read
    next first second third fourth =>
      cases read
      exact ⟨[a, b, c, d], .mk first second third fourth, rfl⟩
    next => cases read
  next => split at read <;> cases read

theorem hexDigit?_lt {c : Char} {n : Nat} (found : hexDigit? c = some n) : n < 16 := by
  simp only [hexDigit?, Char.le_def, UInt32.le_iff_toNat_le] at found
  have value : c.val.toNat = c.toNat := rfl
  have nine : ('9' : Char).val.toNat = '0'.toNat + 9 := rfl
  have lower : ('f' : Char).val.toNat = 'a'.toNat + 5 := rfl
  have upper : ('F' : Char).val.toNat = 'A'.toNat + 5 := rfl
  split at found
  next digit => cases found; omega
  split at found
  next letter => cases found; omega
  split at found
  next letter => cases found; omega
  next => cases found

theorem Quad.lt {digits : Text} {unit : Nat} (quad : Quad digits unit) : unit < 0x10000 := by
  cases quad with
  | mk first second third fourth =>
    have := hexDigit?_lt first
    have := hexDigit?_lt second
    have := hexDigit?_lt third
    have := hexDigit?_lt fourth
    omega

theorem exists_quad_of_trailingUnit {unit : Nat} (read : trailingUnit text = .ok (unit, rest)) :
    ∃ digits, Quad digits unit ∧ isTrailingSurrogate unit ∧ text = '\\' :: 'u' :: (digits ++ rest) := by
  unfold trailingUnit at read
  split at read
  next => cases read
  next => cases read
  next behind =>
    obtain ⟨⟨found, after⟩, quad, ended⟩ := exists_of_bind_eq_ok read
    obtain ⟨digits, spelled, rfl⟩ := exists_quad_of_hexQuad quad
    dsimp only at ended
    split at ended
    next trailing =>
      cases ended
      exact ⟨digits, spelled, trailing, rfl⟩
    next => cases ended
  next => cases read
  next => cases read

theorem toNat_ofNat {n : Nat} (valid : n.isValidChar) : (Char.ofNat n).toNat = n := by
  rw [Char.ofNat, dif_pos valid]
  rfl

theorem exists_spelling_of_escaped {c : Char} (read : escaped text = .ok (c, rest)) :
    ∃ spelling, SpelledChar ('\\' :: spelling) c ∧ text = spelling ++ rest := by
  unfold escaped at read
  split at read
  case h_1 => cases read
  case h_10 behind =>
    obtain ⟨⟨unit, after⟩, quad, ended⟩ := exists_of_bind_eq_ok read
    obtain ⟨digits, spelled, rfl⟩ := exists_quad_of_hexQuad quad
    dsimp only at ended
    split at ended
    next => cases ended
    next noTrailing =>
      split at ended
      next isLeading =>
        obtain ⟨⟨trailing, last⟩, paired, made⟩ := exists_of_bind_eq_ok ended
        obtain ⟨more, spelledToo, isTrailing, rfl⟩ := exists_quad_of_trailingUnit paired
        obtain ⟨rfl, rfl⟩ := Prod.mk.inj (Except.ok.inj made)
        refine ⟨'u' :: (digits ++ '\\' :: 'u' :: more),
          .pair spelled spelledToo isLeading isTrailing (toNat_ofNat ?_), by simp⟩
        simp only [isLeadingSurrogate, isTrailingSurrogate, Bool.and_eq_true,
          decide_eq_true_eq] at isLeading isTrailing
        right
        omega
      next noLeading =>
        cases ended
        have small := spelled.lt
        have valid : unit.isValidChar := by
          simp only [isLeadingSurrogate, isTrailingSurrogate, Bool.and_eq_true, decide_eq_true_eq,
            not_and] at noLeading noTrailing
          rw [Nat.isValidChar]
          omega
        refine ⟨'u' :: digits, .unit ?_, rfl⟩
        rwa [toNat_ofNat valid]
  case h_11 => cases read
  all_goals
    cases read
    exact ⟨_, .letter (by decide), rfl⟩

theorem exists_spelled_of_stringBody {body : Text} (read : stringBody text = .ok (body, rest)) :
    ∃ spelled, SpelledText spelled body ∧ text = spelled ++ '"' :: rest := by
  fun_induction stringBody text generalizing body rest with
  | case1 => cases read
  | case2 behind =>
    cases read
    exact ⟨[], .nil, rfl⟩
  | case3 behind fault failed => cases read
  | case4 behind c after found shorter ih =>
    obtain ⟨⟨more, last⟩, later, same⟩ := exists_of_map_eq_ok read
    cases same
    obtain ⟨spelling, first, rfl⟩ := exists_spelling_of_escaped found
    obtain ⟨spelled, others, rfl⟩ := ih later
    exact ⟨'\\' :: spelling ++ spelled, .cons first others, by simp⟩
  | case5 => cases read
  | case6 c behind noQuote noBackslash printable ih =>
    obtain ⟨⟨more, last⟩, later, same⟩ := exists_of_map_eq_ok read
    cases same
    obtain ⟨spelled, others, rfl⟩ := ih later
    exact ⟨c :: spelled, .cons (.plain noQuote noBackslash printable) others, rfl⟩

/-! ## Numbers -/

theorem exists_sign_of_exponentPart {exponent : Bool × Text}
    (read : exponentPart text = .ok (exponent, rest)) :
    ∃ sign positive c tail, (sign, positive) ∈ [([], true), (['+'], true), (['-'], false)] ∧
      Text.isDigit c ∧ text = sign ++ c :: tail := by
  rcases text with _ | ⟨c, tail⟩
  · cases read
  by_cases digit : Text.isDigit c
  · exact ⟨[], true, c, tail, by simp, digit, rfl⟩
  by_cases plus : c = '+'
  · subst plus
    rcases tail with _ | ⟨d, tail⟩
    · cases read
    by_cases second : Text.isDigit d
    · exact ⟨['+'], true, d, tail, by simp, second, rfl⟩
    · simp [exponentPart, second, fail] at read
  by_cases minus : c = '-'
  · subst minus
    rcases tail with _ | ⟨d, tail⟩
    · cases read
    by_cases second : Text.isDigit d
    · exact ⟨['-'], false, d, tail, by simp, second, rfl⟩
    · simp [exponentPart, second, fail] at read
  simp [exponentPart, plus, minus, digit, fail] at read

theorem exists_power_of_exponentPart {letter : Char} (lettered : letter = 'e' ∨ letter = 'E')
    {exponent : Bool × Text} (read : exponentPart text = .ok (exponent, rest)) :
    ∃ power, ExponentPart power (some exponent) ∧ letter :: text = power ++ rest := by
  obtain ⟨sign, positive, c, tail, signed, digit, rfl⟩ := exists_sign_of_exponentPart read
  rw [exponentPart_signed sign signed digit] at read
  cases read
  have present : (c :: tail).takeWhile Text.isDigit ≠ [] := by simp [digit]
  refine ⟨_, .digits lettered signed present fun _ => List.mem_takeWhile_imp, ?_⟩
  rw [List.cons_append, List.append_assoc, List.takeWhile_append_dropWhile]

/-- The parts of a numeral stand in front of what is left. -/
def Parted (number : NumberText) (text rest : Text) : Prop :=
  ∃ point power, FractionPart point number.fraction ∧ ExponentPart power number.exponent ∧
    text = point ++ (power ++ rest)

variable {whole fraction : Text} {number : NumberText}

theorem exists_power_of_withExponent
    (read : withExponent { whole, fraction } text = .ok (number, rest)) :
    ∃ power, ExponentPart power number.exponent ∧ number.whole = whole ∧
      number.fraction = fraction ∧ text = power ++ rest := by
  unfold withExponent at read
  split at read
  case h_3 =>
    cases read
    exact ⟨[], .absent, rfl, rfl, rfl⟩
  all_goals
    obtain ⟨⟨exponent, behind⟩, found, made⟩ := exists_of_bind_eq_ok read
    cases made
  case h_1 =>
    obtain ⟨power, spelled, same⟩ := exists_power_of_exponentPart (.inl rfl) found
    exact ⟨power, spelled, rfl, rfl, same⟩
  case h_2 =>
    obtain ⟨power, spelled, same⟩ := exists_power_of_exponentPart (.inr rfl) found
    exact ⟨power, spelled, rfl, rfl, same⟩

theorem parted_of_withFraction (read : withFraction whole text = .ok (number, rest)) :
    number.whole = whole ∧ Parted number text rest := by
  unfold withFraction at read
  split at read
  next behind =>
    split at read
    next => unfold failAheadOrEnd at read; split at read <;> cases read
    next digits present =>
      obtain ⟨power, spelled, before, same, left⟩ := exists_power_of_withExponent read
      refine ⟨before, '.' :: behind.takeWhile Text.isDigit, power, ?_, spelled, ?_⟩
      · rw [same]
        exact .digits present fun _ => List.mem_takeWhile_imp
      · rw [List.cons_append, ← left, List.takeWhile_append_dropWhile]
  next =>
    obtain ⟨power, spelled, before, same, rfl⟩ := exists_power_of_withExponent read
    refine ⟨before, [], power, ?_, spelled, rfl⟩
    rw [same]
    exact .absent

theorem parted_of_numberText (read : numberText text = .ok (number, rest)) :
    ∃ behind, WholePart number.whole ∧ Parted number behind rest ∧ text = number.whole ++ behind := by
  unfold numberText at read
  split at read
  next => cases read
  next =>
    split at read
    next c tail =>
      split at read
      next => unfold failAhead at read; cases read
      next =>
        obtain ⟨same, parted⟩ := parted_of_withFraction read
        rw [same]
        exact ⟨_, .zero, parted, rfl⟩
    next =>
      obtain ⟨same, parted⟩ := parted_of_withFraction read
      rw [same]
      exact ⟨_, .zero, parted, rfl⟩
  next c tail nonzero =>
    split at read
    next digit =>
      obtain ⟨same, parted⟩ := parted_of_withFraction read
      rw [same]
      have all : ∀ d ∈ c :: tail.takeWhile Text.isDigit, Text.isDigit d :=
        List.forall_mem_cons.mpr ⟨digit, fun _ => List.mem_takeWhile_imp⟩
      refine ⟨_, .digits nonzero all, parted, ?_⟩
      rw [List.cons_append, List.takeWhile_append_dropWhile]
    next => cases read

theorem exists_spelled_of_numeral {n : Numeral} (read : numeral text = .ok (n, rest)) :
    ∃ written negative number, SpelledNumber written negative number ∧
      NumberText.Means negative number n ∧ text = written ++ rest := by
  have parts (negative : Bool) {behind : Text}
      (read : ((numberText behind).bind fun found => found.1.read negative found.2) = .ok (n, rest)) :
      ∃ written number, SpelledNumber written negative number ∧
        NumberText.Means negative number n ∧ signPart negative ++ behind = written ++ rest := by
    obtain ⟨⟨number, left⟩, found, valued⟩ := exists_of_bind_eq_ok read
    obtain ⟨meant, rfl⟩ := NumberText.read_eq_ok_iff.mp valued
    obtain ⟨behind, whole, ⟨point, power, fraction, exponent, rfl⟩, rfl⟩ := parted_of_numberText found
    exact ⟨_, number, .mk negative whole fraction exponent, meant, by simp⟩
  unfold numeral at read
  split at read
  next behind =>
    obtain ⟨written, number, spelled, meant, same⟩ := parts true read
    exact ⟨written, true, number, spelled, meant, same⟩
  next =>
    obtain ⟨written, number, spelled, meant, same⟩ := parts false read
    exact ⟨written, false, number, spelled, meant, same⟩

theorem exists_spelled_of_readAtom {a : Atom} (read : readAtom text = .ok (a, rest)) :
    ∃ written, SpelledAtom NumberText.Means written a ∧ text = written ++ rest := by
  unfold readAtom at read
  split at read
  case h_1 => cases read
  case h_2 =>
    obtain ⟨behind, found, same⟩ := exists_of_map_eq_ok read
    cases same
    exact ⟨_, .null, congrArg ('n' :: ·) (eq_append_of_word found)⟩
  case h_3 =>
    obtain ⟨behind, found, same⟩ := exists_of_map_eq_ok read
    cases same
    exact ⟨_, .yes, congrArg ('t' :: ·) (eq_append_of_word found)⟩
  case h_4 =>
    obtain ⟨behind, found, same⟩ := exists_of_map_eq_ok read
    cases same
    exact ⟨_, .no, congrArg ('f' :: ·) (eq_append_of_word found)⟩
  case h_5 =>
    obtain ⟨⟨body, behind⟩, found, same⟩ := exists_of_map_eq_ok read
    cases same
    obtain ⟨spelled, grammatical, rfl⟩ := exists_spelled_of_stringBody found
    exact ⟨_, .string grammatical, by simp⟩
  case h_6 =>
    split at read
    next =>
      obtain ⟨⟨n, behind⟩, found, same⟩ := exists_of_map_eq_ok read
      cases same
      obtain ⟨written, negative, number, spelled, meant, same⟩ := exists_spelled_of_numeral found
      exact ⟨written, .number spelled meant, same⟩
    next => cases read

/-! ## Lists -/

theorem nextItem_cases {first : Bool} {next : NextItem} (read : nextItem first text = .ok next) :
    ∃ blanks, Blank blanks ∧
      ((∃ rest, next = .done rest ∧ text = blanks ++ ']' :: rest) ∨
      (first = true ∧ ∃ ahead, next = .item ahead ∧ text = blanks ++ ahead) ∨
      (first = false ∧ ∃ gap ahead, Blank gap ∧ next = .item ahead ∧
        text = blanks ++ ',' :: (gap ++ ahead))) := by
  obtain ⟨blanks, blank, whole⟩ := exists_blanks text
  refine ⟨blanks, blank, ?_⟩
  unfold nextItem at read
  split at read
  next rest close =>
    cases read
    exact .inl ⟨rest, rfl, close ▸ whole⟩
  next behind comma =>
    cases first with
    | true =>
      cases read
      exact .inr (.inl ⟨rfl, _, rfl, comma ▸ whole⟩)
    | false =>
      obtain ⟨gap, apart, same⟩ := exists_blanks behind
      simp only [Bool.false_eq_true, if_false] at read
      split at read
      next => unfold failAhead at read; cases read
      next => unfold failAhead at read; cases read
      next =>
        cases read
        refine .inr (.inr ⟨rfl, gap, _, apart, rfl, ?_⟩)
        rw [← same, ← comma, ← whole]
  next => unfold failAhead at read; cases read
  next =>
    cases first with
    | true =>
      cases read
      exact .inr (.inl ⟨rfl, _, rfl, whole⟩)
    | false => simp [failAhead, fail] at read

/-- A reader of values takes blanks and a spelling of what it gives off the front of its text. -/
def Grammatical (reader : Reader Json) : Prop :=
  ∀ {text json rest}, reader text = .ok (json, rest) → ∃ before written, Blank before ∧
    Spells NumberText.Means written json ∧ text = before ++ (written ++ rest)

variable {item : Reader Json} {jsons : List Json}

theorem exists_places_of_items (grammatical : Grammatical item) {bound : Nat}
    (read : items item bound false text = .ok (jsons, rest)) :
    ∃ (blanks : Text) (places : List Place), Blank blanks ∧ places.map Place.json = jsons ∧
      (∀ place ∈ places, Spells NumberText.Means place.written place.json) ∧
      text = blanks ++ ((places.map Place.text).flatMap ([','] ++ ·) ++ ']' :: rest) := by
  induction bound generalizing text jsons rest with
  | zero => cases read
  | succ bound ih =>
    obtain ⟨next, found, more⟩ := exists_of_bind_eq_ok read
    obtain ⟨blanks, blank, ⟨last, rfl, whole⟩ | ⟨first, -⟩ | ⟨-, gap, ahead, apart, rfl, whole⟩⟩ :=
      nextItem_cases found
    · cases more
      exact ⟨blanks, [], blank, rfl, fun _ member => absurd member List.not_mem_nil, whole⟩
    · cases first
    · obtain ⟨⟨json, behind⟩, headed, more⟩ := exists_of_bind_eq_ok more
      obtain ⟨⟨tail, last⟩, later, made⟩ := exists_of_bind_eq_ok more
      cases made
      obtain ⟨before, written, leading, spells, rfl⟩ := grammatical headed
      obtain ⟨after, places, trailing, rfl, each, rfl⟩ := ih later
      let place : Place := ⟨gap ++ before, written, after, json,
        List.forall_mem_append.mpr ⟨apart, leading⟩, trailing⟩
      refine ⟨blanks, place :: places, blank, rfl, List.forall_mem_cons.mpr ⟨spells, each⟩, ?_⟩
      simp [whole, place, Place.text]

theorem exists_places_of_listBody (grammatical : Grammatical item)
    (read : listBody item text = .ok (jsons, rest)) :
    ∃ (blanks : Text) (places : List Place), Blank blanks ∧ places.map Place.json = jsons ∧
      (∀ place ∈ places, Spells NumberText.Means place.written place.json) ∧
      text = Text.join [','] (places.map Place.text) ++ (blanks ++ ']' :: rest) := by
  obtain ⟨next, found, more⟩ := exists_of_bind_eq_ok read
  obtain ⟨blanks, blank, ⟨last, rfl, whole⟩ | ⟨-, ahead, rfl, whole⟩ | ⟨first, -⟩⟩ :=
    nextItem_cases found
  · cases more
    exact ⟨blanks, [], blank, rfl, fun _ member => absurd member List.not_mem_nil, whole⟩
  · obtain ⟨⟨json, behind⟩, headed, more⟩ := exists_of_bind_eq_ok more
    obtain ⟨⟨tail, last⟩, later, made⟩ := exists_of_bind_eq_ok more
    cases made
    obtain ⟨before, written, leading, spells, rfl⟩ := grammatical headed
    obtain ⟨after, places, trailing, rfl, each, rfl⟩ := exists_places_of_items grammatical later
    let place : Place := ⟨blanks ++ before, written, after, json,
      List.forall_mem_append.mpr ⟨blank, leading⟩, trailing⟩
    refine ⟨[], place :: places, blank_nil, rfl, List.forall_mem_cons.mpr ⟨spells, each⟩, ?_⟩
    simp [whole, place, Place.text, Text.join_cons]
  · cases first

/-! ## Objects -/

theorem keyBody_cases {next : NextKey} (read : keyBody text = .ok next) :
    ∃ key name rest, SpelledText key name ∧ next = .key name rest ∧ text = key ++ '"' :: rest := by
  obtain ⟨⟨name, rest⟩, found, rfl⟩ := exists_of_map_eq_ok read
  obtain ⟨key, spelled, same⟩ := exists_spelled_of_stringBody found
  exact ⟨key, name, rest, spelled, rfl, same⟩

theorem nextKey_cases {first : Bool} {next : NextKey} (read : nextKey first text = .ok next) :
    ∃ blanks, Blank blanks ∧
      ((∃ rest, next = .done rest ∧ text = blanks ++ '}' :: rest) ∨
      (first = true ∧ ∃ key name rest, SpelledText key name ∧ next = .key name rest ∧
        text = blanks ++ '"' :: (key ++ '"' :: rest)) ∨
      (first = false ∧ ∃ gap key name rest, Blank gap ∧ SpelledText key name ∧
        next = .key name rest ∧ text = blanks ++ ',' :: (gap ++ '"' :: (key ++ '"' :: rest)))) := by
  obtain ⟨blanks, blank, whole⟩ := exists_blanks text
  refine ⟨blanks, blank, ?_⟩
  unfold nextKey at read
  split at read
  next rest close =>
    cases read
    exact .inl ⟨rest, rfl, close ▸ whole⟩
  next behind quote =>
    cases first with
    | true =>
      obtain ⟨key, name, rest, spelled, rfl, rfl⟩ := keyBody_cases read
      exact .inr (.inl ⟨rfl, key, name, rest, spelled, rfl, quote ▸ whole⟩)
    | false => simp [failAhead, fail] at read
  next behind comma =>
    cases first with
    | true => simp [failAhead, fail] at read
    | false =>
      obtain ⟨gap, apart, same⟩ := exists_blanks behind
      simp only [Bool.false_eq_true, if_false] at read
      split at read
      next ahead quote =>
        obtain ⟨key, name, rest, spelled, rfl, rfl⟩ := keyBody_cases read
        refine .inr (.inr ⟨rfl, gap, key, name, rest, apart, spelled, rfl, ?_⟩)
        rw [← quote, ← same, ← comma, ← whole]
      next => unfold failAhead at read; cases read
      next => unfold failAheadOrEnd at read; split at read <;> cases read
  next => unfold failAhead at read; cases read
  next => unfold failAhead at read; cases read

theorem exists_blanks_of_colon (read : colon text = .ok rest) :
    ∃ between, Blank between ∧ text = between ++ ':' :: rest := by
  obtain ⟨blanks, blank, whole⟩ := exists_blanks text
  unfold colon at read
  split at read
  next behind found =>
    cases read
    exact ⟨blanks, blank, found ▸ whole⟩
  next => unfold failAheadOrEnd at read; split at read <;> cases read

variable {value : Reader Json} {before after : List (Text × Json)}

theorem exists_of_takeMember (grammatical : Grammatical value) {name : Text}
    (read : takeMember value before name text = .ok (after, rest)) :
    ∃ between lead written json, Blank between ∧ Blank lead ∧
      Spells NumberText.Means written json ∧ after = before ++ [(name, json)] ∧
      text = between ++ ':' :: (lead ++ (written ++ rest)) := by
  obtain ⟨ahead, found, more⟩ := exists_of_bind_eq_ok read
  obtain ⟨⟨json, behind⟩, valued, made⟩ := exists_of_bind_eq_ok more
  cases made
  obtain ⟨between, behindKey, rfl⟩ := exists_blanks_of_colon found
  obtain ⟨lead, written, leading, spells, rfl⟩ := grammatical valued
  exact ⟨between, lead, written, json, behindKey, leading, spells, rfl, rfl⟩

theorem exists_members_of_members (grammatical : Grammatical value) {bound : Nat}
    (read : members (takeMember value) bound false before text = .ok (after, rest)) :
    ∃ (blanks : Text) (found : List Member), Blank blanks ∧ after = before ++ found.map Member.entry ∧
      (∀ member ∈ found, Spells NumberText.Means member.written member.json) ∧
      text = blanks ++ ((found.map Member.text).flatMap ([','] ++ ·) ++ '}' :: rest) := by
  induction bound generalizing text before with
  | zero => cases read
  | succ bound ih =>
    obtain ⟨next, met, more⟩ := exists_of_bind_eq_ok read
    obtain ⟨blanks, blank, ⟨last, rfl, whole⟩ | ⟨first, -⟩ |
      ⟨-, gap, key, name, ahead, apart, spelled, rfl, whole⟩⟩ := nextKey_cases met
    · cases more
      exact ⟨blanks, [], blank, by simp, fun _ member => absurd member List.not_mem_nil, whole⟩
    · cases first
    · obtain ⟨⟨state, behind⟩, taken, later⟩ := exists_of_bind_eq_ok more
      obtain ⟨between, lead, written, json, behindKey, leading, spells, rfl, rfl⟩ :=
        exists_of_takeMember grammatical taken
      obtain ⟨trail, found, trailing, rfl, each, rfl⟩ := ih later
      let member : Member := ⟨⟨lead, written, trail, json, leading, trailing⟩, gap, key, name, between,
        apart, spelled, behindKey⟩
      refine ⟨blanks, member :: found, blank, by simp [member, Member.entry],
        List.forall_mem_cons.mpr ⟨spells, each⟩, ?_⟩
      simp [whole, member, Member.text, Member.value]

theorem exists_members_of_objectBody (grammatical : Grammatical value)
    (read : objectBody (takeMember value) [] text = .ok (after, rest)) :
    ∃ (blanks : Text) (found : List Member), Blank blanks ∧ after = found.map Member.entry ∧
      (∀ member ∈ found, Spells NumberText.Means member.written member.json) ∧
      text = Text.join [','] (found.map Member.text) ++ (blanks ++ '}' :: rest) := by
  obtain ⟨next, met, more⟩ := exists_of_bind_eq_ok read
  obtain ⟨blanks, blank, ⟨last, rfl, whole⟩ | ⟨-, key, name, ahead, spelled, rfl, whole⟩ |
    ⟨first, -⟩⟩ := nextKey_cases met
  · cases more
    exact ⟨blanks, [], blank, rfl, fun _ member => absurd member List.not_mem_nil, whole⟩
  · obtain ⟨⟨state, behind⟩, taken, later⟩ := exists_of_bind_eq_ok more
    obtain ⟨between, lead, written, json, behindKey, leading, spells, rfl, rfl⟩ :=
      exists_of_takeMember grammatical taken
    obtain ⟨trail, found, trailing, rfl, each, rfl⟩ := exists_members_of_members grammatical later
    let member : Member := ⟨⟨lead, written, trail, json, leading, trailing⟩, blanks, key, name,
      between, blank, spelled, behindKey⟩
    refine ⟨[], member :: found, blank_nil, by simp [member, Member.entry],
      List.forall_mem_cons.mpr ⟨spells, each⟩, ?_⟩
    simp [whole, member, Member.text, Member.value, Text.join_cons]
  · cases first

/-! ## Values -/

theorem grammatical_readValue (depth : Nat) : Grammatical (readValue depth) := by
  induction depth using Nat.strongRecOn with
  | ind depth ih =>
    intro text json rest read
    obtain ⟨before, leading, whole⟩ := exists_blanks text
    rcases readValue_cases read with ⟨a, found, rfl⟩ |
      ⟨inner, behind, jsons, rfl, starts, found, rfl⟩ |
      ⟨inner, behind, entries, rfl, starts, found, rfl⟩
    · obtain ⟨written, spelled, same⟩ := exists_spelled_of_readAtom found
      exact ⟨before, written, leading, .atom spelled, same ▸ whole⟩
    · obtain ⟨blanks, places, blank, rfl, each, rfl⟩ :=
        exists_places_of_listBody (ih inner (Nat.lt_succ_self inner)) found
      refine ⟨before, _, leading, .array places each blank, ?_⟩
      rw [whole, starts]
      simp
    · obtain ⟨blanks, members, blank, rfl, each, rfl⟩ :=
        exists_members_of_objectBody (ih inner (Nat.lt_succ_self inner)) found
      refine ⟨before, _, leading, .object members each blank, ?_⟩
      rw [whole, starts]
      simp

theorem stands_of_parse {json : Json} (parsed : parse text = .ok json) :
    Stands NumberText.Means text json := by
  unfold parse readAll at parsed
  cases read : readValue depthLimit text with
  | error fault => simp [read, bind, Except.bind, Except.mapError] at parsed
  | ok result =>
    obtain ⟨found, rest⟩ := result
    obtain ⟨before, written, leading, spells, rfl⟩ := grammatical_readValue depthLimit read
    obtain ⟨after, trailing, whole⟩ := exists_blanks rest
    simp only [read, bind, Except.bind] at parsed
    split at parsed
    next ended =>
      obtain rfl := Except.ok.inj parsed
      rw [ended, List.append_nil] at whole
      exact ⟨⟨before, written, after, found, leading, trailing⟩, by rw [whole]; rfl, rfl, spells⟩
    next => cases parsed

/-- A reader accepts the texts of the grammar and no others, up to a limit of open brackets. -/
def AcceptsGrammar {ε : Type} (means : Meaning) (limit : Nat) (read : Text → Except ε Json) : Prop :=
  ∀ text json, read text = .ok json ↔
    Stands means text json ∧ BuiltOf (fun _ => True) limit json

theorem parse_acceptsGrammar : AcceptsGrammar NumberText.Means depthLimit parse :=
  fun _ _ => ⟨fun parsed => ⟨stands_of_parse parsed, (builtOf_of_parse parsed).mono fun _ _ => trivial⟩,
    fun accepted => parse_of_stands accepted.1 accepted.2⟩

end QueryTemplate.Json
