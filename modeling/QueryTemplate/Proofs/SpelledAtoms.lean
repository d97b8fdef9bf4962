import QueryTemplate.Proofs.Tokens
import QueryTemplate.Proofs.SpelledPieces

/-! Numbers and other values without parts, read from their spellings. -/

set_option autoImplicit false

namespace QueryTemplate.Json

/-! ## Numbers -/

theorem numberEnds_cons {c : Char} {rest : Text} :
    numberEnds (c :: rest) ↔ Text.isDigit c = false ∧ c ≠ '.' ∧ c ≠ 'e' ∧ c ≠ 'E' := by
  simp [numberEnds, and_assoc]

theorem digitAhead_eq_false {rest : Text} (ends : numberEnds rest) : rest.digitAhead = false := by
  cases rest with
  | nil => rfl
  | cons c rest => exact (numberEnds_cons.mp ends).1

variable {whole fraction point power digits rest : Text} {exponent : Option (Bool × Text)}

theorem digitAhead_power (spelled : ExponentPart power exponent) (ends : numberEnds rest) :
    (power ++ rest).digitAhead = false := by
  cases spelled with
  | absent => exact digitAhead_eq_false ends
  | digits lettered => rcases lettered with rfl | rfl <;> rfl

theorem digitAhead_point (spelled : FractionPart point fraction) (later : rest.digitAhead = false) :
    (point ++ rest).digitAhead = false := by
  cases spelled with
  | absent => exact later
  | digits => rfl

theorem exponentPart_signed (sign : Text) {positive : Bool}
    (signed : (sign, positive) ∈ [([], true), (['+'], true), (['-'], false)]) {c : Char}
    (digit : Text.isDigit c) (tail : Text) :
    exponentPart (sign ++ c :: tail) =
      .ok ((positive, (c :: tail).takeWhile Text.isDigit), (c :: tail).dropWhile Text.isDigit) := by
  simp only [List.mem_cons, Prod.mk.injEq, List.not_mem_nil, or_false] at signed
  rcases signed with ⟨rfl, rfl⟩ | ⟨rfl, rfl⟩ | ⟨rfl, rfl⟩
  · have noPlus : c ≠ '+' := by rintro rfl; cases digit
    have noMinus : c ≠ '-' := by rintro rfl; cases digit
    simp [exponentPart, noPlus, noMinus, digit]
  · simp [exponentPart, digit]
  · simp [exponentPart, digit]

theorem exponentPart_spelled {sign : Text} {positive : Bool}
    (signed : (sign, positive) ∈ [([], true), (['+'], true), (['-'], false)])
    (present : digits ≠ []) (all : ∀ d ∈ digits, Text.isDigit d) (ends : rest.digitAhead = false) :
    exponentPart (sign ++ (digits ++ rest)) = .ok ((positive, digits), rest) := by
  have taken := Text.takeWhile_digits all ends
  have left := Text.dropWhile_digits all ends
  obtain ⟨c, tail, rfl⟩ := List.exists_cons_of_ne_nil present
  rw [List.cons_append] at taken left ⊢
  rw [exponentPart_signed sign signed (all c List.mem_cons_self), taken, left]

theorem withExponent_spelled (spelled : ExponentPart power exponent) (ends : numberEnds rest) :
    withExponent { whole, fraction } (power ++ rest) = .ok ({ whole, fraction, exponent }, rest) := by
  cases spelled with
  | absent =>
    cases rest with
    | nil => rfl
    | cons c rest =>
      obtain ⟨_, _, noLower, noUpper⟩ := numberEnds_cons.mp ends
      simp [withExponent, noLower, noUpper]
  | digits lettered signed present all =>
    have found := exponentPart_spelled signed present all (digitAhead_eq_false ends)
    rcases lettered with rfl | rfl
    all_goals
      rw [List.cons_append, List.append_assoc, withExponent, found]
      rfl

theorem withFraction_spelled (behindPoint : FractionPart point fraction)
    (spelled : ExponentPart power exponent) (ends : numberEnds rest) :
    withFraction whole (point ++ (power ++ rest)) = .ok ({ whole, fraction, exponent }, rest) := by
  have later := digitAhead_power spelled ends
  cases behindPoint with
  | absent =>
    have noPoint : ∀ tail, power ++ rest ≠ '.' :: tail := by
      intro tail same
      cases spelled with
      | absent =>
        obtain rfl : rest = '.' :: tail := same
        cases ends
      | digits lettered => rcases lettered with rfl | rfl <;> cases same
    rw [List.nil_append, withFraction.eq_2 _ _ noPoint]
    exact withExponent_spelled spelled ends
  | digits present all =>
    obtain ⟨c, tail, rfl⟩ := List.exists_cons_of_ne_nil present
    rw [List.cons_append, withFraction, Text.takeWhile_digits all later,
      Text.dropWhile_digits all later]
    exact withExponent_spelled spelled ends

/-- A zero has no further digit behind it. -/
theorem numberText_zero (later : rest.digitAhead = false) :
    numberText ('0' :: rest) = withFraction ['0'] rest := by
  cases rest with
  | nil => rfl
  | cons c rest =>
    have plain : Text.isDigit c = false := later
    simp only [numberText, plain, Bool.false_eq_true, if_false]

theorem numberText_digits {c : Char} (nonzero : c ≠ '0')
    (all : ∀ d ∈ c :: digits, Text.isDigit d) (later : rest.digitAhead = false) :
    numberText (c :: (digits ++ rest)) = withFraction (c :: digits) rest := by
  obtain ⟨first, others⟩ := List.forall_mem_cons.mp all
  unfold numberText
  split
  next nothing => cases nothing
  next zero => exact absurd (List.cons.inj zero).1 nonzero
  next same =>
    cases same
    rw [if_pos first, Text.takeWhile_digits others later, Text.dropWhile_digits others later]

theorem numberText_spelled {number : NumberText} (before : WholePart number.whole)
    (behindPoint : FractionPart point number.fraction)
    (spelled : ExponentPart power number.exponent) (ends : numberEnds rest) :
    numberText (number.whole ++ (point ++ (power ++ rest))) = .ok (number, rest) := by
  obtain ⟨whole, fraction, exponent⟩ := number
  have later := digitAhead_point behindPoint (digitAhead_power spelled ends)
  have found : withFraction whole (point ++ (power ++ rest)) = .ok (⟨whole, fraction, exponent⟩, rest) :=
    withFraction_spelled behindPoint spelled ends
  cases before with
  | zero => exact (numberText_zero later).trans found
  | digits nonzero all => exact (numberText_digits nonzero all later).trans found

variable {written : Text} {negative : Bool} {number : NumberText}

theorem WholePart.exists_cons (before : WholePart whole) :
    ∃ c tail, whole = c :: tail ∧ Text.isDigit c := by
  cases before with
  | zero => exact ⟨'0', [], rfl, rfl⟩
  | digits _ all => exact ⟨_, _, rfl, all _ List.mem_cons_self⟩

theorem SpelledNumber.exists_cons (spelled : SpelledNumber written negative number) :
    ∃ c tail, written = c :: tail ∧ (c = '-' ∨ Text.isDigit c) := by
  cases spelled with
  | mk _ before _ _ =>
    obtain ⟨c, tail, same, digit⟩ := before.exists_cons
    cases negative with
    | true => exact ⟨'-', _, rfl, .inl rfl⟩
    | false => exact ⟨c, _, by rw [same]; rfl, .inr digit⟩

/-- The sign is told from the digits, and the parts of the numeral are found. -/
theorem numeral_spelled (spelled : SpelledNumber written negative number) (ends : numberEnds rest) :
    numeral (written ++ rest) = number.read negative rest := by
  cases spelled with
  | mk _ before behindPoint power =>
    have found := numberText_spelled before behindPoint power ends
    rw [List.append_assoc, List.append_assoc, List.append_assoc]
    cases negative with
    | true =>
      simp only [signPart, List.cons_append, List.nil_append, numeral, found, bind, Except.bind]
    | false =>
      obtain ⟨c, tail, same, digit⟩ := before.exists_cons
      rw [same] at found ⊢
      have noMinus : c ≠ '-' := by rintro rfl; cases digit
      simp only [signPart, List.cons_append, List.nil_append] at found ⊢
      rw [numeral.eq_2]
      · rw [found]
        rfl
      · rintro _ ⟨⟩
        exact noMinus rfl

/-! ## Values without parts -/

theorem opensItem_number (spelled : SpelledNumber written negative number) : opensItem written := by
  obtain ⟨c, tail, rfl, rfl | digit⟩ := spelled.exists_cons
  · rfl
  · have other : ∀ special, Text.isDigit special = false → (c == special) = false := by
      intro special plain
      simp only [beq_eq_false_iff_ne]
      rintro rfl
      rw [plain] at digit
      cases digit
    have solid : isBlank c = false := by
      simp [isBlank, other ' ' rfl, other '\n' rfl, other '\t' rfl, other '\r' rfl]
    simp [opensItem, solid, other ',' rfl, other ']' rfl]

theorem readAtom_number (spelled : SpelledNumber written negative number) (rest : Text) :
    readAtom (written ++ rest) =
      (numeral (written ++ rest)).map fun (n, rest) => (.number n, rest) := by
  obtain ⟨c, tail, rfl, starts⟩ := spelled.exists_cons
  rw [List.cons_append, readAtom.eq_def]
  split
  next nothing => cases nothing
  next word => cases word; simp [Text.isDigit] at starts
  next word => cases word; simp [Text.isDigit] at starts
  next word => cases word; simp [Text.isDigit] at starts
  next quote => cases quote; simp [Text.isDigit] at starts
  next other =>
    cases other
    rw [if_pos starts]

/-- What the reader takes a numeral for. -/
def NumberText.Means : Meaning := fun negative number n => number.read negative [] = .ok (n, [])

/-- What stands behind a numeral has no part in what it means. -/
theorem NumberText.read_eq_ok_iff {n : Numeral} {behind : Text} :
    number.read negative rest = .ok (n, behind) ↔ NumberText.Means negative number n ∧ behind = rest := by
  unfold Means NumberText.read
  cases number.integer? negative with
  | some m => simp [eq_comm]
  | none =>
    dsimp only
    split
    next =>
      split
      · simp [fail]
      · simp [eq_comm]
    next =>
      split
      · simp [fail]
      · simp [eq_comm]

theorem SpelledAtom.reads {a : Atom} (spelled : SpelledAtom NumberText.Means written a) :
    Reads readAtom written a := by
  cases spelled with
  | null => exact ⟨rfl, fun _ _ => rfl⟩
  | yes => exact ⟨rfl, fun _ _ => rfl⟩
  | no => exact ⟨rfl, fun _ _ => rfl⟩
  | number spelled meant =>
    refine ⟨opensItem_number spelled, fun rest ends => ?_⟩
    rw [readAtom_number spelled, numeral_spelled spelled ends,
      NumberText.read_eq_ok_iff.mpr ⟨meant, rfl⟩]
    rfl
  | string spelled =>
    refine ⟨rfl, fun rest _ => ?_⟩
    rw [List.cons_append, List.append_assoc, List.singleton_append, readAtom,
      stringBody_quoted spelled]
    rfl

end QueryTemplate.Json
