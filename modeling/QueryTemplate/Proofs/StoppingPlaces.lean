import QueryTemplate.Definition.Reader
import QueryTemplate.Proofs.Overflow

/-! Where readers stop.

Whether it succeeds or meets a fault, a reader of JSON texts stops at an end of the text that it was
given, so line and column of an error are those of some place in the text.
-/

set_option autoImplicit false

namespace QueryTemplate

namespace Json

/-- What is left of a text is an end of it, after what was found as well as at a fault. -/
def StopsIn {β : Type} (text : Text) (left : β → Text) : Except Fault β → Prop
  | .ok found => left found <:+ text
  | .error fault => fault.rest <:+ text

def Reader.Stops {α : Type} (reader : Reader α) : Prop := ∀ text, StopsIn text Prod.snd (reader text)

section

variable {α β γ : Type} {text rest : Text} {left : β → Text} {leftover : γ → Text} {cause atEnd : Cause}
  {seen : Nat} {result : Except Fault β}

@[simp] theorem stopsIn_ok {found : β} : StopsIn text left (.ok found) ↔ left found <:+ text := Iff.rfl

@[simp] theorem stopsIn_fail : StopsIn text left (fail cause rest seen) ↔ rest <:+ text := Iff.rfl

@[simp] theorem stopsIn_failAhead : StopsIn text left (failAhead cause rest) ↔ rest <:+ text := Iff.rfl

@[simp] theorem stopsIn_failAheadOrEnd :
    StopsIn text left (failAheadOrEnd cause atEnd rest) ↔ rest <:+ text := by
  cases rest with
  | nil => exact Iff.rfl
  | cons c rest => exact Iff.rfl

namespace StopsIn

theorem of_suffix (stops : StopsIn rest left result) (suffix : rest <:+ text) :
    StopsIn text left result := by
  cases result with
  | ok found => exact List.IsSuffix.trans stops suffix
  | error fault => exact List.IsSuffix.trans stops suffix

/-- Reading on from where a reader stopped. -/
theorem bind {next : β → Except Fault γ} (stops : StopsIn text left result)
    (onwards : ∀ found, StopsIn (left found) leftover (next found)) :
    StopsIn text leftover (result.bind next) := by
  cases result with
  | ok found => exact (onwards found).of_suffix stops
  | error fault => exact stops

theorem map {f : β → γ} (stops : StopsIn text left result) (same : ∀ found, leftover (f found) = left found) :
    StopsIn text leftover (result.map f) := by
  cases result with
  | ok found =>
    show leftover (f found) <:+ text
    rw [same]
    exact stops
  | error fault => exact stops

end StopsIn

end

theorem skipBlank_suffix (text : Text) : skipBlank text <:+ text := List.dropWhile_suffix _

theorem suffix_of_skipBlank {text rest : Text} (same : skipBlank text = rest) : rest <:+ text :=
  same ▸ skipBlank_suffix text

theorem suffix_of_skipBlank_cons {text rest : Text} {c : Char} (same : skipBlank text = c :: rest) :
    rest <:+ text :=
  (List.suffix_cons c rest).trans (suffix_of_skipBlank same)

/-! ## Words and strings -/

theorem word_stops (letters text : Text) : StopsIn text id (word letters text) := by
  induction letters generalizing text with
  | nil => exact List.suffix_rfl
  | cons letter letters ih =>
    cases text with
    | nil => exact List.suffix_rfl
    | cons c rest =>
      rw [word]
      split
      · exact (ih rest).of_suffix (List.suffix_cons c rest)
      · exact List.suffix_rfl

theorem hexQuad_stops (text : Text) : StopsIn text Prod.snd (hexQuad text) := by
  unfold hexQuad
  split
  next a b c d rest =>
    split
    · exact List.suffix_append [a, b, c, d] rest
    · exact List.suffix_rfl
  next =>
    split
    · exact List.nil_suffix
    · exact List.suffix_rfl

theorem trailingUnit_stops (text : Text) : StopsIn text Prod.snd (trailingUnit text) := by
  unfold trailingUnit
  split
  next => exact List.suffix_rfl
  next => exact List.nil_suffix
  next rest =>
    refine ((hexQuad_stops rest).bind ?_).of_suffix (List.suffix_append ['\\', 'u'] rest)
    rintro ⟨unit, rest⟩
    dsimp only
    split
    · exact List.suffix_rfl
    · exact List.suffix_rfl
  next rest _ _ => exact List.suffix_cons '\\' rest
  next => exact List.suffix_rfl

theorem escaped_stops (text : Text) : StopsIn text Prod.snd (escaped text) := by
  unfold escaped
  split
  -- Of the escapes, only a code unit is more than one character.
  case h_10 rest =>
    refine ((hexQuad_stops rest).bind ?_).of_suffix (List.suffix_cons 'u' rest)
    rintro ⟨unit, rest⟩
    dsimp only
    split
    · exact List.suffix_rfl
    · split
      · exact (trailingUnit_stops rest).bind fun _ => List.suffix_rfl
      · exact List.suffix_rfl
  all_goals simp

theorem stringBody_stops (text : Text) : StopsIn text Prod.snd (stringBody text) := by
  fun_induction stringBody text with
  | case1 => exact List.suffix_rfl
  | case2 rest => exact List.suffix_cons '"' rest
  | case3 rest fault failed =>
    -- The fault of an escape is the fault of the string.
    have stops := escaped_stops rest
    rw [failed] at stops
    exact stops.of_suffix (List.suffix_cons '\\' rest)
  | case4 rest c after read shorter ih =>
    have stops := escaped_stops rest
    rw [read] at stops
    exact .of_suffix (.map ih fun _ => rfl) (stops.of_suffix (List.suffix_cons '\\' rest))
  | case5 c rest => exact List.suffix_rfl
  | case6 c rest _ _ _ ih => exact .of_suffix (.map ih fun _ => rfl) (List.suffix_cons c rest)

/-! ## Numbers -/

def NumberText.exponentDigits (number : NumberText) : Text := (number.exponent.map Prod.snd).getD []

/-- The digits of the exponent stand right before what follows the number. -/
def NumberText.ending (found : NumberText × Text) : Text := found.1.exponentDigits ++ found.2

theorem exponentPart_stops (text : Text) :
    StopsIn text (fun found => found.1.2 ++ found.2) (exponentPart text) := by
  unfold exponentPart
  split
  rename_i positive digits unsigned
  have suffix : digits <:+ text := by
    split at unsigned
    · cases unsigned
      exact List.suffix_cons '+' _
    · cases unsigned
      exact List.suffix_cons '-' _
    · cases unsigned
      exact List.suffix_rfl
  split
  next => exact suffix
  next =>
    split
    · rw [stopsIn_ok, List.takeWhile_append_dropWhile]
      exact suffix
    · exact suffix

theorem withExponent_stops (number : NumberText) (plain : number.exponent = none) (text : Text) :
    StopsIn text NumberText.ending (withExponent number text) := by
  have none : number.exponentDigits = [] := by simp [NumberText.exponentDigits, plain]
  unfold withExponent
  split
  next rest =>
    exact .of_suffix (.bind (exponentPart_stops rest) fun _ => List.suffix_rfl)
      (List.suffix_cons 'e' rest)
  next rest =>
    exact .of_suffix (.bind (exponentPart_stops rest) fun _ => List.suffix_rfl)
      (List.suffix_cons 'E' rest)
  next =>
    rw [stopsIn_ok, NumberText.ending, none]
    exact List.suffix_rfl

theorem withFraction_stops (whole text : Text) :
    StopsIn text NumberText.ending (withFraction whole text) := by
  unfold withFraction
  split
  next rest =>
    split
    · simp
    · have behind : rest.dropWhile Text.isDigit <:+ '.' :: rest :=
        (List.dropWhile_suffix _).trans (List.suffix_cons '.' rest)
      exact (withExponent_stops _ rfl _).of_suffix behind
  next => exact withExponent_stops _ rfl text

theorem numberText_stops (text : Text) : StopsIn text NumberText.ending (numberText text) := by
  unfold numberText
  split
  next => exact List.suffix_rfl
  next rest =>
    split
    next c tail =>
      split
      · exact List.suffix_cons '0' _
      · exact (withFraction_stops _ _).of_suffix (List.suffix_cons '0' _)
    next => exact (withFraction_stops _ _).of_suffix (List.suffix_cons '0' _)
  next c rest _ =>
    split
    · have behind : rest.dropWhile Text.isDigit <:+ c :: rest :=
        (List.dropWhile_suffix _).trans (List.suffix_cons c rest)
      exact (withFraction_stops _ _).of_suffix behind
    · exact List.suffix_rfl

theorem suffix_of_passesLimit? {value : Nat} {digits left : Text}
    (passed : passesLimit? value digits = some left) : left <:+ digits := by
  induction digits generalizing value with
  | nil => cases passed
  | cons c rest ih =>
    rw [passesLimit?] at passed
    split at passed
    · cases passed
      exact List.suffix_cons c _
    · exact (ih passed).trans (List.suffix_cons c rest)

/-- A number that is too large is refused within the digits of its exponent, or behind them. -/
theorem NumberText.read_stops (negative : Bool) (number : NumberText) (rest : Text) :
    StopsIn (ending (number, rest)) Prod.snd (number.read negative rest) := by
  have behind : rest <:+ ending (number, rest) := List.suffix_append _ rest
  unfold read
  split
  · exact behind
  · dsimp only
    split
    next positive left passed =>
      split
      · -- The limit is passed among the digits of the exponent, so some of them are left over.
        obtain ⟨⟨sign, digits⟩, written, found⟩ := Option.bind_eq_some_iff.mp passed
        obtain ⟨stop, within, same⟩ := Option.map_eq_some_iff.mp found
        cases same
        obtain ⟨before, split⟩ : left <:+ digits := suffix_of_passesLimit? within
        exact ⟨before, by simp [ending, exponentDigits, written, ← split]⟩
      · exact behind
    next =>
      split
      · exact behind
      · exact behind

theorem numeral_stops (text : Text) : StopsIn text Prod.snd (numeral text) := by
  unfold numeral
  split
  next rest =>
    exact .of_suffix (.bind (numberText_stops rest) fun _ => NumberText.read_stops _ _ _)
      (List.suffix_cons '-' rest)
  next => exact .bind (numberText_stops text) fun _ => NumberText.read_stops _ _ _

/-! ## Lists and objects -/

def NextItem.rest : NextItem → Text
  | done rest => rest
  | item rest => rest

def NextKey.rest : NextKey → Text
  | done rest => rest
  | key _ rest => rest

theorem nextItem_stops (first : Bool) (text : Text) :
    StopsIn text NextItem.rest (nextItem first text) := by
  unfold nextItem
  split
  next rest same => exact suffix_of_skipBlank_cons same
  next rest same =>
    split
    · exact suffix_of_skipBlank same
    · -- Behind a comma the blanks are passed over, to see whether an item follows.
      have behind := suffix_of_skipBlank_cons same
      split
      next inner => exact (suffix_of_skipBlank inner).trans behind
      next => exact List.nil_suffix
      next => exact (skipBlank_suffix rest).trans behind
  next => exact List.nil_suffix
  next =>
    split
    · exact skipBlank_suffix text
    · exact skipBlank_suffix text

theorem keyBody_stops (text : Text) : StopsIn text NextKey.rest (keyBody text) :=
  .map (stringBody_stops text) fun _ => rfl

theorem nextKey_stops (first : Bool) (text : Text) :
    StopsIn text NextKey.rest (nextKey first text) := by
  unfold nextKey
  split
  next rest same => exact suffix_of_skipBlank_cons same
  next rest same =>
    split
    · exact (keyBody_stops rest).of_suffix (suffix_of_skipBlank_cons same)
    · exact suffix_of_skipBlank same
  next rest same =>
    split
    · exact suffix_of_skipBlank same
    · have behind := suffix_of_skipBlank_cons same
      split
      next tail inner =>
        exact (keyBody_stops tail).of_suffix ((suffix_of_skipBlank_cons inner).trans behind)
      next inner => exact (suffix_of_skipBlank inner).trans behind
      next => exact stopsIn_failAheadOrEnd.mpr ((skipBlank_suffix rest).trans behind)
  next => exact List.nil_suffix
  next => exact skipBlank_suffix text

theorem colon_stops (text : Text) : StopsIn text id (colon text) := by
  unfold colon
  split
  next rest same => exact suffix_of_skipBlank_cons same
  next => exact stopsIn_failAheadOrEnd.mpr (skipBlank_suffix text)

theorem listEnd_stops (text : Text) : StopsIn text id (listEnd text) := by
  unfold listEnd
  split
  next rest same => exact suffix_of_skipBlank_cons same
  next rest same =>
    have behind := suffix_of_skipBlank_cons same
    split
    next inner => exact (suffix_of_skipBlank inner).trans behind
    next => exact (skipBlank_suffix rest).trans behind
  next => exact stopsIn_failAheadOrEnd.mpr (skipBlank_suffix text)

section

variable {α σ : Type}

theorem items_stops {item : Reader α} (each : item.Stops) (bound : Nat) (first : Bool) :
    Reader.Stops (items item bound first) := by
  -- The bound is there for the recursion alone: at zero nothing is read.
  induction bound generalizing first with
  | zero => exact fun text => List.suffix_rfl
  | succ bound ih =>
    intro text
    refine .bind (nextItem_stops first text) ?_
    rintro (rest | rest)
    · exact List.suffix_rfl
    · refine .bind (each rest) ?_
      rintro ⟨head, rest⟩
      exact .bind (ih false rest) fun _ => List.suffix_rfl

theorem listBody_stops {item : Reader α} (each : item.Stops) : Reader.Stops (listBody item) :=
  fun text => items_stops each (text.length + 1) true text

theorem members_stops {take : σ → Text → Reader σ} (each : ∀ state name, (take state name).Stops)
    (bound : Nat) (first : Bool) (state : σ) : Reader.Stops (members take bound first state) := by
  induction bound generalizing first state with
  | zero => exact fun text => List.suffix_rfl
  | succ bound ih =>
    intro text
    refine .bind (nextKey_stops first text) ?_
    rintro (rest | ⟨name, rest⟩)
    · exact List.suffix_rfl
    · refine .bind (each state name rest) ?_
      rintro ⟨state, rest⟩
      exact ih false state rest

theorem objectBody_stops {take : σ → Text → Reader σ} (each : ∀ state name, (take state name).Stops)
    (state : σ) : Reader.Stops (objectBody take state) :=
  fun text => members_stops each (text.length + 1) true state text

/-! ## Values -/

theorem readAtom_stops : readAtom.Stops := by
  intro text
  unfold readAtom
  split
  next => exact List.nil_suffix
  next rest => exact .of_suffix (.map (word_stops _ rest) fun _ => rfl) (List.suffix_cons 'n' rest)
  next rest => exact .of_suffix (.map (word_stops _ rest) fun _ => rfl) (List.suffix_cons 't' rest)
  next rest => exact .of_suffix (.map (word_stops _ rest) fun _ => rfl) (List.suffix_cons 'f' rest)
  next rest => exact .of_suffix (.map (stringBody_stops rest) fun _ => rfl) (List.suffix_cons '"' rest)
  next c rest _ _ _ _ =>
    split
    · exact .map (numeral_stops (c :: rest)) fun _ => rfl
    · exact List.suffix_rfl

theorem readValue_stops (depth : Nat) : Reader.Stops (readValue depth) := by
  -- What a list or an object holds is read with one level less.
  induction depth using Nat.strongRecOn with
  | ind depth ih =>
    intro text
    rw [readValue.eq_def]
    split
    next rest same =>
      split
      next => exact suffix_of_skipBlank same
      next inner =>
        exact .of_suffix (.map (listBody_stops (ih inner (Nat.lt_succ_self inner)) rest) fun _ => rfl)
          (suffix_of_skipBlank_cons same)
    next rest same =>
      split
      next => exact suffix_of_skipBlank same
      next inner =>
        refine .of_suffix (.map (objectBody_stops ?_ [] rest) fun _ => rfl)
          (suffix_of_skipBlank_cons same)
        intro members name text
        refine .bind (colon_stops text) fun rest => ?_
        exact .bind (ih inner (Nat.lt_succ_self inner) rest) fun _ => List.suffix_rfl
    next => exact .of_suffix (.map (readAtom_stops _) fun _ => rfl) (skipBlank_suffix text)

theorem unexpected_stops {β : Type} (left : β → Text) (expected : String) (text : Text) :
    StopsIn text left (unexpected expected text) := by
  unfold unexpected
  split
  next => exact List.suffix_rfl
  next => exact List.suffix_rfl
  next => exact .bind (readAtom_stops text) fun _ => List.suffix_rfl

end

/-! ## Values that are skipped -/

theorem skipEscape_stops (text : Text) : StopsIn text id (skipEscape text) := by
  unfold skipEscape
  split
  next => exact List.suffix_rfl
  next rest => exact .of_suffix (.map (hexQuad_stops rest) fun _ => rfl) (List.suffix_cons 'u' rest)
  next c rest _ =>
    split
    · exact List.suffix_cons c rest
    · exact List.suffix_rfl

theorem skipString_stops (text : Text) : StopsIn text id (skipString text) := by
  fun_induction skipString text with
  | case1 => exact List.suffix_rfl
  | case2 rest => exact List.suffix_cons '"' rest
  | case3 rest fault failed =>
    have stops := skipEscape_stops rest
    rw [failed] at stops
    exact stops.of_suffix (List.suffix_cons '\\' rest)
  | case4 rest after read shorter ih =>
    have stops := skipEscape_stops rest
    rw [read] at stops
    exact ih.of_suffix (stops.of_suffix (List.suffix_cons '\\' rest))
  | case5 c rest => exact List.suffix_rfl
  | case6 c rest _ _ _ ih => exact ih.of_suffix (List.suffix_cons c rest)

theorem skipExponent_stops (text : Text) : StopsIn text id (skipExponent text) := by
  unfold skipExponent
  split
  next c rest =>
    split
    · dsimp only
      split
      · split
        next => exact (List.suffix_cons '+' _).trans (List.suffix_cons c _)
        next => exact (List.suffix_cons '-' _).trans (List.suffix_cons c _)
        next => exact List.suffix_cons c rest
      · refine (List.dropWhile_suffix _).trans ?_
        split
        next => exact (List.suffix_cons '+' _).trans (List.suffix_cons c _)
        next => exact (List.suffix_cons '-' _).trans (List.suffix_cons c _)
        next => exact List.suffix_cons c rest
    · exact List.suffix_rfl
  next => exact List.suffix_rfl

theorem skipFraction_stops (text : Text) : StopsIn text id (skipFraction text) := by
  unfold skipFraction
  split
  next rest =>
    split
    · exact List.suffix_cons '.' rest
    · exact (skipExponent_stops _).of_suffix
        ((List.dropWhile_suffix _).trans (List.suffix_cons '.' rest))
  next => exact skipExponent_stops text

theorem skipNumber_stops (text : Text) : StopsIn text id (skipNumber text) := by
  unfold skipNumber
  split
  next rest =>
    split
    · exact (skipFraction_stops rest).of_suffix (List.suffix_cons '0' rest)
    · exact List.suffix_cons '0' rest
  next =>
    split
    · exact List.suffix_rfl
    · exact (skipFraction_stops _).of_suffix (List.dropWhile_suffix _)

section

variable {skip : Text → Except Fault Text} (each : ∀ text, StopsIn text id (skip text))

include each

theorem skipItems_stops (bound : Nat) (text : Text) : StopsIn text id (skipItems skip bound text) := by
  induction bound generalizing text with
  | zero => exact List.suffix_rfl
  | succ bound ih =>
    refine .bind (each text) fun rest => ?_
    dsimp only [id]
    split
    next tail same => exact (ih tail).of_suffix (suffix_of_skipBlank_cons same)
    next tail same => exact suffix_of_skipBlank_cons same
    next => exact stopsIn_failAheadOrEnd.mpr (skipBlank_suffix rest)

theorem skipMembers_stops (bound : Nat) (text : Text) :
    StopsIn text id (skipMembers skip bound text) := by
  induction bound generalizing text with
  | zero => exact List.suffix_rfl
  | succ bound ih =>
    unfold skipMembers
    split
    next rest same =>
      refine .of_suffix (.bind (skipString_stops rest) fun rest => ?_) (suffix_of_skipBlank_cons same)
      refine .bind (colon_stops rest) fun rest => ?_
      refine .bind (each rest) fun rest => ?_
      dsimp only [id]
      split
      next tail same => exact (ih tail).of_suffix (suffix_of_skipBlank_cons same)
      next tail same => exact suffix_of_skipBlank_cons same
      next => exact stopsIn_failAheadOrEnd.mpr (skipBlank_suffix rest)
    next => exact stopsIn_failAheadOrEnd.mpr (skipBlank_suffix text)

end

theorem skipNested_stops (depth : Nat) (text : Text) : StopsIn text id (skipNested depth text) := by
  induction depth generalizing text with
  | zero => exact List.suffix_rfl
  | succ depth ih =>
    unfold skipNested
    split
    next => exact List.nil_suffix
    next rest same => exact (word_stops _ rest).of_suffix (suffix_of_skipBlank_cons same)
    next rest same => exact (word_stops _ rest).of_suffix (suffix_of_skipBlank_cons same)
    next rest same => exact (word_stops _ rest).of_suffix (suffix_of_skipBlank_cons same)
    next rest same => exact (skipString_stops rest).of_suffix (suffix_of_skipBlank_cons same)
    next rest same => exact (skipNumber_stops rest).of_suffix (suffix_of_skipBlank_cons same)
    next rest same =>
      have behind := suffix_of_skipBlank_cons same
      split
      next => exact List.nil_suffix
      next tail inner => exact (suffix_of_skipBlank_cons inner).trans behind
      next => exact (skipItems_stops ih _ _).of_suffix ((skipBlank_suffix rest).trans behind)
    next rest same =>
      have behind := suffix_of_skipBlank_cons same
      split
      next => exact List.nil_suffix
      next tail inner => exact (suffix_of_skipBlank_cons inner).trans behind
      next => exact (skipMembers_stops ih _ _).of_suffix ((skipBlank_suffix rest).trans behind)
    next c rest same =>
      have whole := suffix_of_skipBlank same
      split
      · exact (skipNumber_stops _).of_suffix whole
      · exact whole

theorem skipValue_stops (text : Text) : StopsIn text id (skipValue text) := skipNested_stops _ text

end Json

open Json

/-! ## Declarations -/

theorem readString_stops (expected : String) : Reader.Stops (readString expected) := by
  intro text
  unfold readString
  split
  next rest same => exact (stringBody_stops rest).of_suffix (suffix_of_skipBlank_cons same)
  next => exact (unexpected_stops _ _ _).of_suffix (skipBlank_suffix text)

theorem readList_stops {α : Type} {item : Reader α} (each : item.Stops) :
    Reader.Stops (readList item) := by
  intro text
  unfold readList
  split
  next rest same => exact (listBody_stops each rest).of_suffix (suffix_of_skipBlank_cons same)
  next => exact (unexpected_stops _ _ _).of_suffix (skipBlank_suffix text)

theorem readKindName_stops : readKindName.Stops := by
  intro text
  refine .bind (readString_stops _ text) ?_
  rintro ⟨name, rest⟩
  dsimp only
  split
  · exact List.suffix_rfl
  · exact List.suffix_rfl

theorem readUnit_stops (text : Text) : StopsIn text id (readUnit text) := by
  unfold readUnit
  split
  next rest same => exact (word_stops _ rest).of_suffix (suffix_of_skipBlank_cons same)
  next => exact (unexpected_stops _ _ _).of_suffix (skipBlank_suffix text)

theorem readKindKey_stops : readKindKey.Stops := by
  intro text
  unfold readKindKey
  split
  next rest => exact readKindName_stops _
  next => exact List.suffix_rfl
  next => exact stopsIn_failAheadOrEnd.mpr List.suffix_rfl

theorem readKind_stops : readKind.Stops := by
  intro text
  unfold readKind
  split
  next same => exact (readKindName_stops _).of_suffix (suffix_of_skipBlank same)
  next rest same =>
    have behind := (skipBlank_suffix rest).trans (suffix_of_skipBlank_cons same)
    refine .of_suffix (.bind (readKindKey_stops _) ?_) behind
    rintro ⟨kind, rest⟩
    refine .bind (colon_stops rest) fun rest => ?_
    refine .bind (readUnit_stops rest) fun rest => ?_
    dsimp only [id]
    split
    next same => exact suffix_of_skipBlank_cons same
    next => exact List.nil_suffix
    next => exact skipBlank_suffix rest
  next => exact stopsIn_failAheadOrEnd.mpr (skipBlank_suffix text)

theorem duplicate_stops {β : Type} (left : β → Text) (name : String) (text : Text) :
    StopsIn text left (duplicate name text) := by
  unfold duplicate
  split
  next rest same => exact suffix_of_skipBlank_cons same
  next => exact skipBlank_suffix text

theorem readField_stops {α : Type} {field : Reader α} (stops : field.Stops) (name : String)
    (before : Option α) : Reader.Stops (readField name before field) := by
  intro text
  unfold readField
  split
  next => exact duplicate_stops _ name text
  next => exact .bind (colon_stops text) fun rest => stops rest

theorem skipField_stops (text : Text) : StopsIn text id (skipField text) :=
  .bind (colon_stops text) fun rest => skipValue_stops rest

namespace MethodDefinition

theorem take_stops (fields : Fields) (name : Text) : (fields.take name).Stops := by
  intro text
  unfold Fields.take
  split
  next => exact .bind (readField_stops (readString_stops _) _ _ text) fun _ => List.suffix_rfl
  next => exact .bind (readField_stops (readString_stops _) _ _ text) fun _ => List.suffix_rfl
  next =>
    exact .bind (readField_stops (readList_stops readKind_stops) _ _ text) fun _ => List.suffix_rfl
  next => exact .bind (skipField_stops text) fun _ => List.suffix_rfl

theorem readInOrder_stops : readInOrder.Stops := by
  intro text
  refine .bind (nextItem_stops true text) ?_
  rintro (rest | rest)
  · exact List.suffix_rfl
  · refine .bind (readString_stops _ rest) ?_
    rintro ⟨name, rest⟩
    refine .bind (nextItem_stops false rest) ?_
    rintro (rest | rest)
    · exact List.suffix_rfl
    · refine .bind (readString_stops _ rest) ?_
      rintro ⟨query, rest⟩
      refine .bind (nextItem_stops false rest) ?_
      rintro (rest | rest)
      · exact List.suffix_rfl
      · refine .bind (readList_stops readKind_stops rest) ?_
        rintro ⟨params, rest⟩
        exact .bind (listEnd_stops rest) fun _ => List.suffix_rfl

theorem read_stops : read.Stops := by
  intro text
  unfold read
  split
  next rest same => exact (readInOrder_stops rest).of_suffix (suffix_of_skipBlank_cons same)
  next rest same =>
    refine .of_suffix (.bind (objectBody_stops take_stops _ rest) ?_) (suffix_of_skipBlank_cons same)
    rintro ⟨fields, rest⟩
    dsimp only
    split
    next => exact List.suffix_rfl
    next => exact List.suffix_rfl
    next => exact List.suffix_rfl
  next => exact (unexpected_stops _ _ _).of_suffix (skipBlank_suffix text)

end MethodDefinition

namespace RepositoryDefinition

theorem take_stops (fields : Fields) (name : Text) : (fields.take name).Stops := by
  intro text
  unfold Fields.take
  split
  next =>
    exact .bind (readField_stops (readList_stops MethodDefinition.read_stops) _ _ text)
      fun _ => List.suffix_rfl
  next => exact .bind (skipField_stops text) fun _ => List.suffix_rfl

theorem read_stops : read.Stops := by
  intro text
  unfold read
  split
  next rest same =>
    refine .of_suffix (.bind (nextItem_stops true rest) ?_) (suffix_of_skipBlank_cons same)
    rintro (rest | rest)
    · exact List.suffix_rfl
    · refine .bind (readList_stops MethodDefinition.read_stops rest) ?_
      rintro ⟨methods, rest⟩
      exact .bind (listEnd_stops rest) fun _ => List.suffix_rfl
  next rest same =>
    exact .of_suffix (.bind (objectBody_stops take_stops _ rest) fun _ => List.suffix_rfl)
      (suffix_of_skipBlank_cons same)
  next => exact (unexpected_stops _ _ _).of_suffix (skipBlank_suffix text)

end RepositoryDefinition

/-! ## Places of errors -/

namespace Json

/-- An error is placed some bytes into the text. Its column counts from zero. -/
def Error.PlacedIn (error : Error) (text : Text) : Prop :=
  ∃ bytes, error.line = (Position.start.walkBytes bytes text).line ∧
    error.column = (Position.start.walkBytes bytes text).column - 1

theorem Fault.placedIn {fault : Fault} {text : Text} (inside : fault.rest <:+ text) :
    (fault.within text).PlacedIn text := by
  obtain ⟨before, rfl⟩ := inside
  refine ⟨Text.byteLength before + fault.seen, ?_⟩
  simp [Fault.within, Position.walkBytes_append, Position.after]

theorem Reader.Stops.placedIn {α : Type} {reader : Reader α} (stops : reader.Stops) {text : Text}
    {error : Error} (failed : readAll reader text = .error error) : error.PlacedIn text := by
  have inside := stops text
  unfold readAll at failed
  cases read : reader text with
  | error fault =>
    rw [read] at inside
    simp only [read, bind, Except.bind, Except.mapError, Except.error.injEq] at failed
    exact failed ▸ Fault.placedIn inside
  | ok found =>
    obtain ⟨result, rest⟩ := found
    rw [read] at inside
    simp only [read, bind, Except.bind] at failed
    -- Something but blanks is left, and the fault is met there.
    split at failed
    next => cases failed
    next =>
      cases failed
      exact Fault.placedIn ((skipBlank_suffix rest).trans inside)

/-- The errors of the readers of whole texts. -/
inductive Complaint (text : Text) (error : Error) : Prop where
  | value (failed : parse text = .error error)
  | kind (failed : Kind.ofJsonText text = .error error)
  | method (failed : MethodDefinition.ofJsonText text = .error error)
  | repository (failed : RepositoryDefinition.ofJsonText text = .error error)

/-- No error is placed outside the text that was read. -/
theorem Complaint.placedIn {text : Text} {error : Error} (complaint : Complaint text error) :
    error.PlacedIn text := by
  cases complaint with
  | value failed => exact (readValue_stops depthLimit).placedIn failed
  | kind failed => exact readKind_stops.placedIn failed
  | method failed => exact MethodDefinition.read_stops.placedIn failed
  | repository failed => exact RepositoryDefinition.read_stops.placedIn failed

end Json

end QueryTemplate
