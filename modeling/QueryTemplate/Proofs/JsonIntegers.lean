import QueryTemplate.Proofs.Filling
import QueryTemplate.Proofs.Fragment
import QueryTemplate.Proofs.JsonArrays
import QueryTemplate.Proofs.QueryCommands
import QueryTemplate.Proofs.WideIntegers
import QueryTemplate.Typed.Embedding

/-! Integers on their way through JSON.

An integer that 64 bits hold is read from its digits as it is, alone or in arrays, and leaves the
same digits in a query. Any other integer becomes a floating-point number.
-/

set_option autoImplicit false

namespace QueryTemplate

/-! ## Arrays in arrays -/

mutual
def Value.nesting : Value → Nat
  | .list items => Value.itemsNesting items + 1
  | _ => 0

def Value.itemsNesting : List Value → Nat
  | [] => 0
  | value :: rest => max (Value.nesting value) (Value.itemsNesting rest)
end

namespace Value

theorem itemsNesting_le_iff {values : List Value} {depth : Nat} :
    itemsNesting values ≤ depth ↔ ∀ value ∈ values, value.nesting ≤ depth := by
  induction values with
  | nil => simp [itemsNesting]
  | cons value rest ih => rw [itemsNesting, Nat.max_le, ih, List.forall_mem_cons]

theorem nesting_list_le_iff {values : List Value} {depth : Nat} :
    (list values).nesting ≤ depth + 1 ↔ ∀ value ∈ values, value.nesting ≤ depth := by
  rw [nesting, Nat.add_le_add_iff_right, itemsNesting_le_iff]

@[simp] theorem nesting_ofAtom (a : Json.Atom) : (ofAtom a).nesting = 0 := by
  rcases a with _ | _ | (_ | _) | _ <;> rfl

end Value

namespace Json

/-- Texts that spell a value out of the digits of integers, other values without parts and arrays,
with blanks wherever they may stand. -/
inductive Spelled : Text → Value → Prop where
  | integer {n : Int} (fits : Fits n) : Spelled (Text.signedDecimal n) (.integer n)
  | other {written : Text} {a : Atom} (reads : Reads readAtom written a) :
    Spelled written (.ofAtom a)
  | padded {before text after : Text} {value : Value} (leading : Blank before)
    (inside : Spelled text value) (trailing : Blank after) :
    Spelled (before ++ (text ++ after)) value
  | empty {blanks : Text} (blank : Blank blanks) : Spelled (bracketed blanks) (.list [])
  | list (items : List (Text × Value)) (each : ∀ item ∈ items, Spelled item.1 item.2) :
    Spelled (bracketed (Text.join [','] (items.map Prod.fst))) (.list (items.map Prod.snd))

variable {text : Text} {value : Value} {depth : Nat}

theorem Spelled.denotes (spelled : Spelled text value) (shallow : value.nesting ≤ depth) :
    Denotes depth text value := by
  induction spelled generalizing depth with
  | integer fits => exact .atom (reads_integer fits) depth
  | other reads => exact .atom reads depth
  | padded leading _ trailing ih => exact (ih shallow).pad leading trailing
  | empty blank =>
    cases depth with
    | zero => cases shallow
    | succ depth => exact .empty blank depth
  | list items _ ih =>
    cases depth with
    | zero => cases shallow
    | succ depth =>
      have inner := Value.nesting_list_le_iff.mp shallow
      refine .list (denotes_map fun item member => ?_)
      exact ih item member (inner item.2 (List.mem_map_of_mem member))

theorem faults_bracketed (inside : Text) :
    Faults (readValue 0) (bracketed inside) .recursionLimit where
  opens := rfl
  fault _ := ⟨_, rfl, rfl⟩

theorem Spelled.stumbles (spelled : Spelled text value) (deep : depth < value.nesting) :
    Stumbles (readValue depth) text .recursionLimit := by
  induction spelled generalizing depth with
  | integer => exact absurd deep (Nat.not_lt_zero depth)
  | other => simp at deep
  | padded leading _ _ ih => exact (ih deep).pad leading _
  | empty =>
    cases depth with
    | zero => exact (faults_bracketed _).stumbles
    | succ depth => exact absurd deep (by simp [Value.nesting, Value.itemsNesting])
  | list items each ih =>
    cases depth with
    | zero => exact (faults_bracketed _).stumbles
    | succ depth =>
      -- The first item that is too deep stops the reader, after items that it could read.
      rcases all_or_first (fun item => item.2.nesting ≤ depth) items with
        shallow | ⟨before, item, after, rfl, earlier, deeper⟩
      · have inner : (Value.list (items.map Prod.snd)).nesting ≤ depth + 1 :=
          Value.nesting_list_le_iff.mpr (List.forall_mem_map.mpr shallow)
        exact absurd deep (Nat.not_lt.mpr inner)
      · have denote : List.Forall₂ (Denotes depth) (before.map Prod.fst) (before.map Prod.snd) :=
          denotes_map fun other member =>
            (each other (by simp [member])).denotes (earlier other member)
        have stops := ih item (by simp) (Nat.lt_of_not_le deeper)
        rw [List.map_append, List.map_cons]
        exact (Faults.list denote stops (after.map Prod.fst)).stumbles

theorem Spelled.ofWord {kind : Kind} (spelled : Spelled text value) (other : kind ≠ .string) :
    (value.nesting ≤ depthLimit → Value.ofWord kind text = .ok value) ∧
      (depthLimit < value.nesting → ∃ source,
        Value.ofWord kind text = .error (.notJson kind text source) ∧
          source.cause = .recursionLimit) :=
  ⟨fun shallow => (spelled.denotes shallow).ofWord other,
    fun deep => exists_notJson (spelled.stumbles deep) other⟩

theorem ofWord_of_reads {written : Text} {a : Atom} {kind : Kind} (reads : Reads readAtom written a)
    (other : kind ≠ .string) : Value.ofWord kind written = .ok (.ofAtom a) :=
  (Denotes.atom reads depthLimit).ofWord other

end Json

theorem FixedInteger.natAbs_lt (n : FixedInteger ⟨true, 128⟩) : n.value.natAbs < 2 ^ 128 := by
  have least : (IntegerFormat.mk true 128).least = -170141183460469231731687303715884105728 := rfl
  have greatest : (IntegerFormat.mk true 128).greatest =
      170141183460469231731687303715884105727 := rfl
  have above := n.least_le
  have below := n.le_greatest
  rw [least] at above
  rw [greatest] at below
  omega

/-! ## Digits in queries -/

/-- An integer or a list of integers under its kind, and its digits as they stand in a query. -/
inductive Integral : Kind → Value → Text → Prop where
  | one (n : Int) : Integral .scalar (.integer n) (Text.signedDecimal n)
  | list (ns : List Int) : Integral .scalars (.list (ns.map .integer))
    (Json.bracketed (Text.join [','] (ns.map Text.signedDecimal)))

namespace Integral

variable {kind : Kind} {value : Value} {digits raw : Text}

theorem format (integral : Integral kind value digits) : value.format kind = .ok digits := by
  cases integral with
  | one n => rfl
  | list ns =>
    have items : Value.formatElements .scalar 0 (ns.map .integer) =
        .ok (ns.map Text.signedDecimal) := by
      rw [Value.formatElements_eq_ok_iff, List.forall₂_map_left_iff, List.forall₂_map_right_iff,
        List.forall₂_same]
      exact fun n _ => rfl
    rw [Value.format, items]
    rfl

theorem nesting_le (integral : Integral kind value digits) : value.nesting ≤ 1 := by
  cases integral with
  | one n => exact Nat.zero_le 1
  | list ns =>
    rw [Value.nesting_list_le_iff, List.forall_mem_map]
    exact fun n _ => Nat.le_refl 0

theorem ofWord (integral : Integral kind value digits) (spelled : Json.Spelled raw value) :
    Value.ofWord kind raw = .ok value := by
  have shallow : value.nesting ≤ Json.depthLimit := Nat.le_trans integral.nesting_le (by decide)
  have other : kind ≠ .string := by cases integral <;> simp
  exact (spelled.ofWord other).1 shallow

end Integral

namespace ReadAs

variable {kinds : List Kind} {raws : List Text} {values : List Value} {index : Nat} {kind : Kind}
  {value : Value} {raw digits : Text}

theorem getElem?_values (readAs : ReadAs kinds raws values) (declared : kinds[index]? = some kind)
    (given : raws[index]? = some raw) :
    ∃ value, values[index]? = some value ∧ Value.ofWord kind raw = .ok value := by
  induction readAs generalizing index with
  | nil => simp at declared
  | cons first _ ih =>
    cases index with
    | zero =>
      obtain rfl := Option.some.inj declared
      obtain rfl := Option.some.inj given
      exact ⟨_, rfl, first⟩
    | succ index => exact ih declared given

theorem gives (readAs : ReadAs kinds raws values) (declared : kinds[index]? = some kind)
    (given : raws[index]? = some raw) (integral : Integral kind value digits)
    (spelled : Json.Spelled raw value) :
    Argument.Gives (List.zipWith Argument.mk kinds values) index digits := by
  obtain ⟨other, found, read⟩ := readAs.getElem?_values declared given
  obtain rfl := Except.ok.inj (read.symm.trans (integral.ofWord spelled))
  rw [Argument.gives_iff_getElem?]
  exact ⟨⟨kind, other⟩, by simp [List.getElem?_zipWith, declared, found], integral.format⟩

end ReadAs

/-- A query with a text at each place of an index. -/
def Template.Shows (template : Template) (index : Nat) (raw query : Text) : Prop :=
  ∃ fragment : Nat → Text, (index ∈ template.placeholders → fragment index = raw) ∧
    query = template.segments.flatMap (Segment.splice fragment)

theorem Template.shows_of_bind {template : Template} {arguments : List Argument} {index : Nat}
    {raw query : Text} (given : Argument.Gives arguments index raw)
    (bound : template.bind arguments = .ok query) : template.Shows index raw query := by
  obtain ⟨fragment, filled, spliced⟩ := Template.bind_eq_ok_iff.mp bound
  exact ⟨fragment, fun member => (filled index member).unique given, spliced⟩

namespace Command

variable {read : FileReader} {words : List String} {template : Template} {index : Nat} {raw : Text}
  {arguments : List Argument}

theorem shows_of_printQuery (given : Argument.Gives arguments index raw)
    (well : (printQuery (template.bind arguments) false).code = 0) :
    ∃ query, (printQuery (template.bind arguments) false).stdout = query ++ ['\n'] ∧
      template.Shows index raw query := by
  rcases printQuery_cases (template.bind arguments) with
    ⟨query, bound, printed, _⟩ | ⟨_, _, _, code⟩
  · exact ⟨query, printed, Template.shows_of_bind given bound⟩
  · cases well.symm.trans code

theorem shows_of_bind_command {source : Text} (given : Argument.Gives arguments index raw)
    (asked : Request.ofWords words = .ok (.bind ⟨source, arguments, false⟩))
    (parsed : Template.parse source = .ok template) (well : (runProgram read words).code = 0) :
    ∃ query, (runProgram read words).stdout = query ++ ['\n'] ∧
      template.Shows index raw query := by
  have ended : runProgram read words = printQuery (template.bind arguments) false :=
    runProgram_bind asked (bind_of_parse parsed false)
  rw [ended] at well ⊢
  exact shows_of_printQuery given well

variable {path name : String} {registry : Registry} {method : Method} {raws : List Text}
  {values : List Value}

theorem createQuery_of_readAs (found : registry.get? name = some method)
    (readAs : ReadAs method.params raws values) :
    registry.createQuery name values =
      method.template.bind (List.zipWith Argument.mk method.params values) := by
  rw [Registry.createQuery, found]
  exact Method.createQuery_eq_bind readAs.length_values

theorem shows_of_invoke_command (loaded : Registry.ofFile read path = .ok registry)
    (found : registry.get? name = some method) (readAs : ReadAs method.params raws values)
    (given : Argument.Gives (List.zipWith Argument.mk method.params values) index raw)
    (asked : Request.ofWords words = .ok (.invoke ⟨path, name, raws, false⟩))
    (well : (runProgram read words).code = 0) :
    ∃ query, (runProgram read words).stdout = query ++ ['\n'] ∧
      method.template.Shows index raw query := by
  have ended : runProgram read words = printQuery (registry.createQuery name values) false :=
    runProgram_invoke asked (invoke_of_readAs loaded found readAs false)
  rw [ended, createQuery_of_readAs found readAs] at well ⊢
  exact shows_of_printQuery given well

end Command

open Command in
/-- An integer that 64 bits hold, alone or in arrays that are not too deep, is read as it is, and
every query made of it shows its digits. Any other integer of 128 bits becomes a floating-point
number close to it, and arrays with too many open brackets are refused for that reason. -/
theorem integers_keep_digits :
    (∀ n : FixedInteger ⟨true, 128⟩, ∀ kind, kind ≠ .string →
      (Json.Fits n.value →
        Value.ofWord kind (Text.signedDecimal n.value) = .ok (Value.of n)) ∧
      (¬ Json.Fits n.value → ∃ x, Json.CloseTo x n.value ∧
        Value.ofWord kind (Text.signedDecimal n.value) = .ok (.float x))) ∧
    (∀ text value, Json.Spelled text value → ∀ kind, kind ≠ .string →
      (value.nesting ≤ Json.depthLimit → Value.ofWord kind text = .ok value) ∧
      (Json.depthLimit < value.nesting → ∃ source,
        Value.ofWord kind text = .error (.notJson kind text source) ∧
          source.cause = .recursionLimit)) ∧
    (∀ kind value digits, Integral kind value digits → value.format kind = .ok digits ∧
      ∀ raw, Json.Spelled raw value → Value.ofWord kind raw = .ok value) ∧
    ∀ kinds raws values, ReadAs kinds raws values →
      ∀ index kind raw, kinds[index]? = some kind → raws[index]? = some raw →
      ∀ value digits, Integral kind value digits → Json.Spelled raw value →
      (∀ (template : Template) query,
        template.bind (List.zipWith Argument.mk kinds values) = .ok query →
        template.Shows index digits query) ∧
      (∀ read words source template, Template.parse source = .ok template →
        Request.ofWords words =
          .ok (.bind ⟨source, List.zipWith Argument.mk kinds values, false⟩) →
        (runProgram read words).code = 0 →
        ∃ query, (runProgram read words).stdout = query ++ ['\n'] ∧
          template.Shows index digits query) ∧
      ∀ registry name method, Registry.get? registry name = some method → method.params = kinds →
        (∀ query, registry.createQuery name values = .ok query →
          method.template.Shows index digits query) ∧
        ∀ read words path, Registry.ofFile read path = .ok registry →
          Request.ofWords words = .ok (.invoke ⟨path, name, raws, false⟩) →
          (runProgram read words).code = 0 →
          ∃ query, (runProgram read words).stdout = query ++ ['\n'] ∧
            method.template.Shows index digits query := by
  refine ⟨?_, fun _ _ spelled _ => spelled.ofWord,
    fun _ _ _ integral => ⟨integral.format, fun _ => integral.ofWord⟩, ?_⟩
  · intro n kind other
    refine ⟨fun fits => Json.ofWord_of_reads (Json.reads_integer fits) other, fun wide => ?_⟩
    obtain ⟨x, close, reads⟩ := Json.reads_double wide n.natAbs_lt
    exact ⟨x, close, Json.ofWord_of_reads reads other⟩
  · intro kinds raws values readAs index kind raw declared given value digits integral spelled
    have gives := readAs.gives declared given integral spelled
    refine ⟨fun _ _ => Template.shows_of_bind gives,
      fun _ _ _ _ parsed asked => shows_of_bind_command gives asked parsed, ?_⟩
    rintro registry name method found rfl
    refine ⟨?_, fun _ _ _ loaded => shows_of_invoke_command loaded found readAs gives⟩
    intro query created
    rw [createQuery_of_readAs found readAs] at created
    exact Template.shows_of_bind gives created

def bracketedTimes : Nat → Text → Text
  | 0, text => text
  | count + 1, text => Json.bracketed (bracketedTimes count text)

def listedTimes : Nat → Value → Value
  | 0, value => value
  | count + 1, value => .list [listedTimes count value]

theorem Json.Spelled.times {text : Text} {value : Value} (spelled : Spelled text value)
    (count : Nat) : Spelled (bracketedTimes count text) (listedTimes count value) := by
  induction count with
  | zero => exact spelled
  | succ count ih =>
    exact .list [(bracketedTimes count text, listedTimes count value)]
      (List.forall_mem_singleton.mpr ih)

theorem nesting_listedTimes (value : Value) (count : Nat) :
    (listedTimes count value).nesting = value.nesting + count := by
  induction count with
  | zero => rfl
  | succ count ih => simp [listedTimes, Value.nesting, Value.itemsNesting, ih, Nat.add_assoc]

def mixedText : Text := "[ [18446744073709551615,[ ]],-9223372036854775808]".toList

def mixedValue : Value :=
  .list [.list [.integer 18446744073709551615, .list []], .integer (-9223372036854775808)]

theorem spelled_mixed : Json.Spelled mixedText mixedValue := by
  have blank : Json.Blank [' '] := List.forall_mem_singleton.mpr rfl
  have none : Json.Blank [] := fun _ member => absurd member List.not_mem_nil
  have greatest : Json.Spelled (Text.signedDecimal 18446744073709551615) _ := .integer (by decide)
  have least : Json.Spelled (Text.signedDecimal (-9223372036854775808)) _ := .integer (by decide)
  have inner := Json.Spelled.list [(_, _), (_, _)]
    (List.forall_mem_cons.mpr ⟨greatest, List.forall_mem_singleton.mpr (.empty blank)⟩)
  have outer := Json.Spelled.list [(_, _), (_, _)]
    (List.forall_mem_cons.mpr ⟨.padded blank inner none, List.forall_mem_singleton.mpr least⟩)
  exact outer

open Command in
theorem integers_keep_digits_mixed :
    Value.ofWord .scalar "18446744073709551615".toList = .ok (.integer 18446744073709551615) ∧
    (∃ x, Json.CloseTo x (-9223372036854775809) ∧
      Value.ofWord .scalar "-9223372036854775809".toList = .ok (.float x)) ∧
    Value.ofWord .scalars mixedText = .ok mixedValue ∧
    (∃ source, Value.ofWord .scalars (bracketedTimes 128 mixedText) =
        .error (.notJson .scalars (bracketedTimes 128 mixedText) source) ∧
      source.cause = .recursionLimit) ∧
    (∃ query, (runProgram agesFile (invokeLine "ages.json" "ages" [['x'], ['7']])).stdout =
        query ++ ['\n'] ∧
      agesMethod.template.Shows 1 ['7'] query) ∧
    (∃ query, (runProgram agesFile (bindLine agesMethod.source ["string=x", "scalar=7"])).stdout =
        query ++ ['\n'] ∧
      agesMethod.template.Shows 1 ['7'] query) := by
  have positive : Text.signedDecimal 18446744073709551615 = "18446744073709551615".toList := by
    decide +kernel
  have negative : Text.signedDecimal (-9223372036854775809) = "-9223372036854775809".toList := by
    decide +kernel
  have deep : Json.depthLimit < (listedTimes 128 mixedValue).nesting := by
    rw [nesting_listedTimes]
    decide
  obtain ⟨alone, nested, _, shown⟩ := integers_keep_digits
  refine ⟨?_, ?_, ?_, ?_, ?_⟩
  · rw [← positive]
    exact (alone ⟨18446744073709551615, by decide, by decide⟩ .scalar (by simp)).1 (by decide)
  · rw [← negative]
    exact (alone ⟨-9223372036854775809, by decide, by decide⟩ .scalar (by simp)).2 (by decide)
  · exact (nested _ _ spelled_mixed .scalars (by simp)).1 (by decide)
  · exact (nested _ _ (spelled_mixed.times 128) .scalars (by simp)).2 deep
  · have readAs : ReadAs agesMethod.params [['x'], ['7']] [.string ['x'], .integer 7] :=
      .cons rfl (.cons rfl .nil)
    have seven : Json.Spelled (Text.signedDecimal 7) (.integer 7) := .integer (by decide)
    have succeeds : (Registry.empty.loadFile agesFile "ages.json").2 = .ok () := by decide +kernel
    have loaded : Registry.ofFile agesFile "ages.json" = .ok agesRegistry := by
      unfold agesRegistry
      exact Registry.ofFile_of_succeeds succeeds
    have found : agesRegistry.get? "ages" = some agesMethod := by decide +kernel
    have parsed := ((Registry.coherent_of_ofFile loaded).compiled "ages" agesMethod found).parsed
    have words : List.zipWith Argument.word agesMethod.params [['x'], ['7']] =
        ["string=x", "scalar=7"] := by
      decide +kernel
    have binding := ofWords_bindLine agesMethod.source readAs.words
    rw [words] at binding
    obtain ⟨_, bound, invoked⟩ := shown _ _ _ readAs 1 .scalar ['7'] rfl rfl _ _ (.one 7) seven
    refine ⟨?_, bound agesFile _ _ _ parsed binding (by decide +kernel)⟩
    exact (invoked agesRegistry "ages" agesMethod found rfl).2 agesFile _ "ages.json" loaded
      (ofWords_invokeLine (by decide) _ _) (by decide +kernel)

/-- One more than the greatest integer of 64 bits is another number once it was read, and an integer
in too many brackets is not read at all. -/
theorem integers_lose_digits :
    (∃ n : FixedInteger ⟨true, 128⟩, Text.signedDecimal n.value = "18446744073709551616".toList ∧
      Value.ofWord .scalar "18446744073709551616".toList ≠ .ok (Value.of n)) ∧
    Value.ofWord .scalar "18446744073709551616".toList = .ok (.float ⟨0x43f0000000000000⟩) ∧
    bindText ['?', '0'] [.ofScalar (.float ⟨0x43f0000000000000⟩)] =
      .ok "18446744073709552000".toList ∧
    Value.ofWord .scalars (bracketedTimes 128 ['1']) ≠ .ok (listedTimes 128 (.integer 1)) := by
  have digits : Text.signedDecimal 18446744073709551616 = "18446744073709551616".toList := by
    decide +kernel
  have cut : Template.pieces ['?', '0'] = ([.placeholder ['0']], []) := by decide +kernel
  have parsed : Template.parse ['?', '0'] = .ok ⟨[.placeholder 0]⟩ := by
    rw [Template.parse, cut]
    rfl
  have read : Value.ofWord .scalar "18446744073709551616".toList =
      .ok (.float ⟨0x43f0000000000000⟩) := by
    decide +kernel
  refine ⟨⟨⟨18446744073709551616, by decide, by decide⟩, digits, ?_⟩, read, ?_, ?_⟩
  · rw [read]
    intro same
    cases Except.ok.inj same
  · rw [bindText, parsed]
    decide +kernel
  · have one : Json.Spelled (Text.signedDecimal 1) (.integer 1) := .integer (by decide)
    have deep : Json.depthLimit < (listedTimes 128 (.integer 1)).nesting := by
      rw [nesting_listedTimes]
      decide
    have other : Kind.scalars ≠ .string := by simp
    obtain ⟨source, refused, _⟩ := ((one.times 128).ofWord other).2 deep
    have digit : Text.signedDecimal 1 = ['1'] := rfl
    rw [digit] at refused
    rw [refused]
    intro same
    cases same

end QueryTemplate
