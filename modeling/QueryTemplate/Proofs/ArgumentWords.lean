import Mathlib.Data.List.TakeWhile
import QueryTemplate.Proofs.CommandLine
import QueryTemplate.Proofs.SpelledJson

/-! Words for arguments.

The first equals sign of a word parts the name of a kind from the raw text of a value. An object at
any depth makes the whole word fail, for that reason and no other.
-/

set_option autoImplicit false

namespace QueryTemplate

/-! ## Kinds and their names -/

def Kind.Called (kind : Kind) (name : String) : Prop := name = kind.name ∨ name ∈ kind.aliases

theorem Kind.ofAlias?_eq_some_iff {kind : Kind} {name : String} :
    ofAlias? name = some kind ↔ kind.Called name := by
  constructor
  · intro found
    have fits := List.find?_some found
    simp only [Bool.or_eq_true, beq_iff_eq, List.contains_iff_mem] at fits
    exact fits.imp_left Eq.symm
  · -- Every name is looked up, and no other kind comes before its own.
    rintro (rfl | other)
    · exact ofAlias?_name kind
    · rcases kind with element | element <;> cases element
      all_goals
        simp only [aliases, List.mem_cons, List.not_mem_nil, or_false] at other
        rcases other with rfl | rfl
      all_goals rfl

/-! ## The shape of a value -/

namespace Json

/-- A value has the shape of a JSON value: the same atoms, and lists for arrays, item by item. -/
inductive Image : Json → Value → Prop where
  | atom (a : Atom) : Image (.atom a) (.ofAtom a)
  | array (items : List (Json × Value)) (each : ∀ item ∈ items, Image item.1 item.2) :
    Image (.array (items.map Prod.fst)) (.list (items.map Prod.snd))

def HoldsObject (json : Json) : Prop := ∃ members, PartOf (.object members) json

variable {json : Json} {value : Value}

theorem ofJsonItems_map {items : List (Json × Value)}
    (each : ∀ item ∈ items, Value.ofJson item.1 = .ok item.2) :
    Value.ofJsonItems (items.map Prod.fst) = .ok (items.map Prod.snd) := by
  induction items with
  | nil => rfl
  | cons item items ih =>
    obtain ⟨first, later⟩ := List.forall_mem_cons.mp each
    simp only [List.map_cons, Value.ofJsonItems, first, ih later, bind, Except.bind]

theorem Image.ofJson (image : Image json value) : Value.ofJson json = .ok value := by
  induction image with
  | atom a => exact Value.ofJson_atom a
  | array items _ ih =>
    rw [Value.ofJson, ofJsonItems_map ih]
    rfl

theorem Image.not_holdsObject (image : Image json value) : ¬ HoldsObject json := by
  rintro ⟨members, part⟩
  induction image with
  | atom a => cases part
  | array items _ ih =>
    cases part with
    | item member inner =>
      obtain ⟨item, among, rfl⟩ := List.mem_map.mp member
      exact ih item among inner

mutual
/-- A value is found unless an object stands somewhere, which is then the reason. -/
theorem image_or_object : (json : Json) →
    (∃ value, Image json value) ∨
      (HoldsObject json ∧ Value.ofJson json = .error (.unsupported "object"))
  | .atom a => .inl ⟨_, .atom a⟩
  | .array items => by
    rcases images_or_object items with ⟨pairs, rfl, each⟩ | ⟨item, member, ⟨members, part⟩, failed⟩
    · exact .inl ⟨_, .array pairs each⟩
    · exact .inr ⟨⟨members, .item member part⟩, by rw [Value.ofJson, failed]; rfl⟩
  | .object members => .inr ⟨⟨members, .whole⟩, by rw [Value.ofJson]⟩

/-- The first item with an object in it ends the reading, and no values are left of those before. -/
theorem images_or_object : (items : List Json) →
    (∃ pairs : List (Json × Value), items = pairs.map Prod.fst ∧
      ∀ pair ∈ pairs, Image pair.1 pair.2) ∨
      ∃ item ∈ items, HoldsObject item ∧
        Value.ofJsonItems items = .error (.unsupported "object")
  | [] => .inl ⟨[], rfl, by simp⟩
  | item :: rest => by
    rcases image_or_object item with ⟨value, image⟩ | ⟨holds, failed⟩
    · rcases images_or_object rest with ⟨pairs, rfl, each⟩ | ⟨other, member, holds, failed⟩
      · exact .inl ⟨(item, value) :: pairs, rfl, List.forall_mem_cons.mpr ⟨image, each⟩⟩
      · refine .inr ⟨other, List.mem_cons_of_mem _ member, holds, ?_⟩
        simp only [Value.ofJsonItems, image.ofJson, failed, bind, Except.bind]
    · refine .inr ⟨item, List.mem_cons_self, holds, ?_⟩
      simp only [Value.ofJsonItems, failed, bind, Except.bind]
end

theorem ofJson_eq_ok_iff : Value.ofJson json = .ok value ↔ Image json value := by
  refine ⟨fun read => ?_, Image.ofJson⟩
  rcases image_or_object json with ⟨other, image⟩ | ⟨_, failed⟩
  · cases read.symm.trans image.ofJson
    exact image
  · cases read.symm.trans failed

theorem ofJson_of_holdsObject (holds : HoldsObject json) :
    Value.ofJson json = .error (.unsupported "object") := by
  rcases image_or_object json with ⟨_, image⟩ | ⟨_, failed⟩
  · exact absurd holds image.not_holdsObject
  · exact failed

theorem exists_image_iff : (∃ value, Image json value) ↔ ¬ HoldsObject json := by
  refine ⟨fun ⟨_, image⟩ => image.not_holdsObject, fun none => ?_⟩
  rcases image_or_object json with found | ⟨holds, _⟩
  · exact found
  · exact absurd holds none

end Json

/-! ## Words -/

/-- The value that a raw text stands for under a kind. -/
inductive Value.Meant (raw : Text) : Kind → Value → Prop where
  | verbatim : Meant raw .string (.string raw)
  | json {kind : Kind} {json : Json} {value : Value} (other : kind ≠ .string)
    (parsed : Json.parse raw = .ok json) (image : Json.Image json value) : Meant raw kind value

theorem Value.ofWord_eq_ok_iff {kind : Kind} {raw : Text} {value : Value} :
    ofWord kind raw = .ok value ↔ Meant raw kind value := by
  constructor
  · intro read
    by_cases verbatim : kind = .string
    · subst verbatim
      cases read
      exact .verbatim
    · rw [ofWord_json verbatim] at read
      cases parsed : Json.parse raw with
      | error source => simp [parsed] at read
      | ok json =>
        cases meant : ofJson json with
        | error source => simp [parsed, meant, Except.mapError] at read
        | ok other =>
          obtain rfl : other = value := by simpa [parsed, meant, Except.mapError] using read
          exact .json verbatim parsed (Json.ofJson_eq_ok_iff.mp meant)
  · intro meant
    cases meant with
    | verbatim => rfl
    | json other parsed image =>
      simp only [ofWord_json other, parsed, image.ofJson]
      rfl

namespace Value

variable {kind : Kind} {raw : Text} {json : Json}

theorem exists_meant_iff :
    (∃ value, Meant raw kind value) ↔
      kind = .string ∨ ∃ json, Json.parse raw = .ok json ∧ ¬ json.HoldsObject := by
  constructor
  · rintro ⟨value, _ | ⟨_, parsed, image⟩⟩
    · exact .inl rfl
    · exact .inr ⟨_, parsed, image.not_holdsObject⟩
  · intro readable
    by_cases verbatim : kind = .string
    · subst verbatim
      exact ⟨_, .verbatim⟩
    · obtain ⟨json, parsed, plain⟩ := readable.resolve_left verbatim
      obtain ⟨value, image⟩ := Json.exists_image_iff.mpr plain
      exact ⟨value, .json verbatim parsed image⟩

theorem ofWord_of_not_json {source : Json.Error} (other : kind ≠ .string)
    (failed : Json.parse raw = .error source) : ofWord kind raw = .error (.notJson kind raw source) := by
  rw [ofWord_json other, failed]

theorem ofWord_of_holdsObject (other : kind ≠ .string) (parsed : Json.parse raw = .ok json)
    (holds : json.HoldsObject) :
    ofWord kind raw = .error (.noValue kind raw (.unsupported "object")) := by
  simp only [ofWord_json other, parsed, Json.ofJson_of_holdsObject holds]
  rfl

end Value

namespace Argument

variable {word : Text} {argument : Argument}

theorem ofWord_of_not_mem (missing : '=' ∉ word) : ofWord word = .error (.noEqualsSign word) := by
  have whole : word.dropWhile (· ≠ '=') = [] :=
    List.dropWhile_eq_nil_iff.mpr fun c member => decide_eq_true (ne_of_mem_of_not_mem member missing)
  rw [ofWord, whole]

theorem ofWord_called {name : Text} {kind : Kind} (free : '=' ∉ name)
    (called : kind.Called (String.ofList name)) (raw : Text) :
    ofWord (name ++ '=' :: raw) = (Value.ofWord kind raw).map (⟨kind, ·⟩) := by
  rw [ofWord_append free, Kind.ofAlias?_eq_some_iff.mpr called]

theorem ofWord_uncalled {name : Text} (free : '=' ∉ name) (raw : Text)
    (unknown : ∀ kind : Kind, ¬ kind.Called (String.ofList name)) :
    ofWord (name ++ '=' :: raw) = .error (.unknownKind (String.ofList name)) := by
  have absent : Kind.ofAlias? (String.ofList name) = none := by
    rw [Option.eq_none_iff_forall_ne_some]
    exact fun kind found => unknown kind (Kind.ofAlias?_eq_some_iff.mp found)
  rw [ofWord_append free, absent]

theorem ofWord_append_eq_ok_iff {name raw : Text} (free : '=' ∉ name) :
    ofWord (name ++ '=' :: raw) = .ok argument ↔
      argument.kind.Called (String.ofList name) ∧ Value.Meant raw argument.kind argument.value := by
  constructor
  · intro read
    cases known : Kind.ofAlias? (String.ofList name) with
    | none => simp [ofWord_append free, known] at read
    | some kind =>
      have called := Kind.ofAlias?_eq_some_iff.mp known
      rw [ofWord_called free called] at read
      cases meant : Value.ofWord kind raw with
      | error e => simp [meant, Except.map] at read
      | ok value =>
        obtain rfl : ⟨kind, value⟩ = argument := by simpa [meant, Except.map] using read
        exact ⟨called, Value.ofWord_eq_ok_iff.mp meant⟩
  · rintro ⟨called, meant⟩
    rw [ofWord_called free called, Value.ofWord_eq_ok_iff.mpr meant]
    rfl

theorem ofWord_eq_ok_iff :
    ofWord word = .ok argument ↔
      ∃ name raw, word = name ++ '=' :: raw ∧ '=' ∉ name ∧
        argument.kind.Called (String.ofList name) ∧
        Value.Meant raw argument.kind argument.value := by
  constructor
  · intro read
    by_cases present : '=' ∈ word
    · obtain ⟨name, raw, rfl, free⟩ := List.eq_append_cons_of_mem present
      exact ⟨name, raw, rfl, free, (ofWord_append_eq_ok_iff free).mp read⟩
    · cases (ofWord_of_not_mem present).symm.trans read
  · rintro ⟨name, raw, rfl, free, meant⟩
    exact (ofWord_append_eq_ok_iff free).mpr meant

theorem exists_ofWord_iff :
    (∃ argument, ofWord word = .ok argument) ↔
      ∃ name raw, word = name ++ '=' :: raw ∧ '=' ∉ name ∧
        ∃ kind : Kind, kind.Called (String.ofList name) ∧
          (kind = .string ∨ ∃ json, Json.parse raw = .ok json ∧ ¬ json.HoldsObject) := by
  constructor
  · rintro ⟨argument, read⟩
    obtain ⟨name, raw, split, free, called, meant⟩ := ofWord_eq_ok_iff.mp read
    exact ⟨name, raw, split, free, _, called, Value.exists_meant_iff.mp ⟨_, meant⟩⟩
  · rintro ⟨name, raw, split, free, kind, called, readable⟩
    obtain ⟨value, meant⟩ := Value.exists_meant_iff.mpr readable
    exact ⟨⟨kind, value⟩, ofWord_eq_ok_iff.mpr ⟨name, raw, split, free, called, meant⟩⟩

end Argument

/-- What words are read as arguments. What stands before the first equals sign has to be a name of a
kind; what stands behind it is the value as it is if the kind is that of strings, and JSON without
an object otherwise. -/
theorem argument_words_lose_nothing (word : Text) :
    (∀ argument, Argument.ofWord word = .ok argument ↔
      ∃ name raw, word = name ++ '=' :: raw ∧ '=' ∉ name ∧
        argument.kind.Called (String.ofList name) ∧
        Value.Meant raw argument.kind argument.value) ∧
    ((∃ argument, Argument.ofWord word = .ok argument) ↔
      ∃ name raw, word = name ++ '=' :: raw ∧ '=' ∉ name ∧
        ∃ kind : Kind, kind.Called (String.ofList name) ∧
          (kind = .string ∨ ∃ json, Json.parse raw = .ok json ∧ ¬ json.HoldsObject)) ∧
    ('=' ∉ word → Argument.ofWord word = .error (.noEqualsSign word)) ∧
    ∀ name raw, word = name ++ '=' :: raw → '=' ∉ name →
      ((∀ kind : Kind, ¬ kind.Called (String.ofList name)) →
        Argument.ofWord word = .error (.unknownKind (String.ofList name))) ∧
      ∀ kind : Kind, kind.Called (String.ofList name) → kind ≠ .string →
        (∀ source, Json.parse raw = .error source →
          Argument.ofWord word = .error (.notJson kind raw source)) ∧
        ∀ json, Json.parse raw = .ok json →
          (json.HoldsObject →
            Argument.ofWord word = .error (.noValue kind raw (.unsupported "object"))) ∧
          ∀ n, Json.PartOf (.number (.integer n)) json → Json.Fits n := by
  refine ⟨fun _ => Argument.ofWord_eq_ok_iff, Argument.exists_ofWord_iff,
    Argument.ofWord_of_not_mem, ?_⟩
  · rintro name raw rfl free
    refine ⟨Argument.ofWord_uncalled free raw, ?_⟩
    intro kind called other
    rw [Argument.ofWord_called free called]
    refine ⟨?_, ?_⟩
    · intro source failed
      rw [Value.ofWord_of_not_json other failed]
      rfl
    · intro json parsed
      refine ⟨?_, fun n => Json.fits_of_parse parsed⟩
      intro holds
      rw [Value.ofWord_of_holdsObject other parsed holds]
      rfl

def nestedRaw : Text :=
  "[\n  null,\n  [\n    true,\n    \"=\\u0001\"\n  ],\n  -9223372036854775808\n]".toList

def nestedJson : Json :=
  .array [.null, .array [.boolean true, .string ['=', '\x01']],
    .number (.integer (-9223372036854775808))]

def nestedValue : Value :=
  .list [.null, .list [.boolean true, .string ['=', '\x01']], .integer (-9223372036854775808)]

def hiddenRaw : Text := "[\n  1,\n  [\n    \x7b\x7d\n  ]\n]".toList

def hiddenJson : Json := .array [.number (.integer 1), .array [.object []]]

theorem argument_words_lose_nothing_nested :
    Argument.ofWord "str=a=\"\\".toList = .ok ⟨.string, .string "a=\"\\".toList⟩ ∧
    Argument.ofWord ("scalar-list".toList ++ '=' :: nestedRaw) = .ok ⟨.scalars, nestedValue⟩ ∧
    Argument.ofWord "number=1.5".toList = .ok ⟨.scalar, .float ⟨0x3ff8000000000000⟩⟩ ∧
    Argument.ofWord ("string-collection".toList ++ '=' :: hiddenRaw) =
      .error (.noValue .strings hiddenRaw (.unsupported "object")) ∧
    Argument.ofWord "string".toList = .error (.noEqualsSign "string".toList) ∧
    Argument.ofWord "map=1".toList = .error (.unknownKind "map") ∧
    ∃ source, Argument.ofWord "bool=tru".toList = .error (.notJson .scalar "tru".toList source) := by
  have nested : Json.parse nestedRaw = .ok nestedJson := by
    have inner : Json.BuiltOf (Json.Legible Json.NumberText.Means) 126
        (.array [.boolean true, .string ['=', '\x01']]) :=
      .array (by simpa using
        ⟨.atom _ (Json.legible_boolean true), .atom _ (Json.legible_string _)⟩)
    have built : Json.BuiltOf (Json.Legible Json.NumberText.Means) Json.depthLimit nestedJson :=
      .array (by simpa using
        ⟨.atom _ Json.legible_null, inner, .atom _ (Json.legible_integer Json.NumberText.keepsIntegers (by decide))⟩)
    have laidOut : nestedRaw = nestedJson.pretty ++ [] := by decide +kernel
    rw [laidOut]
    exact built.parse_pretty Json.blank_nil
  have hidden : Json.parse hiddenRaw = .ok hiddenJson := by
    have inner : Json.BuiltOf (Json.Legible Json.NumberText.Means) 126 (.array [.object []]) :=
      .array (by simpa using .object (by simp))
    have built : Json.BuiltOf (Json.Legible Json.NumberText.Means) Json.depthLimit hiddenJson :=
      .array (by simpa using ⟨.atom _ (Json.legible_integer Json.NumberText.keepsIntegers (by decide)), inner⟩)
    have laidOut : hiddenRaw = hiddenJson.pretty ++ [] := by decide +kernel
    rw [laidOut]
    exact built.parse_pretty Json.blank_nil
  refine ⟨?_, ?_, ?_, ?_, ?_, ?_, ?_⟩
  · exact ((argument_words_lose_nothing _).1 _).mpr
      ⟨"str".toList, "a=\"\\".toList, rfl, by decide, .inr (by decide), .verbatim⟩
  · exact ((argument_words_lose_nothing _).1 _).mpr
      ⟨_, nestedRaw, rfl, by decide, .inr (by decide),
        .json (by decide) nested (Json.ofJson_eq_ok_iff.mp rfl)⟩
  · exact ((argument_words_lose_nothing _).1 _).mpr
      ⟨"number".toList, "1.5".toList, rfl, by decide, .inr (by decide),
        .json (by decide) rfl (Json.ofJson_eq_ok_iff.mp rfl)⟩
  · have holds : hiddenJson.HoldsObject :=
      ⟨[], .item (.tail _ (.head _)) (.item (.head _) .whole)⟩
    exact ((((argument_words_lose_nothing _).2.2.2 "string-collection".toList hiddenRaw rfl
      (by decide)).2 .strings (.inl rfl) (by decide)).2 hiddenJson hidden).1 holds
  · exact (argument_words_lose_nothing _).2.2.1 (by decide)
  · have unknown : ∀ kind : Kind, ¬ kind.Called "map" := by
      rintro (element | element) <;> cases element <;> rintro (other | other) <;> revert other <;> decide
    exact ((argument_words_lose_nothing _).2.2.2 "map".toList "1".toList rfl (by decide)).1 unknown
  · exact ⟨_, (((argument_words_lose_nothing _).2.2.2 "bool".toList "tru".toList rfl
      (by decide)).2 .scalar (.inr (by decide)) (by decide)).1 _ rfl⟩

end QueryTemplate
