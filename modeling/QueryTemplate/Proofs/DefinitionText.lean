import QueryTemplate.Definition.Writer
import QueryTemplate.Proofs.SpelledJson
import QueryTemplate.Registry.Change

/-! Declarations, written and read back.

A declaration is written with all its fields, and the same declaration is read from every text that
stands for what is written. So a registry that loads such a text loads the repository.
-/

set_option autoImplicit false

namespace QueryTemplate

open Json

variable {α : Type} {means : Meaning} {reader : Reader α} {json : α → Json} {written text : Text}

/-! ## Strings, lists and kinds -/

/-- The reader finds `x` in every spelling of its value. -/
structure ReadsSpelled (means : Meaning) (reader : Reader α) (json : α → Json) : Prop where
  skips : ∀ {blanks : Text}, Blank blanks → ∀ rest, reader (blanks ++ rest) = reader rest
  reads : ∀ {written : Text} {x : α}, Spells means written (json x) → Reads reader written x

theorem ReadsSpelled.readAll (spelled : ReadsSpelled means reader json) {x : α}
    (stands : Stands means text (json x)) : Json.readAll reader text = .ok x := by
  obtain ⟨place, rfl, same, spells⟩ := stands
  exact readAll_of_padded spelled.skips (place.padded (spelled.reads spells))

theorem exists_quoted {text : Text} (spells : Spells means written (.string text)) :
    ∃ body, written = '"' :: (body ++ ['"']) ∧ SpelledText body text := by
  cases spells with
  | atom spelled =>
    cases spelled with
    | string spelled => exact ⟨_, rfl, spelled⟩

theorem readString_quoted {body text : Text} (spelled : SpelledText body text) (expected : String)
    (rest : Text) :
    readString expected ('"' :: (body ++ ['"']) ++ rest) = .ok (text, rest) := by
  rw [List.cons_append, List.append_assoc, readString, skipBlank_quote]
  exact stringBody_quoted spelled rest

theorem readsSpelled_string (expected : String) :
    ReadsSpelled means (readString expected) Json.string where
  skips blank rest := by simp only [readString, skipBlank_append blank]
  reads spells := by
    obtain ⟨body, rfl, spelled⟩ := exists_quoted spells
    exact ⟨rfl, fun rest _ => readString_quoted spelled expected rest⟩

theorem forall₂_padded {item : Reader α} (spelled : ReadsSpelled means item json)
    {places : List Place} (each : ∀ place ∈ places, Spells means place.written place.json)
    {xs : List α} (same : places.map Place.json = xs.map json) :
    List.Forall₂ (Padded item) (places.map Place.text) xs := by
  induction places generalizing xs with
  | nil =>
    obtain rfl := List.map_eq_nil_iff.mp same.symm
    exact .nil
  | cons place places ih =>
    obtain ⟨x, rest, rfl, first, later⟩ := List.map_eq_cons_iff.mp same.symm
    obtain ⟨spells, others⟩ := List.forall_mem_cons.mp each
    rw [← first] at spells
    exact .cons (place.padded (spelled.reads spells)) (ih others later.symm)

theorem readsSpelled_list {item : Reader α} (spelled : ReadsSpelled means item json) :
    ReadsSpelled means (readList item) fun xs => .array (xs.map json) where
  skips blank rest := by simp only [readList, skipBlank_append blank]
  reads := by
    intro written xs spells
    generalize same : Json.array (xs.map json) = value at spells
    cases spells with
    | atom => cases same
    | object => cases same
    | array places each blank =>
      have padded := forall₂_padded spelled each (Json.array.inj same).symm
      refine ⟨rfl, fun rest _ => ?_⟩
      rw [List.cons_append, List.append_assoc, List.append_assoc]
      exact listBody_spread padded blank rest

theorem readsSpelled_kind : ReadsSpelled means readKind Kind.toJson where
  skips blank rest := by simp only [readKind, skipBlank_append blank]
  reads := by
    intro written kind spells
    obtain ⟨body, rfl, spelled⟩ := exists_quoted spells
    refine ⟨rfl, fun rest _ => ?_⟩
    have name := readString_quoted spelled "variant identifier" rest
    have named : readKind ('"' :: (body ++ ['"']) ++ rest) =
        readKindName ('"' :: (body ++ ['"']) ++ rest) := rfl
    rw [named, readKindName, name]
    simp [bind, Except.bind, Kind.ofName?_name]

/-! ## Objects -/

theorem readField_member {field : Reader α} (spelled : ReadsSpelled means field json)
    {member : Member} {x : α} (same : member.json = json x)
    (spells : Spells means member.written member.json) (name : String) {rest : Text}
    (ends : numberEnds rest) :
    readField name none field (member.value ++ rest) = .ok (x, rest) := by
  rw [same] at spells
  have found : field (member.before ++ (member.written ++ rest)) = .ok (x, rest) :=
    (spelled.skips member.leading _).trans ((spelled.reads spells).read rest ends)
  simp only [readField, member.colon_value, bind, Except.bind, found]

/-- An object is read if the members that stand for its entries are taken one after the other. -/
theorem exists_members {entries : List (Text × Json)} (spells : Spells means written (.object entries)) :
    ∃ members : List Member, members.map Member.entry = entries ∧
      (∀ member ∈ members, Spells means member.written member.json) ∧
      ∃ inside, written = '{' :: inside ∧
        ∀ {σ : Type} (take : σ → Text → Reader σ) (before after : σ),
          Takes take before (members.map Member.text) after →
          ∀ rest, objectBody take before (inside ++ rest) = .ok (after, rest) := by
  cases spells with
  | object members each blank =>
    refine ⟨members, rfl, each, _, rfl, fun take before after takes rest => ?_⟩
    rw [List.append_assoc, List.append_assoc]
    exact objectBody_spread takes blank rest

/-! ## Declarations -/

namespace MethodDefinition

variable {fields : Fields} {member : Member} {rest : Text}

theorem take_name {name : String} (unset : fields.name = none)
    (entry : member.entry = ("name".toList, .ofString name))
    (spells : Spells means member.written member.json) (ends : numberEnds rest) :
    fields.take member.name (member.value ++ rest) =
      .ok ({ fields with name := some name.toList }, rest) := by
  obtain ⟨key, value⟩ := Prod.mk.inj entry
  have found := readField_member (readsSpelled_string "a string") value spells "name" ends
  simp only [Fields.take, key, String.ofList_toList, unset, found]
  rfl

theorem take_query {query : Text} (unset : fields.query = none)
    (entry : member.entry = ("query".toList, .string query))
    (spells : Spells means member.written member.json) (ends : numberEnds rest) :
    fields.take member.name (member.value ++ rest) =
      .ok ({ fields with query := some query }, rest) := by
  obtain ⟨key, value⟩ := Prod.mk.inj entry
  have found := readField_member (readsSpelled_string "a string") value spells "query" ends
  simp only [Fields.take, key, String.ofList_toList, unset, found]
  rfl

theorem take_params {params : List Kind} (unset : fields.params = none)
    (entry : member.entry = ("params".toList, .array (params.map Kind.toJson)))
    (spells : Spells means member.written member.json) (ends : numberEnds rest) :
    fields.take member.name (member.value ++ rest) =
      .ok ({ fields with params := some params }, rest) := by
  obtain ⟨key, value⟩ := Prod.mk.inj entry
  have found := readField_member (readsSpelled_list readsSpelled_kind) value spells "params" ends
  simp only [Fields.take, key, String.ofList_toList, unset, found]
  rfl

theorem readsSpelled : ReadsSpelled means read toJson where
  skips blank rest := by simp only [read, skipBlank_append blank]
  reads := by
    intro written definition spells
    obtain ⟨members, same, each, inside, rfl, body⟩ := exists_members spells
    obtain ⟨first, _, rfl, named, same⟩ := List.map_eq_cons_iff.mp same
    obtain ⟨second, _, rfl, queried, same⟩ := List.map_eq_cons_iff.mp same
    obtain ⟨third, _, rfl, listed, same⟩ := List.map_eq_cons_iff.mp same
    obtain rfl := List.map_eq_nil_iff.mp same
    have takes : Takes Fields.take {} [first.text, second.text, third.text]
        ⟨some definition.name.toList, some definition.query, some definition.params⟩ := by
      refine .member first (fun _ => take_name rfl named (each first (by simp))) ?_
      refine .member second (fun _ => take_query rfl queried (each second (by simp))) ?_
      exact .member third (fun _ => take_params rfl listed (each third (by simp))) (.nil _)
    refine ⟨rfl, fun rest _ => ?_⟩
    have found := body Fields.take {} _ takes rest
    simp [read, skipBlank, isBlank, found, bind, Except.bind]

theorem builtOf_toJson (definition : MethodDefinition) (depth : Nat) :
    BuiltOf (Legible means) (depth + 2) definition.toJson := by
  have params : BuiltOf (Legible means) (depth + 1)
      (.array (definition.params.map Kind.toJson)) := by
    have texts := @builtOf_strings means depth (definition.params.map Kind.name)
    rwa [List.map_map] at texts
  have query : BuiltOf (Legible means) (depth + 1) (.string definition.query) :=
    .atom _ (legible_string definition.query)
  exact .object (by simpa using ⟨builtOf_ofString definition.name, query, params⟩)

end MethodDefinition

namespace RepositoryDefinition

theorem readsSpelled : ReadsSpelled means read toJson where
  skips blank rest := by simp only [read, skipBlank_append blank]
  reads := by
    intro written repository spells
    obtain ⟨members, same, each, inside, rfl, body⟩ := exists_members spells
    obtain ⟨member, _, rfl, entry, same⟩ := List.map_eq_cons_iff.mp same
    obtain rfl := List.map_eq_nil_iff.mp same
    obtain ⟨key, value⟩ := Prod.mk.inj entry
    have takes : Takes Fields.take none [member.text] (some repository.methods) := by
      refine .member member (fun rest ends => ?_) (.nil _)
      have found := readField_member (readsSpelled_list MethodDefinition.readsSpelled) value
        (each member (by simp)) "methods" ends
      simp only [Fields.take, key, String.ofList_toList, found]
      rfl
    refine ⟨rfl, fun rest _ => ?_⟩
    have found := body Fields.take none _ takes rest
    simp [read, skipBlank, isBlank, found, bind, Except.bind]

theorem builtOf_toJson (repository : RepositoryDefinition) (depth : Nat) :
    BuiltOf (Legible means) (depth + 4) repository.toJson := by
  have methods : BuiltOf (Legible means) (depth + 3)
      (.array (repository.methods.map MethodDefinition.toJson)) := by
    refine .array ?_
    rw [List.forall_mem_map]
    exact fun definition _ => definition.builtOf_toJson depth
  exact .object (by simpa using methods)

end RepositoryDefinition

/-- A reader finds whatever a text stands for. -/
def Recognises {ε : Type} (means : Meaning) (read : Text → Except ε α) (json : α → Json) : Prop :=
  ∀ text x, Stands means text (json x) → read text = .ok x

/-- Whatever is written as the grammar has it, every reader of the grammar reads again. -/
theorem Recognises.survives {ε : Type} {read : Text → Except ε α} {write : Json → Text}
    (recognises : Recognises means read json) (writes : Writes means write) {x : α} {depth : Nat}
    (built : BuiltOf (Legible means) depth (json x)) : read (write (json x)) = .ok x :=
  recognises _ x (writes built)

theorem MethodDefinition.recognises_ofJsonText :
    Recognises means MethodDefinition.ofJsonText MethodDefinition.toJson :=
  fun _ _ => MethodDefinition.readsSpelled.readAll

theorem RepositoryDefinition.recognises_ofJsonText :
    Recognises means RepositoryDefinition.ofJsonText RepositoryDefinition.toJson :=
  fun _ _ => RepositoryDefinition.readsSpelled.readAll

/-- A registry loads a repository from every text that stands for it. -/
theorem Registry.loadJson_of_stands {repository : RepositoryDefinition}
    (stands : Stands means text repository.toJson) (registry : Registry) :
    registry.loadJson text = registry.load repository.methods := by
  rw [loadJson, RepositoryDefinition.recognises_ofJsonText text repository stands]

/-- Declarations survive being written as JSON: they are read again from the text that is written
for them, and to load that text is to load the repository. What was read from any text is written in
one way. -/
theorem declarations_survive_json :
    (∀ definition : MethodDefinition,
      MethodDefinition.ofJsonText definition.toJson.compact = .ok definition) ∧
    (∀ repository : RepositoryDefinition,
      RepositoryDefinition.ofJsonText repository.toJson.compact = .ok repository) ∧
    (∀ (registry : Registry) (repository : RepositoryDefinition),
      registry.loadJson repository.toJson.compact = registry.load repository.methods) ∧
    (∀ text definition, MethodDefinition.ofJsonText text = .ok definition →
      ∃ again, MethodDefinition.ofJsonText definition.toJson.compact = .ok again ∧
        again.toJson.compact = definition.toJson.compact) ∧
    (∀ text repository, RepositoryDefinition.ofJsonText text = .ok repository →
      ∃ again, RepositoryDefinition.ofJsonText repository.toJson.compact = .ok again ∧
        again.toJson.compact = repository.toJson.compact) := by
  have writes : Writes NumberText.Means compact := writes_compact
  have method (definition : MethodDefinition) :
      MethodDefinition.ofJsonText definition.toJson.compact = .ok definition :=
    MethodDefinition.recognises_ofJsonText.survives writes (definition.builtOf_toJson 0)
  have repository (repository : RepositoryDefinition) :
      RepositoryDefinition.ofJsonText repository.toJson.compact = .ok repository :=
    RepositoryDefinition.recognises_ofJsonText.survives writes (repository.builtOf_toJson 0)
  exact ⟨method, repository,
    fun registry declared => registry.loadJson_of_stands (writes (declared.builtOf_toJson 0)),
    fun _ definition _ => ⟨definition, method definition, rfl⟩,
    fun _ read _ => ⟨read, repository read, rfl⟩⟩

def awkwardRepository : RepositoryDefinition :=
  ⟨[⟨"\"\\/é", ['?', '\x08', '\x01', '\x1f', '\x7f', '\n', '😀'], [.string, .scalars]⟩,
    ⟨"", [], []⟩]⟩

def awkwardJson : Text :=
  ("\x7b\"methods\":[\x7b\"name\":\"\\\"\\\\/é\",\"query\":\"?\\b\\u0001\\u001f\x7f\\n😀\"," ++
    "\"params\":[\"string\",\"scalar-collection\"]\x7d," ++
    "\x7b\"name\":\"\",\"query\":\"\",\"params\":[]\x7d]\x7d").toList

def sloppyJson : Text :=
  (" \x7b\"params\": [\x7b\"scalar\":null\x7d], \"x\":[1],\n" ++
    "\"query\":\"\\u0041\\/\", \"name\":\"\\u00e9\"\x7d ").toList

def tidyJson : Text := "\x7b\"name\":\"é\",\"query\":\"A/\",\"params\":[\"scalar\"]\x7d".toList

theorem declarations_survive_json_awkward :
    awkwardRepository.toJson.compact = awkwardJson ∧
    RepositoryDefinition.ofJsonText awkwardJson = .ok awkwardRepository ∧
    ∃ definition again, MethodDefinition.ofJsonText sloppyJson = .ok definition ∧
      definition.toJson.compact = tidyJson ∧ MethodDefinition.ofJsonText tidyJson = .ok again ∧
      again.toJson.compact = tidyJson := by
  obtain ⟨_, repositories, _, rewritten, _⟩ := declarations_survive_json
  have written : awkwardRepository.toJson.compact = awkwardJson := by decide +kernel
  have sloppy : MethodDefinition.ofJsonText sloppyJson = .ok ⟨"é", ['A', '/'], [.scalar]⟩ := by
    decide +kernel
  have tidy : (⟨"é", ['A', '/'], [.scalar]⟩ : MethodDefinition).toJson.compact = tidyJson := by
    decide +kernel
  have found := repositories awkwardRepository
  obtain ⟨again, reread, same⟩ := rewritten sloppyJson _ sloppy
  rw [written] at found
  rw [tidy] at reread same
  exact ⟨written, found, _, again, sloppy, tidy, reread, same⟩

end QueryTemplate
