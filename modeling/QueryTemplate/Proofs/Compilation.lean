import QueryTemplate.Method
import QueryTemplate.Proofs.Filling

/-! Compiled methods and their queries.

A method is compiled when its template is the one that its source spells and each placeholder has a
declared parameter. Its query is its source, filled with the values under the declared kinds.
-/

set_option autoImplicit false

namespace QueryTemplate

namespace Method

structure Compiled (method : Method) : Prop where
  parsed : Template.parse method.source = .ok method.template
  within : ∀ index ∈ method.template.placeholders, index < method.params.length

def declaration (method : Method) : MethodDefinition :=
  ⟨method.name, method.source, method.params⟩

variable {definition : MethodDefinition} {method : Method}

theorem compile_eq_ok_iff :
    compile definition = .ok method ↔ method.Compiled ∧ definition = method.declaration := by
  constructor
  · intro compiled
    cases parsed : Template.parse definition.query with
    | error source => simp [compile, parsed] at compiled
    | ok template =>
      cases outside : template.placeholders.find? (definition.params.length ≤ ·) with
      | some index => simp [compile, parsed, outside] at compiled
      | none =>
        obtain rfl : _ = method := by simpa [compile, parsed, outside] using compiled
        have within := List.find?_eq_none.mp outside
        exact ⟨⟨parsed, by simpa using within⟩, rfl⟩
  · rintro ⟨⟨parsed, within⟩, rfl⟩
    have parsed : Template.parse method.declaration.query = .ok method.template := parsed
    have outside :
        method.template.placeholders.find? (method.declaration.params.length ≤ ·) = none := by
      rw [List.find?_eq_none]
      intro index member long
      exact Nat.not_lt.mpr (of_decide_eq_true long) (within index member)
    simp only [compile, parsed, outside]
    rfl

theorem Compiled.of_compile (compiled : compile definition = .ok method) : method.Compiled :=
  (compile_eq_ok_iff.mp compiled).1

theorem compile_declaration (compiled : method.Compiled) :
    compile method.declaration = .ok method :=
  compile_eq_ok_iff.mpr ⟨compiled, rfl⟩

def arguments (method : Method) (values : List Value) : List Argument :=
  List.zipWith Argument.mk method.params values

theorem argument?_eq (method : Method) (values : List Value) :
    method.argument? values = ((method.arguments values)[·]?) := by
  funext index
  rw [argument?, arguments, List.getElem?_zipWith]
  cases method.params[index]? <;> cases values[index]? <;> rfl

variable {values : List Value}

theorem length_arguments (same : values.length = method.params.length) :
    (method.arguments values).length = values.length := by
  simp [arguments, same]

theorem createQuery_eq_bind (same : values.length = method.params.length) :
    method.createQuery values = method.template.bind (method.arguments values) := by
  rw [createQuery, if_pos same, argument?_eq, Template.bind, length_arguments same]

theorem createQuery_of_ne (differ : values.length ≠ method.params.length) :
    method.createQuery values =
      .error (.argumentCount method.name method.params.length values.length) :=
  if_neg differ

namespace Compiled

/-- The query is that of the source: a method only saves reading it again. -/
theorem createQuery_eq (compiled : method.Compiled)
    (same : values.length = method.params.length) :
    method.createQuery values = bindText method.source (method.arguments values) := by
  rw [createQuery_eq_bind same, bindText, compiled.parsed]

theorem format_of_createQuery_eq_error (compiled : method.Compiled)
    (same : values.length = method.params.length) {error : BindError}
    (failed : method.createQuery values = .error error) :
    ∃ index source, error = .format index source := by
  rw [createQuery_eq_bind same] at failed
  refine Template.format_of_bind_eq_error ?_ failed
  intro index member
  rw [length_arguments same, same]
  exact compiled.within index member

theorem error_of_createQuery (compiled : method.Compiled) {error : BindError}
    (failed : method.createQuery values = .error error) :
    (∃ name expected got, error = .argumentCount name expected got) ∨
      ∃ index source, error = .format index source := by
  by_cases same : values.length = method.params.length
  · exact .inr (compiled.format_of_createQuery_eq_error same failed)
  · rw [createQuery_of_ne same] at failed
    exact .inl ⟨_, _, _, (Except.error.inj failed).symm⟩

theorem createQuery_eq_argumentCount_iff (compiled : method.Compiled) {name : String}
    {expected got : Nat} :
    method.createQuery values = .error (.argumentCount name expected got) ↔
      values.length ≠ method.params.length ∧
      name = method.name ∧ expected = method.params.length ∧ got = values.length := by
  constructor
  · intro refused
    by_cases same : values.length = method.params.length
    · obtain ⟨index, source, mistaken⟩ := compiled.format_of_createQuery_eq_error same refused
      cases mistaken
    · rw [createQuery_of_ne same] at refused
      cases refused
      exact ⟨same, rfl, rfl, rfl⟩
  · rintro ⟨differ, rfl, rfl, rfl⟩
    exact createQuery_of_ne differ

end Compiled

end Method

/-- Making the query of a compiled method is filling the text it was declared with: a wrong number
of values is refused as such, otherwise the outcome is that of the text and the values under the
declared kinds, and no placeholder is without a parameter. -/
theorem createQuery_eq_bindText {definition : MethodDefinition} {method : Method}
    (compiled : Method.compile definition = .ok method) (values : List Value) :
    (method.name = definition.name ∧ method.source = definition.query ∧
      method.params = definition.params) ∧
    (∀ name expected got,
      method.createQuery values = .error (.argumentCount name expected got) ↔
        values.length ≠ definition.params.length ∧
        name = definition.name ∧ expected = definition.params.length ∧ got = values.length) ∧
    (values.length = definition.params.length →
      method.createQuery values =
        bindText definition.query (List.zipWith Argument.mk definition.params values)) ∧
    (∀ error, method.createQuery values = .error error →
      (∀ index count, error ≠ .indexOutOfRange index count) ∧ (∀ source, error ≠ .parse source) ∧
      ∀ name near, error ≠ .methodNotFound name near) := by
  obtain ⟨valid, rfl⟩ := Method.compile_eq_ok_iff.mp compiled
  refine ⟨⟨rfl, rfl, rfl⟩, fun _ _ _ => valid.createQuery_eq_argumentCount_iff,
    valid.createQuery_eq, ?_⟩
  intro error failed
  rcases valid.error_of_createQuery failed with ⟨_, _, _, rfl⟩ | ⟨_, _, rfl⟩ <;> simp

def greeting : MethodDefinition := ⟨"greet", "?1: \"?0?0\"?".toList, [.string, .scalars]⟩

def greetingMethod : Method :=
  ⟨"greet", greeting.query, ⟨[.placeholder 1, .literal ": \"".toList, .placeholder 0,
    .placeholder 0, .literal "\"?".toList]⟩, greeting.params⟩

theorem compile_greeting : Method.compile greeting = .ok greetingMethod := by
  have cut : Template.pieces greeting.query =
      ([.placeholder ['1'], .literal ": \"".toList, .placeholder ['0'], .placeholder ['0'],
        .literal "\"".toList, .literal ['?']], []) := by
    decide +kernel
  rw [Method.compile, Template.parse, cut]
  rfl

theorem createQuery_eq_bindText_greeting :
    Method.compile greeting = .ok greetingMethod ∧
    greetingMethod.createQuery [.string ['?', '1'], .list [.integer 7, .boolean true]] =
      bindText greeting.query
        [.ofString ['?', '1'], .ofScalars [.integer 7, .boolean true]] ∧
    greetingMethod.createQuery [.null] = .error (.argumentCount "greet" 2 1) := by
  obtain ⟨_, _, filled, _⟩ := createQuery_eq_bindText compile_greeting
    [.string ['?', '1'], .list [.integer 7, .boolean true]]
  obtain ⟨_, counted, _, _⟩ := createQuery_eq_bindText compile_greeting [.null]
  exact ⟨compile_greeting, filled rfl, (counted _ _ _).mpr ⟨by decide, rfl, rfl, rfl⟩⟩

end QueryTemplate
