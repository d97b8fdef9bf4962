import QueryTemplate.Proofs.Checking

/-! The first error of a check and the error of loading.

Both come to the first declaration that cannot be defined with the same names behind them. A check
asks for its name first, loading compiles it first, so they say the same unless it has both faults.
-/

set_option autoImplicit false

namespace QueryTemplate

/-- After those before it, the name is taken and the declaration does not compile either. -/
structure MethodDefinition.TwiceAtFault (before : List MethodDefinition)
    (definition : MethodDefinition) : Prop where
  taken : ∃ earlier ∈ before, earlier.name = definition.name
  unsound : ∀ method, Method.compile definition ≠ .ok method

/-! ## Verdicts up to a declaration -/

namespace Verdict

def seenAfter (seen : List String) (definitions : List MethodDefinition) : List String :=
  (definitions.map (·.name)).reverse ++ seen

theorem all_append (seen : List String) (before after : List MethodDefinition) :
    all seen (before ++ after) = all seen before ++ all (seenAfter seen before) after := by
  induction before generalizing seen with
  | nil => rfl
  | cons definition before ih => simp [all, ih, seenAfter]

theorem refused_append (first rest : List (Except DefinitionError Method)) :
    refused (first ++ rest) = refused first ++ refused rest :=
  List.filterMap_append

theorem mem_seenAfter_nil_iff {name : String} {definitions : List MethodDefinition} :
    name ∈ seenAfter [] definitions ↔ ∃ earlier ∈ definitions, earlier.name = name := by
  simp [seenAfter]

end Verdict

namespace Registry

open Verdict

variable {registry changed : Registry} {seen : List String} {before : List MethodDefinition}
  {definition : MethodDefinition} {error : DefinitionError}

/-- What is defined one by one is accepted, and the names that are seen are those registered. -/
theorem refused_of_defined (known : ∀ name, name ∈ seen ↔ name ∈ registry.methods)
    (defined : before.foldlM define registry = .ok changed) :
    refused (all seen before) = [] ∧
      ∀ name, name ∈ seenAfter seen before ↔ name ∈ changed.methods := by
  induction before generalizing registry seen with
  | nil =>
    obtain rfl := Except.ok.inj defined
    exact ⟨rfl, known⟩
  | cons definition before ih =>
    cases next : registry.define definition with
    | error error => simp [next, bind, Except.bind] at defined
    | ok reached =>
      have later : before.foldlM define reached = .ok changed := by
        simpa [next, bind, Except.bind] using defined
      -- What could be defined has a new name and compiles, which is what a check asks for.
      obtain ⟨method, compiled, inserted⟩ := define_eq_ok_iff.mp next
      obtain ⟨fresh, _⟩ := insert_eq_ok_iff.mp inserted
      obtain ⟨_, rfl⟩ := Method.compile_eq_ok_iff.mp compiled
      have accepted := verdict_eq_ok_iff.mpr ⟨mt (known _).mp fresh, compiled⟩
      have grown : ∀ name, name ∈ method.name :: seen ↔ name ∈ reached.methods := by
        intro name
        rw [mem_methods_of_insert inserted, List.mem_cons, known]
      obtain ⟨none_refused, reachedNames⟩ := ih grown later
      have named : method.declaration.name = method.name := rfl
      refine ⟨?_, fun name => ?_⟩
      · rw [all, accepted]
        exact none_refused
      · rw [← reachedNames]
        simp [seenAfter, named]

theorem define_eq_error (failed : registry.define definition = .error error) :
    (∃ source, Method.compile definition = .error source ∧ error = .compile source) ∨
      ∃ method, Method.compile definition = .ok method ∧ definition.name ∈ registry.methods ∧
        error = .duplicateMethod definition.name := by
  cases compiled : Method.compile definition with
  | error source =>
    obtain rfl : .compile source = error := by simpa [define, compiled] using failed
    exact .inl ⟨source, rfl, rfl⟩
  | ok method =>
    obtain ⟨_, rfl⟩ := Method.compile_eq_ok_iff.mp compiled
    by_cases taken : method.name ∈ registry.methods
    · have contains : registry.methods.contains method.name :=
        Std.TreeMap.contains_iff_mem.mpr taken
      obtain rfl : .duplicateMethod method.name = error := by
        simpa [define, compiled, insert, contains] using failed
      exact .inr ⟨method, rfl, taken, rfl⟩
    · have inserted := insert_eq_ok_iff.mpr ⟨taken, rfl⟩
      have defined := define_eq_ok_iff.mpr ⟨method, compiled, inserted⟩
      cases failed.symm.trans defined

/-- A check refuses what cannot be defined, for the same reason or for its name. -/
theorem verdict_of_define_eq_error
    (known : definition.name ∈ seen ↔ definition.name ∈ registry.methods)
    (failed : registry.define definition = .error error) :
    (definition.verdict seen = .error error ∧
      ¬ (definition.name ∈ seen ∧ ∀ method, Method.compile definition ≠ .ok method)) ∨
    ((definition.name ∈ seen ∧ ∀ method, Method.compile definition ≠ .ok method) ∧
      definition.verdict seen = .error (.duplicateMethod definition.name) ∧
        ∃ source, error = .compile source) := by
  rcases define_eq_error failed with ⟨source, compiled, rfl⟩ | ⟨method, compiled, taken, rfl⟩
  · have unsound : ∀ method, Method.compile definition ≠ .ok method := by simp [compiled]
    by_cases taken : definition.name ∈ seen
    · exact .inr ⟨⟨taken, unsound⟩, if_pos taken, source, rfl⟩
    · refine .inl ⟨?_, fun both => taken both.1⟩
      rw [MethodDefinition.verdict, if_neg taken, compiled]
      rfl
  · exact .inl ⟨if_pos (known.mpr taken), fun both => both.2 method compiled⟩

end Registry

/-! ## Messages -/

theorem head?_toList_append {first : String} {c : Char} (starts : first.toList.head? = some c)
    (rest : String) : (first ++ rest).toList.head? = some c := by
  rw [String.toList_append, List.head?_append, starts]
  rfl

/-- The two sorts of messages differ in their first letters, whatever the names are. -/
theorem DefinitionError.duplicateMethod_message_ne (name : String) (source : CompileError) :
    (duplicateMethod name).message ≠ (compile source).message := by
  have taken : (duplicateMethod name).message.toList.head? = some 'd' :=
    head?_toList_append (head?_toList_append rfl _) _
  have unsound : (compile source).message.toList.head? = some 'q' := by
    cases source
    all_goals
      repeat apply head?_toList_append
      rfl
  intro same
  rw [same, unsound] at taken
  cases taken

namespace Command.FileReport

open Verdict

variable {content : Text} {repository : RepositoryDefinition}

/-- The first error of a check is the refusal of the first declaration that cannot be defined. -/
theorem head?_errors (file : String) {before after : List MethodDefinition}
    {definition : MethodDefinition} {reason : DefinitionError}
    (parsed : RepositoryDefinition.ofJsonText content = .ok repository)
    (split : repository.methods = before ++ definition :: after)
    (accepted : refused (all [] before) = [])
    (verdict : definition.verdict (seenAfter [] before) = .error reason) :
    (ofContent file content).errors.head? = some reason.message := by
  have errors : (ofContent file content).errors =
      (refused (all [] repository.methods)).map DefinitionError.message := by
    rw [ofContent_of_parsed parsed]
  rw [errors, split, all_append, refused_append, accepted, all, verdict]
  rfl

end Command.FileReport

/-- The first error that a check reports of a content that does not load. It is the message of the
error of loading, unless the declaration has two faults, a name that is taken and a template that
does not compile; then the check says that the name is taken, and loading why the declaration does
not compile. -/
theorem first_error_of_check (file : String) {content : Text} {repository : RepositoryDefinition}
    {registry : Registry} {error : DefinitionError}
    (parsed : RepositoryDefinition.ofJsonText content = .ok repository)
    (failed : Registry.empty.loadJson content = (registry, .error error)) :
    ∃ before definition after, repository.methods = before ++ definition :: after ∧
      before.foldlM Registry.define .empty = .ok registry ∧
      registry.define definition = .error error ∧
      ((Command.FileReport.ofContent file content).errors.head? = some error.message ↔
        ¬ definition.TwiceAtFault before) ∧
      (definition.TwiceAtFault before →
        (Command.FileReport.ofContent file content).errors.head? =
          some (DefinitionError.duplicateMethod definition.name).message ∧
        ∃ source, error = .compile source) := by
  rw [Registry.loadJson_of_parsed parsed] at failed
  obtain ⟨before, definition, after, split, defined, refused⟩ :=
    Registry.load_eq_error_iff.mp failed
  have known : ∀ name, name ∈ ([] : List String) ↔ name ∈ Registry.empty.methods := by
    simp [Registry.empty]
  obtain ⟨accepted, names⟩ := Registry.refused_of_defined known defined
  have faults : definition.TwiceAtFault before ↔ definition.name ∈ Verdict.seenAfter [] before ∧
      ∀ method, Method.compile definition ≠ .ok method := by
    rw [Verdict.mem_seenAfter_nil_iff]
    exact ⟨fun both => ⟨both.taken, both.unsound⟩, fun both => ⟨both.1, both.2⟩⟩
  refine ⟨before, definition, after, split, defined, refused, ?_⟩
  rw [faults]
  rcases Registry.verdict_of_define_eq_error (names _) refused with
    ⟨verdict, single⟩ | ⟨both, verdict, source, rfl⟩
  · have first := Command.FileReport.head?_errors file parsed split accepted verdict
    exact ⟨⟨fun _ => single, fun _ => first⟩, fun both => absurd both single⟩
  · have first := Command.FileReport.head?_errors file parsed split accepted verdict
    refine ⟨⟨fun same => ?_, fun single => absurd both single⟩, fun _ => ⟨first, source, rfl⟩⟩
    rw [first] at same
    exact absurd (Option.some.inj same) (DefinitionError.duplicateMethod_message_ne _ _)

def unsoundContent : Text :=
  "\x7b\"methods\":[[\"a\",\"?0\",[\"scalar\"]],[\"b\",\"?1\"],[\"c\",\"?0\"]]\x7d".toList

def unsoundRepository : RepositoryDefinition :=
  ⟨[⟨"a", ['?', '0'], [.scalar]⟩, ⟨"b", ['?', '1'], []⟩, ⟨"c", ['?', '0'], []⟩]⟩

theorem first_error_of_check_unsound :
    RepositoryDefinition.ofJsonText unsoundContent = .ok unsoundRepository ∧
    (Registry.empty.loadJson unsoundContent).2 = .error (.compile (.indexOutOfRange "b" 1 0)) ∧
    (Command.FileReport.ofContent "unsound" unsoundContent).errors.head? =
      some "query method 'b': placeholder ?1 is out of range: 0 parameters declared" := by
  have parsed : RepositoryDefinition.ofJsonText unsoundContent = .ok unsoundRepository := by cbv
  have ended : (Registry.empty.loadJson unsoundContent).2 =
      .error (.compile (.indexOutOfRange "b" 1 0)) := by
    decide +kernel
  obtain ⟨registry, failed⟩ : ∃ registry, Registry.empty.loadJson unsoundContent =
      (registry, .error (.compile (.indexOutOfRange "b" 1 0))) := by
    rw [← ended]
    exact ⟨_, (Prod.eta _).symm⟩
  obtain ⟨before, definition, after, split, _, _, same, _⟩ :=
    first_error_of_check "unsound" parsed failed
  have distinct : (unsoundRepository.methods.map (·.name)).Nodup := by decide
  have single : ¬ definition.TwiceAtFault before := by
    rintro ⟨⟨earlier, member, taken⟩, _⟩
    rw [split, List.map_append, List.nodup_append] at distinct
    exact distinct.2.2 _ (List.mem_map_of_mem member) _ List.mem_cons_self taken
  refine ⟨parsed, ended, (same.mpr single).trans ?_⟩
  decide +kernel

def twiceAtFaultContent : Text :=
  "\x7b\"methods\":[[\"a\",\"\"],[\"a\",\"?0\"]]\x7d".toList

theorem first_errors_differ :
    RepositoryDefinition.ofJsonText twiceAtFaultContent =
      .ok ⟨[⟨"a", [], []⟩, ⟨"a", ['?', '0'], []⟩]⟩ ∧
    ∃ error, (Registry.empty.loadJson twiceAtFaultContent).2 = .error error ∧
      error.message = "query method 'a': placeholder ?0 is out of range: 0 parameters declared" ∧
      (Command.FileReport.ofContent "twice" twiceAtFaultContent).errors.head? =
        some "duplicate query method 'a'" ∧
      (Command.FileReport.ofContent "twice" twiceAtFaultContent).errors.head? ≠
        some error.message := by
  have parsed : RepositoryDefinition.ofJsonText twiceAtFaultContent =
      .ok ⟨[⟨"a", [], []⟩, ⟨"a", ['?', '0'], []⟩]⟩ := by
    cbv
  have ended : (Registry.empty.loadJson twiceAtFaultContent).2 =
      .error (.compile (.indexOutOfRange "a" 0 0)) := by
    decide +kernel
  have first : (Command.FileReport.ofContent "twice" twiceAtFaultContent).errors.head? =
      some "duplicate query method 'a'" := by
    decide +kernel
  refine ⟨parsed, _, ended, by decide +kernel, first, ?_⟩
  rw [first]
  decide +kernel

end QueryTemplate
