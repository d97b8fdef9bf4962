import QueryTemplate.Command.Program
import QueryTemplate.Proofs.Registration

/-! Checking a file and loading it.

A declaration has one verdict in either: refused if its name was seen before or if it does not
compile, accepted otherwise. Checking reports all verdicts; loading succeeds when none of them is a
refusal.
-/

set_option autoImplicit false

namespace QueryTemplate

/-- What becomes of a declaration after others of the given names. -/
def MethodDefinition.verdict (seen : List String) (definition : MethodDefinition) :
    Except DefinitionError Method :=
  if definition.name ∈ seen then .error (.duplicateMethod definition.name)
  else (Method.compile definition).mapError .compile

namespace Verdict

def all (seen : List String) : List MethodDefinition → List (Except DefinitionError Method)
  | [] => []
  | definition :: rest => definition.verdict seen :: all (definition.name :: seen) rest

def accepted (verdicts : List (Except DefinitionError Method)) : List Method :=
  verdicts.filterMap fun
    | .ok method => some method
    | .error _ => none

def refused (verdicts : List (Except DefinitionError Method)) : List DefinitionError :=
  verdicts.filterMap fun
    | .ok _ => none
    | .error error => some error

variable {seen : List String} {definition : MethodDefinition} {method : Method}
  {verdicts : List (Except DefinitionError Method)} {error : DefinitionError}

@[simp] theorem accepted_nil : accepted [] = [] := rfl

@[simp] theorem accepted_ok : accepted (.ok method :: verdicts) = method :: accepted verdicts := rfl

@[simp] theorem accepted_error : accepted (.error error :: verdicts) = accepted verdicts := rfl

@[simp] theorem refused_nil : refused [] = [] := rfl

@[simp] theorem refused_ok : refused (.ok method :: verdicts) = refused verdicts := rfl

@[simp] theorem refused_error : refused (.error error :: verdicts) = error :: refused verdicts := rfl

theorem verdict_eq_ok_iff :
    definition.verdict seen = .ok method ↔
      definition.name ∉ seen ∧ Method.compile definition = .ok method := by
  by_cases known : definition.name ∈ seen
  · simp [MethodDefinition.verdict, known]
  · cases compiled : Method.compile definition <;>
      simp [MethodDefinition.verdict, known, compiled, Except.mapError]

theorem length_all (seen : List String) (definitions : List MethodDefinition) :
    (all seen definitions).length = definitions.length := by
  induction definitions generalizing seen with
  | nil => rfl
  | cons definition rest ih => simp [all, ih]

theorem getElem?_all_eq_ok_iff {definitions : List MethodDefinition} {index : Nat}
    (found : definitions[index]? = some definition) :
    (all seen definitions)[index]? = some (.ok method) ↔
      (definition.name ∉ seen ∧
        ∀ earlier ∈ definitions.take index, earlier.name ≠ definition.name) ∧
      Method.compile definition = .ok method := by
  induction definitions generalizing seen index with
  | nil => simp at found
  | cons first rest ih =>
    cases index with
    | zero =>
      obtain rfl : first = definition := by simpa using found
      simp [all, verdict_eq_ok_iff]
    | succ index =>
      -- The first declaration counts as seen for the rest, and is one of those before.
      have later : rest[index]? = some definition := by simpa using found
      rw [all, List.getElem?_cons_succ, ih later, List.take_succ_cons, List.forall_mem_cons,
        List.mem_cons, not_or]
      constructor
      · rintro ⟨⟨⟨other, fresh⟩, earlier⟩, compiled⟩
        exact ⟨⟨fresh, Ne.symm other, earlier⟩, compiled⟩
      · rintro ⟨⟨fresh, other, earlier⟩, compiled⟩
        exact ⟨⟨⟨Ne.symm other, fresh⟩, earlier⟩, compiled⟩

end Verdict

/-! ## Checking reports the verdicts -/

namespace Command.FileReport

open Verdict

variable {seen : List String} {definitions : List MethodDefinition}

theorem add_eq (report : FileReport) (seen : List String) (definition : MethodDefinition) :
    report.add seen definition =
      { report with
        methods := report.methods ++ (accepted [definition.verdict seen]).map .ofMethod
        warnings := report.warnings ++
          (accepted [definition.verdict seen]).flatMap fun method =>
            method.warnings.map Warning.message
        errors := report.errors ++
          (refused [definition.verdict seen]).map DefinitionError.message } := by
  by_cases known : definition.name ∈ seen
  · have verdict : definition.verdict seen = .error (.duplicateMethod definition.name) :=
      if_pos known
    rw [add, if_pos (List.contains_iff_mem.mpr known), verdict]
    simp
  · have fresh : ¬ seen.contains definition.name := by rwa [List.contains_iff_mem]
    have verdict : definition.verdict seen = (Method.compile definition).mapError .compile :=
      if_neg known
    rw [add, if_neg fresh, verdict]
    cases Method.compile definition with
    | ok method => simp [Except.mapError]
    | error source =>
      have same : (DefinitionError.compile source).message = source.message := rfl
      simp [Except.mapError, same]

theorem addAll_eq (report : FileReport) (seen : List String)
    (definitions : List MethodDefinition) :
    report.addAll seen definitions =
      { report with
        methods := report.methods ++ (accepted (all seen definitions)).map .ofMethod
        warnings := report.warnings ++
          (accepted (all seen definitions)).flatMap fun method =>
            method.warnings.map Warning.message
        errors := report.errors ++
          (refused (all seen definitions)).map DefinitionError.message } := by
  induction definitions generalizing report seen with
  | nil => simp [addAll, all]
  | cons definition rest ih =>
    rw [addAll, ih, add_eq, all]
    cases definition.verdict seen <;> simp

end Command.FileReport

/-! ## Loading stops at the first refusal -/

namespace Registry

open Verdict

variable {registry : Registry} {seen : List String}

theorem define_of_accepted {definition : MethodDefinition} {method : Method}
    (known : ∀ name, name ∈ seen ↔ name ∈ registry.methods)
    (accepted : definition.verdict seen = .ok method) :
    method.name = definition.name ∧ method.Compiled ∧
    ∃ changed, registry.insert method = .ok changed ∧ registry.define definition = .ok changed := by
  obtain ⟨fresh, compiled⟩ := verdict_eq_ok_iff.mp accepted
  obtain ⟨valid, rfl⟩ := Method.compile_eq_ok_iff.mp compiled
  have inserted := insert_eq_ok_iff.mpr ⟨mt (known _).mpr fresh, rfl⟩
  exact ⟨rfl, valid, _, inserted, define_eq_ok_iff.mpr ⟨method, compiled, inserted⟩⟩

theorem define_of_refused {definition : MethodDefinition} {error : DefinitionError}
    (known : ∀ name, name ∈ seen ↔ name ∈ registry.methods)
    (refused : definition.verdict seen = .error error) :
    ∃ other, registry.define definition = .error other := by
  cases defined : registry.define definition with
  | error other => exact ⟨other, rfl⟩
  | ok changed =>
    obtain ⟨method, compiled, inserted⟩ := define_eq_ok_iff.mp defined
    obtain ⟨fresh, _⟩ := insert_eq_ok_iff.mp inserted
    obtain ⟨_, rfl⟩ := Method.compile_eq_ok_iff.mp compiled
    have accepted := verdict_eq_ok_iff.mpr ⟨mt (known _).mp fresh, compiled⟩
    rw [refused] at accepted
    cases accepted

/-- A registry that holds the names seen before loads declarations if none of them is refused, and
then it holds the accepted methods behind its own. -/
theorem load_follows_verdicts (coherent : registry.Coherent)
    (known : ∀ name, name ∈ seen ↔ name ∈ registry.methods) (definitions : List MethodDefinition) :
    (refused (all seen definitions) = [] ∧ ∃ changed, registry.load definitions = (changed, .ok ()) ∧
      changed.toList = registry.toList ++ accepted (all seen definitions)) ∨
    (refused (all seen definitions) ≠ [] ∧
      ∃ changed error, registry.load definitions = (changed, .error error)) := by
  -- Until something is refused, the names that were seen are the names that are registered.
  induction definitions generalizing registry seen with
  | nil => exact .inl ⟨rfl, registry, rfl, by simp [all]⟩
  | cons definition rest ih =>
    cases verdict : definition.verdict seen with
    | error error =>
      obtain ⟨other, failed⟩ := define_of_refused known verdict
      exact .inr ⟨by simp [all, verdict], registry, other, by simp [load, failed]⟩
    | ok method =>
      obtain ⟨same, compiled, reached, inserted, defined⟩ := define_of_accepted known verdict
      have known : ∀ name, name ∈ definition.name :: seen ↔ name ∈ reached.methods := by
        intro name
        rw [mem_methods_of_insert inserted, same, List.mem_cons, known]
      have step : registry.load (definition :: rest) = reached.load rest := by simp [load, defined]
      rw [all, verdict, refused_ok, accepted_ok, step]
      rcases ih (coherent.of_insert compiled inserted) known with ⟨none_refused, changed, loaded, held⟩ | failed
      · refine .inl ⟨none_refused, changed, loaded, ?_⟩
        rw [held, coherent.toList_of_insert inserted, List.append_assoc, List.singleton_append]
      · exact .inr failed

theorem load_empty_cases (definitions : List MethodDefinition) :
    (refused (all [] definitions) = [] ∧ ∃ loaded, empty.load definitions = (loaded, .ok ()) ∧
      loaded.toList = accepted (all [] definitions)) ∨
    (refused (all [] definitions) ≠ [] ∧
      ∃ loaded error, empty.load definitions = (loaded, .error error)) := by
  have known : ∀ name, name ∈ ([] : List String) ↔ name ∈ empty.methods := by simp [empty]
  exact load_follows_verdicts coherent_empty known definitions

theorem load_empty_eq_ok_iff {definitions : List MethodDefinition} :
    (∃ loaded, empty.load definitions = (loaded, .ok ())) ↔ refused (all [] definitions) = [] := by
  rcases load_empty_cases definitions with
    ⟨none_refused, loaded, ended, _⟩ | ⟨some_refused, loaded, error, ended⟩
  · simp [none_refused, ended]
  · simp [some_refused, ended]

theorem toList_of_load_empty {definitions : List MethodDefinition} {loaded : Registry}
    (ended : empty.load definitions = (loaded, .ok ())) :
    loaded.toList = accepted (all [] definitions) := by
  rcases load_empty_cases definitions with ⟨_, same, whole, held⟩ | ⟨_, _, _, failed⟩
  · obtain rfl : same = loaded := by simpa [whole] using ended
    exact held
  · rw [failed] at ended
    cases ended

theorem loadJson_of_parsed {text : Text} {repository : RepositoryDefinition}
    (parsed : RepositoryDefinition.ofJsonText text = .ok repository) :
    registry.loadJson text = registry.load repository.methods := by
  rw [loadJson, parsed]

theorem ofFile_of_read {read : FileReader} {path : String} {text : Text}
    (present : read path = .ok text) :
    (∃ registry, ofFile read path = .ok registry) ↔
      ∃ registry, empty.loadJson text = (registry, .ok ()) := by
  cases outcome : empty.loadJson text with
  | mk registry result => cases result <;> simp [ofFile, loadFile, present, outcome]

end Registry

namespace Command

open Verdict

namespace FileReport

variable {file : String} {content : Text} {repository : RepositoryDefinition}

theorem ofContent_of_parsed (parsed : RepositoryDefinition.ofJsonText content = .ok repository) :
    ofContent file content =
      { file
        methods := (accepted (all [] repository.methods)).map .ofMethod
        warnings := (accepted (all [] repository.methods)).flatMap fun method =>
          method.warnings.map Warning.message
        errors := (refused (all [] repository.methods)).map DefinitionError.message } := by
  simp [ofContent, parsed, addAll_eq]

theorem errors_ofContent_eq_nil_iff :
    (ofContent file content).errors = [] ↔
      ∃ registry, Registry.empty.loadJson content = (registry, .ok ()) := by
  cases parsed : RepositoryDefinition.ofJsonText content with
  | error error => simp [ofContent, Registry.loadJson, parsed]
  | ok repository =>
    rw [ofContent_of_parsed parsed, Registry.loadJson_of_parsed parsed,
      Registry.load_empty_eq_ok_iff, List.map_eq_nil_iff]

theorem ofContent_of_loaded {registry : Registry}
    (loaded : Registry.empty.loadJson content = (registry, .ok ())) :
    (ofContent file content).methods = registry.toList.map .ofMethod ∧
      (ofContent file content).warnings = registry.warnings.map Warning.message := by
  cases parsed : RepositoryDefinition.ofJsonText content with
  | error error => simp [Registry.loadJson, parsed] at loaded
  | ok repository =>
    rw [Registry.loadJson_of_parsed parsed] at loaded
    rw [ofContent_of_parsed parsed, Registry.warnings, Registry.toList_of_load_empty loaded,
      List.map_flatMap]
    exact ⟨rfl, rfl⟩

end FileReport

theorem check_of_checkAll {read : FileReader} {files : List String} {reports : List FileReport}
    (reported : checkAll read files = .ok reports) (json strict : Bool) :
    (Request.check ⟨files, json, strict⟩).run read =
      .ok ⟨if atFault strict reports then dataError else success,
        if json then (Json.array (reports.map FileReport.toJson)).pretty ++ ['\n']
        else reports.flatMap FileReport.render, []⟩ := by
  simp only [Request.run, check, reported, Bind.bind, Except.bind]

/-- A single file that can be read ends a check well if it is reported without errors. -/
theorem code_check_eq_success_iff {read : FileReader} {file : String} {content : Text}
    (present : read file = .ok content) (json : Bool) :
    (finish read (.ok (.check ⟨[file], json, false⟩))).code = success ↔
      (FileReport.ofContent file content).errors = [] := by
  have reports : checkAll read [file] = .ok [.ofContent file content] := by
    simp [checkAll, present, Except.map]
  rw [finish, conclude_of_run (check_of_checkAll reports json false)]
  cases errors : (FileReport.ofContent file content).errors <;>
    simp [atFault, errors, success, dataError]

end Command

/-- Checking and loading agree on every file: a check reports no errors exactly if the content
loads, and then it lists the methods of the registry and its warnings. In any case it lists the
declarations that are the first of their name and compile, with one error for each of the others. -/
theorem check_agrees_with_loading (file : String) (content : Text) :
    ((Command.FileReport.ofContent file content).errors = [] ↔
      ∃ registry, Registry.empty.loadJson content = (registry, .ok ())) ∧
    (∀ registry, Registry.empty.loadJson content = (registry, .ok ()) →
      (Command.FileReport.ofContent file content).methods =
        registry.toList.map (fun method =>
          ⟨method.name, method.params, method.template.placeholders.length⟩) ∧
      (Command.FileReport.ofContent file content).warnings =
        registry.warnings.map Warning.message) ∧
    (∀ repository, RepositoryDefinition.ofJsonText content = .ok repository →
      ∃ verdicts : List (Except DefinitionError Method),
        verdicts.length = repository.methods.length ∧
        (∀ (index : Nat) (definition : MethodDefinition),
          repository.methods[index]? = some definition → ∀ method,
            verdicts[index]? = some (.ok method) ↔
              (∀ earlier ∈ repository.methods.take index, earlier.name ≠ definition.name) ∧
              Method.compile definition = .ok method) ∧
        (Command.FileReport.ofContent file content).methods =
          (Verdict.accepted verdicts).map .ofMethod ∧
        (Command.FileReport.ofContent file content).errors =
          (Verdict.refused verdicts).map DefinitionError.message) ∧
    (∀ (read : FileReader), read file = .ok content →
      (∀ json, (Command.finish read (.ok (.check ⟨[file], json, false⟩))).code = Command.success ↔
        ∃ registry, Registry.ofFile read file = .ok registry) ∧
      ∀ error, Registry.ofFile read file = .error error →
        ∀ options : Command.InvokeOptions, options.repository = file →
          Command.invoke read options = .error (Command.loadReport read file error)) := by
  refine ⟨Command.FileReport.errors_ofContent_eq_nil_iff,
    fun _ => Command.FileReport.ofContent_of_loaded, ?_, ?_⟩
  · intro repository parsed
    refine ⟨Verdict.all [] repository.methods, Verdict.length_all _ _, ?_, ?_⟩
    · intro index definition found method
      have settled : (Verdict.all [] repository.methods)[index]? = some (.ok method) ↔ _ :=
        Verdict.getElem?_all_eq_ok_iff found
      simpa using settled
    · rw [Command.FileReport.ofContent_of_parsed parsed]
      exact ⟨rfl, rfl⟩
  · intro read present
    refine ⟨?_, ?_⟩
    · intro json
      rw [Command.code_check_eq_success_iff present, Registry.ofFile_of_read present]
      exact Command.FileReport.errors_ofContent_eq_nil_iff
    · rintro error failed options rfl
      rw [Command.invoke, failed]

def mixedContent : Text :=
  ("\x7b\"methods\":[[\"a\",\"?0\",[\"string\",\"scalar\"]],[\"a\",\"?9\"]," ++
    "[\"b\",\"?0\"],[\"c\",\"\"]]\x7d").toList

def mixedRepository : RepositoryDefinition :=
  ⟨[⟨"a", ['?', '0'], [.string, .scalar]⟩, ⟨"a", ['?', '9'], []⟩, ⟨"b", ['?', '0'], []⟩,
    ⟨"c", [], []⟩]⟩

def soundContent : Text :=
  "\x7b\"methods\":[[\"c\",\"\"],[\"a\",\"?0\",[\"string\",\"scalar\"]]]\x7d".toList

theorem check_agrees_with_loading_mixed :
    (∃ registry, Registry.empty.loadJson soundContent = (registry, .ok ()) ∧
      registry.toList.map (fun method =>
        (⟨method.name, method.params, method.template.placeholders.length⟩ : Command.MethodReport)) =
          [⟨"c", [], 0⟩, ⟨"a", [.string, .scalar], 1⟩]) ∧
    (∃ verdicts : List (Except DefinitionError Method), verdicts.length = 4 ∧
      (∀ method, verdicts[1]? ≠ some (.ok method)) ∧
      (Verdict.accepted verdicts).map Command.MethodReport.ofMethod =
        [⟨"a", [.string, .scalar], 1⟩, ⟨"c", [], 0⟩] ∧
      (Verdict.refused verdicts).map DefinitionError.message =
        ["duplicate query method 'a'",
          "query method 'b': placeholder ?0 is out of range: 0 parameters declared"]) ∧
    (∃ error, Registry.ofFile (fun _ => .ok mixedContent) "mixed" = .error error ∧
      (Command.finish (fun _ => .ok mixedContent) (.ok (.check ⟨["mixed"], false, false⟩))).code ≠
        Command.success ∧
      ∀ options : Command.InvokeOptions, options.repository = "mixed" →
        Command.invoke (fun _ => .ok mixedContent) options =
          .error (Command.loadReport (fun _ => .ok mixedContent) "mixed" error)) := by
  have sound : Command.FileReport.ofContent "sound" soundContent =
      ⟨"sound", [⟨"c", [], 0⟩, ⟨"a", [.string, .scalar], 1⟩],
        ["query method 'a': parameter 1 is never referenced"], []⟩ := by
    decide +kernel
  have mixed : Command.FileReport.ofContent "mixed" mixedContent =
      ⟨"mixed", [⟨"a", [.string, .scalar], 1⟩, ⟨"c", [], 0⟩],
        ["query method 'a': parameter 1 is never referenced"],
        ["duplicate query method 'a'",
          "query method 'b': placeholder ?0 is out of range: 0 parameters declared"]⟩ := by
    decide +kernel
  have parsed : RepositoryDefinition.ofJsonText mixedContent = .ok mixedRepository := by cbv
  obtain ⟨loads, listed, _, _⟩ := check_agrees_with_loading "sound" soundContent
  obtain ⟨_, _, judged, ended⟩ := check_agrees_with_loading "mixed" mixedContent
  rw [sound] at loads listed
  rw [mixed] at judged
  refine ⟨?_, ?_, ?_⟩
  · obtain ⟨registry, loaded⟩ := loads.mp rfl
    exact ⟨registry, loaded, (listed registry loaded).1.symm⟩
  · obtain ⟨verdicts, counted, first, methods, errors⟩ := judged mixedRepository parsed
    refine ⟨verdicts, counted, ?_, methods.symm, errors.symm⟩
    intro method accepted
    obtain ⟨fresh, _⟩ := (first 1 ⟨"a", ['?', '9'], []⟩ rfl method).mp accepted
    exact fresh ⟨"a", ['?', '0'], [.string, .scalar]⟩ (by decide) rfl
  · obtain ⟨codes, stops⟩ := ended (fun _ => .ok mixedContent) rfl
    have failing : (Command.finish (fun _ => .ok mixedContent)
        (.ok (.check ⟨["mixed"], false, false⟩))).code ≠ Command.success := by
      rw [Ne, Command.code_check_eq_success_iff rfl, mixed]
      decide
    cases loaded : Registry.ofFile (fun _ => .ok mixedContent) "mixed" with
    | ok registry => exact absurd ((codes false).mpr ⟨registry, loaded⟩) failing
    | error error => exact ⟨error, rfl, failing, stops error loaded⟩

end QueryTemplate
