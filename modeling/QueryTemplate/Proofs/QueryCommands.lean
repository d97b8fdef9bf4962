import QueryTemplate.Proofs.CommandLine
import QueryTemplate.Proofs.Registration

/-! The two commands that make queries.

One is given a template and arguments, the other a repository file, the name of a method and raw
values. They meet in the query of the method on the values that the raw texts stand for.
-/

set_option autoImplicit false

namespace QueryTemplate

/-- Raw texts that stand for values under kinds, one for each kind. -/
inductive ReadAs : List Kind → List Text → List Value → Prop where
  | nil : ReadAs [] [] []
  | cons {kind : Kind} {raw : Text} {value : Value} {kinds : List Kind} {raws : List Text}
    {values : List Value} (first : Value.ofWord kind raw = .ok value)
    (rest : ReadAs kinds raws values) : ReadAs (kind :: kinds) (raw :: raws) (value :: values)

namespace ReadAs

variable {kinds : List Kind} {raws : List Text} {values : List Value}

theorem length_raws (readAs : ReadAs kinds raws values) : raws.length = kinds.length := by
  induction readAs with
  | nil => rfl
  | cons _ _ ih => simp [ih]

theorem length_values (readAs : ReadAs kinds raws values) : values.length = kinds.length := by
  induction readAs with
  | nil => rfl
  | cons _ _ ih => simp [ih]

theorem readValues (readAs : ReadAs kinds raws values) :
    Command.readValues kinds raws = .ok values := by
  induction readAs with
  | nil => rfl
  | cons first _ ih => simp [Command.readValues, first, ih, bind, Except.bind]

theorem words (readAs : ReadAs kinds raws values) :
    List.Forall₂ (fun word argument => Argument.ofWord word.toList = .ok argument)
      (List.zipWith Argument.word kinds raws) (List.zipWith Argument.mk kinds values) := by
  induction readAs with
  | nil => exact .nil
  | cons first _ ih =>
    refine .cons ?_ ih
    rw [Argument.ofWord_word, first]
    rfl

end ReadAs

namespace Registry

theorem ofFile_eq_ok_iff {read : FileReader} {path : String} {registry : Registry} :
    ofFile read path = .ok registry ↔ empty.loadFile read path = (registry, .ok ()) := by
  unfold ofFile
  cases empty.loadFile read path with
  | mk reached result => cases result <;> simp

theorem ofFile_of_succeeds {read : FileReader} {path : String}
    (succeeds : (empty.loadFile read path).2 = .ok ()) :
    ofFile read path = .ok (empty.loadFile read path).1 :=
  ofFile_eq_ok_iff.mpr (Prod.ext rfl succeeds)

theorem coherent_of_ofFile {read : FileReader} {path : String} {registry : Registry}
    (loaded : ofFile read path = .ok registry) : registry.Coherent := by
  have file : (Change.loadFile path).Compiled := trivial
  have grown := (coherent_empty.of_grows (apply_grows read empty file)).1
  rwa [apply, ofFile_eq_ok_iff.mp loaded] at grown

namespace Coherent

variable {registry : Registry} {name : String} {method : Method} {values : List Value}

theorem createQuery_eq_bind (coherent : registry.Coherent) (found : registry.get? name = some method)
    (same : values.length = method.params.length) :
    ∃ template, Template.parse method.source = .ok template ∧
      registry.createQuery name values =
        template.bind (List.zipWith Argument.mk method.params values) := by
  refine ⟨method.template, (coherent.compiled name method found).parsed, ?_⟩
  rw [createQuery, found]
  exact Method.createQuery_eq_bind same

theorem createQuery_of_length_ne (coherent : registry.Coherent)
    (found : registry.get? name = some method) (differ : values.length ≠ method.params.length) :
    registry.createQuery name values =
      .error (.argumentCount name method.params.length values.length) := by
  rw [createQuery, found, ← coherent.named name method found]
  exact Method.createQuery_of_ne differ

end Coherent

end Registry

namespace Command

/-! ## How the commands end -/

theorem printQuery_cases (result : Except BindError Text) :
    (∃ query, result = .ok query ∧
      (printQuery result false).stdout = query ++ ['\n'] ∧ (printQuery result false).code = 0) ∨
    ∃ error, result = .error error ∧
      (printQuery result false).stdout = [] ∧ (printQuery result false).code = 65 := by
  cases result with
  | ok query => exact .inl ⟨query, rfl, rfl, rfl⟩
  | error error => exact .inr ⟨error, rfl, rfl, rfl⟩

theorem stdout_printQuery {result : Except BindError Text} {json : Bool}
    (failed : (printQuery result json).code ≠ 0) : (printQuery result json).stdout = [] := by
  cases result with
  | ok query => exact absurd rfl failed
  | error error => rfl

theorem code_printQuery_ne_failure (result : Except BindError Text) (json : Bool) :
    (printQuery result json).code ≠ 70 := by
  cases result <;> simp [printQuery, success, dataError]

variable {read : FileReader} {template : Text} {parsed : Template} {arguments : List Argument}
  {path name : String} {registry : Registry} {method : Method} {raws : List Text}
  {values : List Value}

/-- All that a request for a query notes is logged. -/
theorem Request.exists_events (read : FileReader) {request : Request}
    (other : ∀ options, request ≠ .check options) :
    ∃ events : List LogEvent, request.notices read = events.map .event := by
  cases request with
  | check options => exact absurd rfl (other options)
  | bind options => exact ⟨bindEvents options, rfl⟩
  | invoke options => exact ⟨invokeEvents read options, rfl⟩

theorem flatMap_silent (events : List LogEvent) (verbose : Bool) :
    (events.map Notice.event).flatMap (Console.silent.notice verbose) = [] := by
  simp [Console.notice, Console.logs, Console.silent]

theorem runProgram_of_run {words : List String} {request : Request} {output : Output}
    (other : ∀ options, request ≠ .check options)
    (asked : Request.ofWords words = .ok request) (ended : request.run read = .ok output) :
    runProgram read words = output := by
  obtain ⟨events, noted⟩ := Request.exists_events read other
  rw [runProgram, asked, finish, conclude_of_run ended, noted, flatMap_silent, List.nil_append]

theorem runProgram_bind {words : List String} {options : BindOptions} {output : Output}
    (asked : Request.ofWords words = .ok (.bind options)) (ended : bind options = .ok output) :
    runProgram read words = output :=
  runProgram_of_run (fun _ same => by cases same) asked ended

theorem runProgram_invoke {words : List String} {options : InvokeOptions} {output : Output}
    (asked : Request.ofWords words = .ok (.invoke options))
    (ended : invoke read options = .ok output) : runProgram read words = output :=
  runProgram_of_run (fun _ same => by cases same) asked ended

theorem bind_of_parse (cut : Template.parse template = .ok parsed) (json : Bool) :
    bind ⟨template, arguments, json⟩ = .ok (printQuery (parsed.bind arguments) json) := by
  simp only [bind, cut]

theorem invoke_of_get?_eq_none (loaded : Registry.ofFile read path = .ok registry)
    (unknown : registry.get? name = none) (json : Bool) :
    invoke read ⟨path, name, raws, json⟩ =
      .ok (printQuery (.error (.methodNotFound name (suggestions name registry.order))) json) := by
  simp only [invoke, loaded, unknown, Registry.createQuery]

theorem invoke_of_length_ne (loaded : Registry.ofFile read path = .ok registry)
    (found : registry.get? name = some method) (differ : raws.length ≠ method.params.length)
    (json : Bool) :
    invoke read ⟨path, name, raws, json⟩ =
      .ok (printQuery (.error (.argumentCount name method.params.length raws.length)) json) := by
  simp only [invoke, loaded, found, if_pos differ.symm]

theorem invoke_of_readAs (loaded : Registry.ofFile read path = .ok registry)
    (found : registry.get? name = some method) (readAs : ReadAs method.params raws values)
    (json : Bool) :
    invoke read ⟨path, name, raws, json⟩ = .ok (printQuery (registry.createQuery name values) json) := by
  have same : ¬ method.params.length ≠ raws.length := by simp [readAs.length_raws]
  simp only [invoke, loaded, found, if_neg same, readAs.readValues, Registry.createQuery]

theorem exists_outcome_invoke (read : FileReader) (path name : String) (values : List Text) :
    ∃ outcome : Except Report (Except BindError Text),
      ∀ json, invoke read ⟨path, name, values, json⟩ = outcome.map (printQuery · json) := by
  cases loaded : Registry.ofFile read path with
  | error error =>
    exact ⟨.error (loadReport read path error), fun json => by simp only [invoke, loaded, Except.map]⟩
  | ok registry =>
    cases found : registry.get? name with
    | none => exact ⟨.ok (.error _), fun json => invoke_of_get?_eq_none loaded found json⟩
    | some method =>
      by_cases differ : values.length ≠ method.params.length
      · exact ⟨.ok (.error _), fun json => invoke_of_length_ne loaded found differ json⟩
      · have same : ¬ method.params.length ≠ values.length := by rwa [ne_comm]
        cases meant : readValues method.params values with
        | error error =>
          exact ⟨.error (.plain error.message), fun json => by
            simp only [invoke, loaded, found, if_neg same, meant, Except.map]⟩
        | ok values =>
          exact ⟨.ok (method.createQuery values), fun json => by
            simp only [invoke, loaded, found, if_neg same, meant, Except.map]⟩

theorem invoke_cases (read : FileReader) (options : InvokeOptions) :
    (∃ report, invoke read options = .error report) ∨
      ∃ result, invoke read options = .ok (printQuery result options.json) := by
  obtain ⟨outcome, shown⟩ :=
    exists_outcome_invoke read options.repository options.method options.values
  cases outcome with
  | error report => exact .inl ⟨report, shown options.json⟩
  | ok result => exact .inr ⟨result, shown options.json⟩

theorem bind_cases (options : BindOptions) :
    (∃ error report, Template.parse options.template = .error error ∧
      bind options = .error report) ∨
      ∃ parsed, Template.parse options.template = .ok parsed ∧
        bind options = .ok (printQuery (parsed.bind options.arguments) options.json) := by
  cases cut : Template.parse options.template with
  | error error =>
    exact .inl ⟨error, .diagnostic (.ofParseError options.template error), rfl,
      by simp only [bind, cut]⟩
  | ok parsed => exact .inr ⟨parsed, rfl, bind_of_parse cut options.json⟩

theorem code_bind_eq_failure_iff {words : List String} {options : BindOptions}
    (asked : Request.ofWords words = .ok (.bind options)) :
    (runProgram read words).code = 70 ↔ ∃ error, Template.parse options.template = .error error := by
  rcases bind_cases options with ⟨error, report, cut, ended⟩ | ⟨parsed, cut, ended⟩
  · have ran : Request.run read (.bind options) = .error report := ended
    rw [runProgram, asked, finish, conclude_of_report ran]
    simp [cut, failure]
  · rw [runProgram_bind asked ended]
    simp [cut, code_printQuery_ne_failure]

theorem run_cases (read : FileReader) {request : Request}
    (other : ∀ options, request ≠ .check options) :
    (∃ report, request.run read = .error report) ∨
      ∃ result json, request.run read = .ok (printQuery result json) := by
  cases request with
  | check options => exact absurd rfl (other options)
  | bind options =>
    rcases bind_cases options with ⟨_, report, _, ended⟩ | ⟨parsed, _, ended⟩
    · exact .inl ⟨report, ended⟩
    · exact .inr ⟨parsed.bind options.arguments, options.json, ended⟩
  | invoke options =>
    rcases invoke_cases read options with ⟨report, ended⟩ | ⟨result, ended⟩
    · exact .inl ⟨report, ended⟩
    · exact .inr ⟨result, options.json, ended⟩

theorem stdout_eq_nil {words : List String}
    (other : ∀ options, Request.ofWords words ≠ .ok (.check options))
    (failed : (runProgram read words).code ≠ 0) : (runProgram read words).stdout = [] := by
  unfold runProgram at failed ⊢
  cases asked : Request.ofWords words with
  | error refusal =>
    rw [asked] at failed
    cases refusal with
    | versionAsked => exact absurd rfl failed
    | _ => rfl
  | ok request =>
    have noCheck : ∀ options, request ≠ .check options := by
      rintro options rfl
      exact other options asked
    rw [asked] at failed
    rcases run_cases read noCheck with ⟨report, ended⟩ | ⟨result, json, ended⟩
    · rw [finish, conclude_of_report ended]
    · rw [finish, conclude_of_run ended] at failed ⊢
      exact stdout_printQuery failed

end Command

open Command in
/-- The two commands that make queries agree with each other and with the library. For a method of a
file that loads and raw texts that stand for values, both end with the query of the method, or with
nothing printed and an error of the data. A name that is unknown and a wrong number of values are
refused as the library refuses them, whatever the raw texts are. -/
theorem commands_agree_with_createQuery (read : FileReader) :
    (∀ path registry, Registry.ofFile read path = .ok registry →
      (∀ name method, registry.get? name = some method →
        (∀ raws values, ReadAs method.params raws values →
          Request.ofWords
              (bindLine method.source (List.zipWith Argument.word method.params raws)) =
            .ok (.bind ⟨method.source, List.zipWith Argument.mk method.params values, false⟩) ∧
          ∀ invoking binding,
            Request.ofWords invoking = .ok (.invoke ⟨path, name, raws, false⟩) →
            Request.ofWords binding =
              .ok (.bind ⟨method.source, List.zipWith Argument.mk method.params values, false⟩) →
            runProgram read invoking = runProgram read binding ∧
            ((∃ query, registry.createQuery name values = .ok query ∧
                (runProgram read binding).stdout = query ++ ['\n'] ∧
                (runProgram read binding).code = 0) ∨
              ∃ error, registry.createQuery name values = .error error ∧
                (runProgram read binding).stdout = [] ∧ (runProgram read binding).code = 65)) ∧
        ∀ raws : List Text, raws.length ≠ method.params.length →
          (∀ values : List Value, values.length = raws.length →
            registry.createQuery name values =
              .error (.argumentCount name method.params.length raws.length)) ∧
          ∀ words json, Request.ofWords words = .ok (.invoke ⟨path, name, raws, json⟩) →
            runProgram read words =
              printQuery (.error (.argumentCount name method.params.length raws.length)) json ∧
            (runProgram read words).code = 65) ∧
      ∀ name, registry.get? name = none → ∃ near,
        (∀ values, registry.createQuery name values = .error (.methodNotFound name near)) ∧
        ∀ words raws json, Request.ofWords words = .ok (.invoke ⟨path, name, raws, json⟩) →
          runProgram read words = printQuery (.error (.methodNotFound name near)) json ∧
          (runProgram read words).code = 65) ∧
    (∀ path, path ≠ "" → ∀ name raws,
      Request.ofWords (invokeLine path name raws) = .ok (.invoke ⟨path, name, raws, false⟩)) ∧
    (∀ words options, Request.ofWords words = .ok (.bind options) →
      ((runProgram read words).code = 70 ↔
        ∃ error, Template.parse options.template = .error error)) ∧
    ∀ words, (∀ options, Request.ofWords words ≠ .ok (.check options)) →
      (runProgram read words).code ≠ 0 → (runProgram read words).stdout = [] := by
  refine ⟨?_, fun _ => ofWords_invokeLine, fun _ _ => code_bind_eq_failure_iff,
    fun _ => stdout_eq_nil⟩
  intro path registry loaded
  have coherent := Registry.coherent_of_ofFile loaded
  refine ⟨?_, ?_⟩
  · intro name method found
    refine ⟨?_, ?_⟩
    · intro raws values readAs
      refine ⟨ofWords_bindLine method.source readAs.words, ?_⟩
      intro invoking binding invoked bound
      -- Either command prints what the library makes of the values.
      obtain ⟨template, parsed, created⟩ := coherent.createQuery_eq_bind found readAs.length_values
      have first : runProgram read invoking = printQuery (registry.createQuery name values) false :=
        runProgram_invoke invoked (invoke_of_readAs loaded found readAs false)
      have second : runProgram read binding = printQuery (registry.createQuery name values) false :=
        runProgram_bind bound (created ▸ bind_of_parse parsed false)
      rw [first, second]
      exact ⟨rfl, printQuery_cases _⟩
    · intro raws differ
      refine ⟨?_, ?_⟩
      · intro values same
        rw [← same] at differ ⊢
        exact coherent.createQuery_of_length_ne found differ
      · intro words json asked
        have ended : runProgram read words = _ :=
          runProgram_invoke asked (invoke_of_length_ne loaded found differ json)
        rw [ended]
        exact ⟨rfl, rfl⟩
  · intro name unknown
    refine ⟨suggestions name registry.order, ?_, ?_⟩
    · intro values
      rw [Registry.createQuery, unknown]
    · intro words raws json asked
      have ended : runProgram read words = _ :=
        runProgram_invoke asked (invoke_of_get?_eq_none loaded unknown json)
      rw [ended]
      exact ⟨rfl, rfl⟩

def agesContent : Text :=
  "\x7b\"methods\":[[\"ages\",\"?1 years: \\\"?0\\\"\",[\"string\",\"scalar\"]]]\x7d".toList

def agesFile : FileReader := fun _ => .ok agesContent

def agesRegistry : Registry := (Registry.empty.loadFile agesFile "ages.json").1

def agesMethod : Method :=
  ⟨"ages", "?1 years: \"?0\"".toList, ⟨[.placeholder 1, .literal " years: \"".toList,
    .placeholder 0, .literal ['"']]⟩, [.string, .scalar]⟩

def overflowing : Text := '?' :: List.replicate 20 '9'

open Command in
theorem commands_agree_with_createQuery_ages :
    Registry.ofFile agesFile "ages.json" = .ok agesRegistry ∧
    (∃ output, output.stdout = "7 years: \"a=\\\"\"\n".toList ∧ output.code = 0 ∧
      runProgram agesFile (invokeLine "ages.json" "ages" ["a=\"".toList, ['7']]) = output ∧
      runProgram agesFile (bindLine agesMethod.source ["string=a=\"", "scalar=7"]) = output) ∧
    (∃ output, output.stdout = [] ∧ output.code = 65 ∧
      runProgram agesFile (invokeLine "ages.json" "ages" [['='], ['[', ']']]) = output ∧
      runProgram agesFile (bindLine agesMethod.source ["string==", "scalar=[]"]) = output) ∧
    runProgram agesFile (invokeLine "ages.json" "ages" [['x']]) =
      printQuery (.error (.argumentCount "ages" 2 1)) false ∧
    (∃ near, runProgram agesFile (invokeLine "ages.json" "age" [['x'], ['x']]) =
      printQuery (.error (.methodNotFound "age" near)) false) ∧
    (runProgram agesFile (bindLine overflowing [])).code = 70 ∧
    (runProgram agesFile (bindLine overflowing [])).stdout = [] := by
  have succeeds : (Registry.empty.loadFile agesFile "ages.json").2 = .ok () := by decide +kernel
  have loaded : Registry.ofFile agesFile "ages.json" = .ok agesRegistry := by
    unfold agesRegistry
    exact Registry.ofFile_of_succeeds succeeds
  have found : agesRegistry.get? "ages" = some agesMethod := by decide +kernel
  have unknown : agesRegistry.get? "age" = none := by decide +kernel
  have given : "ages.json" ≠ "" := by decide
  obtain ⟨repository, lines, failures, quiet⟩ := commands_agree_with_createQuery agesFile
  obtain ⟨known, missing⟩ := repository "ages.json" agesRegistry loaded
  obtain ⟨agree, miscounted⟩ := known "ages" agesMethod found
  refine ⟨loaded, ?_, ?_, ?_, ?_, ?_⟩
  · have readAs : ReadAs agesMethod.params ["a=\"".toList, ['7']]
        [.string "a=\"".toList, .integer 7] := .cons rfl (.cons rfl .nil)
    have words : List.zipWith Argument.word agesMethod.params ["a=\"".toList, ['7']] =
        ["string=a=\"", "scalar=7"] := by
      decide +kernel
    have created : agesRegistry.createQuery "ages" [.string "a=\"".toList, .integer 7] =
        .ok "7 years: \"a=\\\"\"".toList := by
      decide +kernel
    obtain ⟨bound, ends⟩ := agree _ _ readAs
    obtain ⟨same, ended⟩ := ends _ _ (lines _ given _ _) bound
    rw [words] at same ended
    rcases ended with ⟨query, queried, shown, code⟩ | ⟨_, failed, _⟩
    · obtain rfl := Except.ok.inj (created.symm.trans queried)
      exact ⟨_, shown.trans (by decide +kernel), code, same, rfl⟩
    · cases created.symm.trans failed
  · have readAs : ReadAs agesMethod.params [['='], ['[', ']']] [.string ['='], .list []] :=
      .cons rfl (.cons rfl .nil)
    have words : List.zipWith Argument.word agesMethod.params [['='], ['[', ']']] =
        ["string==", "scalar=[]"] := by
      decide +kernel
    have refused : agesRegistry.createQuery "ages" [.string ['='], .list []] =
        .error (.format 1 (.kindMismatch .scalar "list")) := by
      decide +kernel
    obtain ⟨bound, ends⟩ := agree _ _ readAs
    obtain ⟨same, ended⟩ := ends _ _ (lines _ given _ _) bound
    rw [words] at same ended
    rcases ended with ⟨_, queried, _⟩ | ⟨_, _, shown, code⟩
    · cases refused.symm.trans queried
    · exact ⟨_, shown, code, same, rfl⟩
  · exact ((miscounted [['x']] (by decide)).2 _ _ (lines _ given _ _)).1
  · obtain ⟨near, _, ends⟩ := missing "age" unknown
    exact ⟨near, (ends _ _ _ (lines _ given _ _)).1⟩
  · have cut : Template.pieces overflowing = ([.placeholder (List.replicate 20 '9')], []) := by
      decide +kernel
    have rejected : ∃ error, Template.parse overflowing = .error error := by
      rw [Template.parse, cut]
      exact ⟨_, rfl⟩
    have asked := ofWords_bindLine overflowing .nil
    have code := (failures _ _ asked).mpr rejected
    refine ⟨code, quiet _ ?_ ?_⟩
    · simp [asked]
    · simp [code]

end QueryTemplate
