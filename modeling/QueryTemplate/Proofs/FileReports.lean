import QueryTemplate.Proofs.AddedFlag
import QueryTemplate.Proofs.Checking
import QueryTemplate.Proofs.SpelledJson

/-! Checking several files.

A file is reported on as if it were checked alone, whatever stands before or behind it: reports are
made one by one, and only their faults are counted together. One file that cannot be read withholds
all reports.
-/

set_option autoImplicit false

namespace QueryTemplate.Command

def checked (read : FileReader) (files : List String) (json strict : Bool) : Output :=
  finish read (.ok (.check ⟨files, json, strict⟩))

def Reported (read : FileReader) (file : String) (report : FileReport) : Prop :=
  ∃ content, read file = .ok content ∧ report = .ofContent file content

def FileReport.Faulty (strict : Bool) (report : FileReport) : Prop :=
  report.errors ≠ [] ∨ strict = true ∧ report.warnings ≠ []

variable {read : FileReader} {files : List String} {reports : List FileReport} {json strict : Bool}

/-! ## Reports -/

theorem checkAll_of_reported (reported : List.Forall₂ (Reported read) files reports) :
    checkAll read files = .ok reports := by
  induction reported with
  | nil => rfl
  | cons first _ ih =>
    obtain ⟨content, present, rfl⟩ := first
    simp only [checkAll, present, ih, Except.map]

theorem checkAll_of_unreadable {file : String} {error : ReadError} (member : file ∈ files)
    (absent : read file = .error error) : ∃ report, checkAll read files = .error report := by
  induction files with
  | nil => cases member
  | cons first rest ih =>
    cases present : read first with
    | error other =>
      rw [checkAll, present]
      exact ⟨_, rfl⟩
    | ok content =>
      rcases List.mem_cons.mp member with rfl | later
      · cases absent.symm.trans present
      · obtain ⟨report, failed⟩ := ih later
        exact ⟨report, by simp only [checkAll, present, failed, Except.map]⟩

theorem exists_reported (readable : ∀ file ∈ files, ∃ content, read file = .ok content) :
    ∃ reports, List.Forall₂ (Reported read) files reports := by
  induction files with
  | nil => exact ⟨[], .nil⟩
  | cons file rest ih =>
    obtain ⟨⟨content, present⟩, later⟩ := List.forall_mem_cons.mp readable
    obtain ⟨reports, reported⟩ := ih later
    exact ⟨_, .cons ⟨content, present, rfl⟩ reported⟩

/-! ## Faults -/

theorem foldl_length_pos (remarks : FileReport → List String) (reports : List FileReport)
    (start : Nat) :
    0 < reports.foldl (fun count report => count + (remarks report).length) start ↔
      0 < start ∨ ∃ report ∈ reports, remarks report ≠ [] := by
  induction reports generalizing start with
  | nil => simp
  | cons report reports ih =>
    rw [List.foldl_cons, ih, List.exists_mem_cons_iff, Nat.add_pos_iff_pos_or_pos,
      List.length_pos_iff, or_assoc]

theorem atFault_iff : atFault strict reports ↔ ∃ report ∈ reports, report.Faulty strict := by
  have errors := foldl_length_pos FileReport.errors reports 0
  have warnings := foldl_length_pos FileReport.warnings reports 0
  simp only [Nat.lt_irrefl, false_or] at errors warnings
  simp only [atFault, Bool.or_eq_true, Bool.and_eq_true, decide_eq_true_eq, errors, warnings]
  constructor
  · rintro (⟨report, member, wrong⟩ | ⟨strictly, report, member, warned⟩)
    · exact ⟨report, member, .inl wrong⟩
    · exact ⟨report, member, .inr ⟨strictly, warned⟩⟩
  · rintro ⟨report, member, wrong | ⟨strictly, warned⟩⟩
    · exact .inl ⟨report, member, wrong⟩
    · exact .inr ⟨strictly, report, member, warned⟩

/-! ## Ends of checks -/

theorem check_of_reported (reported : List.Forall₂ (Reported read) files reports)
    (json strict : Bool) :
    check read ⟨files, json, strict⟩ =
      .ok ⟨if atFault strict reports then dataError else success,
        if json then (Json.array (reports.map FileReport.toJson)).pretty ++ ['\n']
        else reports.flatMap FileReport.render, []⟩ := by
  simp only [check, checkAll_of_reported reported, Bind.bind, Except.bind]

theorem checked_of_check {output : Output} (ended : check read ⟨files, json, strict⟩ = .ok output) :
    checked read files json strict =
      { output with
        stderr := (checkNotices read json files).flatMap (Console.silent.notice false) ++
          output.stderr } :=
  conclude_of_run ended

theorem code_checked (reported : List.Forall₂ (Reported read) files reports) (json strict : Bool) :
    (checked read files json strict).code =
      if atFault strict reports then dataError else success := by
  rw [checked_of_check (check_of_reported reported json strict)]

theorem stdout_checked (reported : List.Forall₂ (Reported read) files reports)
    (json strict : Bool) :
    (checked read files json strict).stdout =
      if json then (Json.array (reports.map FileReport.toJson)).pretty ++ ['\n']
      else reports.flatMap FileReport.render := by
  rw [checked_of_check (check_of_reported reported json strict)]

theorem checked_of_unreadable {file : String} {error : ReadError} (member : file ∈ files)
    (absent : read file = .error error) (json strict : Bool) :
    (checked read files json strict).code = 70 ∧ (checked read files json strict).stdout = [] := by
  obtain ⟨report, failed⟩ := checkAll_of_unreadable member absent
  have ran : Request.run read (.check ⟨files, json, strict⟩) = .error report := by
    simp only [Request.run, check, failed, Bind.bind, Except.bind]
  rw [checked, finish, conclude_of_report ran]
  exact ⟨rfl, rfl⟩

theorem code_checked_iff (reported : List.Forall₂ (Reported read) files reports)
    (json strict : Bool) :
    ((checked read files json strict).code = 65 ↔ ∃ report ∈ reports, report.Faulty strict) ∧
    ((checked read files json strict).code = 0 ↔ ¬ ∃ report ∈ reports, report.Faulty strict) := by
  rw [code_checked reported, ← atFault_iff]
  cases atFault strict reports <;> simp [dataError, success]

/-- The diagnostics on the way are those of each file as well. -/
theorem stderr_checked (reported : List.Forall₂ (Reported read) files reports)
    (json strict : Bool) :
    (checked read files json strict).stderr =
      files.flatMap fun file => (checked read [file] json strict).stderr := by
  have noted : ∀ {files reports}, List.Forall₂ (Reported read) files reports →
      (checked read files json strict).stderr =
        (checkNotices read json files).flatMap (Console.silent.notice false) := by
    intro files reports reported
    rw [checked_of_check (check_of_reported reported json strict)]
    exact List.append_nil _
  rw [noted reported]
  induction reported with
  | nil => rfl
  | cons first _ ih =>
    rw [List.flatMap_cons, ← ih, noted (.cons first .nil)]
    obtain ⟨content, present, -⟩ := first
    simp only [checkNotices, present, List.append_nil, List.flatMap_append]

/-! ## Reports as JSON -/

def FileReport.CountsFit (report : FileReport) : Prop :=
  ∀ method ∈ report.methods, method.placeholders < Nat.pow 2 64

open Json (BuiltOf Legible builtOf_ofString builtOf_strings)

variable {depth : Nat}

theorem MethodReport.builtOf_toJson {method : MethodReport} (fit : method.placeholders < Nat.pow 2 64) :
    BuiltOf (Legible Json.NumberText.Means) (depth + 2) method.toJson := by
  have params : BuiltOf (Legible Json.NumberText.Means) (depth + 1)
      (.array (method.params.map fun kind => .ofString kind.name)) := by
    have texts := @builtOf_strings Json.NumberText.Means depth (method.params.map Kind.name)
    rwa [List.map_map] at texts
  have placeholders : BuiltOf (Legible Json.NumberText.Means) (depth + 1) (.ofNat method.placeholders) :=
    .atom _ (Json.legible_integer Json.NumberText.keepsIntegers (by
      rw [Json.fits_iff]
      have bound : method.placeholders < 18446744073709551616 := fit
      omega))
  exact .object (by simpa using ⟨builtOf_ofString method.name, params, placeholders⟩)

theorem FileReport.builtOf_toJson {report : FileReport} (fit : report.CountsFit) :
    BuiltOf (Legible Json.NumberText.Means) (depth + 4) report.toJson := by
  have methods : BuiltOf (Legible Json.NumberText.Means) (depth + 3)
      (.array (report.methods.map MethodReport.toJson)) := by
    refine .array ?_
    rw [List.forall_mem_map]
    exact fun method member => MethodReport.builtOf_toJson (fit method member)
  exact .object (by simpa using ⟨builtOf_ofString report.file, methods,
    builtOf_strings report.warnings, builtOf_strings report.errors⟩)

theorem parse_reports (fit : ∀ report ∈ reports, report.CountsFit) :
    Json.parse ((Json.array (reports.map FileReport.toJson)).pretty ++ ['\n']) =
      .ok (.array (reports.map FileReport.toJson)) := by
  have built : BuiltOf (Legible Json.NumberText.Means) Json.depthLimit (.array (reports.map FileReport.toJson)) := by
    refine .array ?_
    rw [List.forall_mem_map]
    exact fun report member => FileReport.builtOf_toJson (fit report member)
  exact built.parse_pretty (Json.blank_newLine 0)

/-! ## Lines -/

def checkLine (files : List String) (json strict : Bool) : List String :=
  "check" :: ((if json then [Line.flagWord "json"] else []) ++
    (if strict then [Line.flagWord "strict"] else []) ++ "--" :: files)

namespace CheckOptions

theorem strictFlag :
    Line.FlagOf grammar.withEverywhere "strict"
      fun given : CheckOptions => { given with strict := true } where
  noCommands := rfl
  named := by decide
  plain := by decide
  again _ := rfl
  options := by
    refine ruled_withEverywhere (by decide) (by decide) ?_
    simp only [grammar, List.forall_mem_cons]
    exact ⟨.flag none (by decide) (.change fun _ => rfl), .own none, by simp⟩
  free := apart_free fun _ _ => rfl
  found := ⟨none, rfl⟩

def addFile (given : CheckOptions) (word : String) : Except Refusal CheckOptions := do
  .ok { given with files := given.files ++ [← pathWord word] }

theorem free_eq : grammar.withEverywhere.free = some addFile := rfl

theorem foldlM_addFile {files : List String} (named : ∀ file ∈ files, file ≠ "")
    (given : CheckOptions) :
    files.foldlM addFile given = .ok { given with files := given.files ++ files } := by
  induction files generalizing given with
  | nil => simp [pure, Except.pure]
  | cons file files ih =>
    obtain ⟨first, later⟩ := List.forall_mem_cons.mp named
    rw [List.foldlM_cons]
    simp [addFile, pathWord, first, Bind.bind, Except.bind, ih later]

/-- The flags of a line are set before its files are looked at. -/
theorem exists_take_flags (json strict : Bool) (rest : List String) :
    ∃ seen, Line.take grammar.withEverywhere ⟨⟨[], false, false⟩, [], .nothing⟩
        ((if json then [Line.flagWord "json"] else []) ++
          (if strict then [Line.flagWord "strict"] else []) ++ rest) =
      Line.take grammar.withEverywhere ⟨⟨[], json, strict⟩, seen, .nothing⟩ rest := by
  cases json
  · cases strict
    · exact ⟨[], rfl⟩
    · exact ⟨["strict"], Line.take_flagWord strictFlag rfl (by simp) rest⟩
  · have first := fun words => Line.take_flagWord (s := ⟨⟨[], false, false⟩, [], .nothing⟩)
      jsonFlag rfl (by simp) words
    cases strict
    · exact ⟨["json"], first rest⟩
    · exact ⟨["strict", "json"], (first _).trans (Line.take_flagWord strictFlag rfl (by simp) rest)⟩

end CheckOptions

theorem read_checkLine (named : ∀ file ∈ files, file ≠ "") (json strict : Bool) :
    Line.read CheckOptions.grammar.withEverywhere ⟨[], false, false⟩
        (checkLine files json strict).tail = .ok (⟨files, json, strict⟩, none) := by
  obtain ⟨seen, flags⟩ := CheckOptions.exists_take_flags json strict ("--" :: files)
  obtain ⟨last, rest, ended⟩ := Line.take_freeWords (s := ⟨⟨[], json, strict⟩, seen, .nothing⟩)
    rfl CheckOptions.free_eq rfl (CheckOptions.foldlM_addFile named ⟨[], json, strict⟩)
  exact Line.read_of_take (flags.trans rest) ended

theorem ofWords_checkLine (given : files ≠ []) (named : ∀ file ∈ files, file ≠ "")
    (json strict : Bool) :
    Request.ofWords (checkLine files json strict) = .ok (.check ⟨files, json, strict⟩) := by
  have behind := read_checkLine named json strict
  rw [checkLine, List.tail_cons] at behind
  rw [checkLine, Request.ofWords_command (by decide), Invocation.ofCommand, Request.map_ofRest, behind]
  simp [Bind.bind, Except.bind, Except.map, CheckOptions.ofGiven, given]

/-! ## Independence -/

section

variable {α β γ : Type} {R : α → β → Prop} {xs : List α} {ys : List β}

theorem exists_mem_iff_of_forall₂ {p : α → Prop} {q : β → Prop} (related : List.Forall₂ R xs ys)
    (agree : ∀ x y, R x y → (p x ↔ q y)) : (∃ x ∈ xs, p x) ↔ ∃ y ∈ ys, q y := by
  induction related with
  | nil => simp
  | cons first _ ih => rw [List.exists_mem_cons_iff, List.exists_mem_cons_iff, ih, agree _ _ first]

theorem flatMap_eq_of_forall₂ {f : α → List γ} {g : β → List γ} (related : List.Forall₂ R xs ys)
    (agree : ∀ x y, R x y → f x = g y) : xs.flatMap f = ys.flatMap g := by
  induction related with
  | nil => rfl
  | cons first _ ih => rw [List.flatMap_cons, List.flatMap_cons, ih, agree _ _ first]

end

section

variable {file : String} {report : FileReport}

theorem Reported.alone (reported : Reported read file report) :
    List.Forall₂ (Reported read) [file] [report] := .cons reported .nil

theorem Reported.code_eq_dataError_iff (reported : Reported read file report) (json strict : Bool) :
    (checked read [file] json strict).code = 65 ↔ report.Faulty strict := by
  simpa using (code_checked_iff reported.alone json strict).1

theorem Reported.stdout_text (reported : Reported read file report) (strict : Bool) :
    (checked read [file] false strict).stdout = report.render := by
  rw [stdout_checked reported.alone]
  exact List.append_nil report.render

theorem Reported.stdout_json (reported : Reported read file report) (strict : Bool) :
    (checked read [file] true strict).stdout = (Json.array [report.toJson]).pretty ++ ['\n'] := by
  rw [stdout_checked reported.alone]
  rfl

end

theorem code_checked_json (read : FileReader) (files : List String) (strict : Bool) :
    (checked read files true strict).code = (checked read files false strict).code := by
  by_cases readable : ∀ file ∈ files, ∃ content, read file = .ok content
  · obtain ⟨reports, reported⟩ := exists_reported readable
    rw [code_checked reported, code_checked reported]
  · push Not at readable
    obtain ⟨file, member, unread⟩ := readable
    cases present : read file with
    | ok content => exact absurd present (unread content)
    | error error =>
      rw [(checked_of_unreadable member present true strict).1,
        (checked_of_unreadable member present false strict).1]

/-- A check treats files one by one. If one of them cannot be read, nothing is printed. Otherwise
the output consists of the reports on the files in their order, each as it is printed when its file
is checked alone, and the exit code is that of some file alone. -/
theorem check_treats_files_independently (read : FileReader) (files : List String)
    (strict : Bool) :
    ((∃ file ∈ files, ∃ error, read file = .error error) → ∀ json,
      (checked read files json strict).code = 70 ∧ (checked read files json strict).stdout = []) ∧
    ((∀ file ∈ files, ∃ content, read file = .ok content) →
      ∃ reports : List FileReport,
        List.Forall₂ (fun file report =>
          (∃ content, read file = .ok content ∧ report = .ofContent file content) ∧
          (checked read [file] true strict).stdout =
            (Json.array [report.toJson]).pretty ++ ['\n'] ∧
          ∀ json, ((checked read [file] json strict).code = 65 ↔
            report.errors ≠ [] ∨ strict = true ∧ report.warnings ≠ [])) files reports ∧
        (checked read files false strict).stdout =
          files.flatMap (fun file => (checked read [file] false strict).stdout) ∧
        (checked read files true strict).stdout =
          (Json.array (reports.map FileReport.toJson)).pretty ++ ['\n'] ∧
        ((∀ report ∈ reports, report.CountsFit) →
          Json.parse (checked read files true strict).stdout =
            .ok (.array (reports.map FileReport.toJson))) ∧
        ∀ json,
          ((checked read files json strict).code = 65 ↔
            ∃ file ∈ files, (checked read [file] json strict).code = 65) ∧
          ((checked read files json strict).code = 0 ↔
            ∀ file ∈ files, (checked read [file] json strict).code ≠ 65)) ∧
    (checked read files true strict).code = (checked read files false strict).code ∧
    (files ≠ [] → (∀ file ∈ files, file ≠ "") → ∀ json,
      runProgram read (checkLine files json strict) = checked read files json strict) := by
  refine ⟨?_, ?_, ?_, ?_⟩
  · rintro ⟨file, member, error, absent⟩ json
    exact checked_of_unreadable member absent json strict
  · intro readable
    obtain ⟨reports, reported⟩ := exists_reported readable
    have wrong : ∀ json, (∃ file ∈ files, (checked read [file] json strict).code = 65) ↔
        ∃ report ∈ reports, report.Faulty strict := fun json =>
      exists_mem_iff_of_forall₂ reported fun _ _ alone => alone.code_eq_dataError_iff json strict
    have texts : files.flatMap (fun file => (checked read [file] false strict).stdout) =
        reports.flatMap FileReport.render :=
      flatMap_eq_of_forall₂ reported fun _ _ alone => alone.stdout_text strict
    have shown : (checked read files true strict).stdout =
        (Json.array (reports.map FileReport.toJson)).pretty ++ ['\n'] := by
      rw [stdout_checked reported]
      rfl
    refine ⟨reports, ?_, ?_, shown, ?_, ?_⟩
    · refine reported.imp fun file report alone => ⟨alone, alone.stdout_json strict, ?_⟩
      exact fun json => alone.code_eq_dataError_iff json strict
    · rw [stdout_checked reported, texts]
      rfl
    · rw [shown]
      exact parse_reports
    · intro json
      obtain ⟨faulty, sound⟩ := code_checked_iff reported json strict
      refine ⟨faulty.trans (wrong json).symm, sound.trans ?_⟩
      rw [← wrong json]
      push Not
      rfl
  · exact code_checked_json read files strict
  · intro given named json
    rw [runProgram, ofWords_checkLine given named]
    rfl

def sortedFiles : FileReader := fun path =>
  if path = "clean" then .ok "\x7b\"methods\":[]\x7d".toList
  else if path = "warned" then .ok soundContent
  else if path = "wrong" then .ok mixedContent
  else .error .notText

theorem check_treats_files_independently_mixed :
    (∀ json, (checked sortedFiles ["wrong", "unread", "clean"] json true).code = 70 ∧
      (checked sortedFiles ["wrong", "unread", "clean"] json true).stdout = []) ∧
    (checked sortedFiles ["warned", "clean", "warned"] true false).code = 0 ∧
    (checked sortedFiles ["warned", "clean", "warned"] false true).code = 65 ∧
    (checked sortedFiles ["clean", "wrong", "clean"] false false).stdout =
      (checked sortedFiles ["clean"] false false).stdout ++
        ((checked sortedFiles ["wrong"] false false).stdout ++
          (checked sortedFiles ["clean"] false false).stdout) ∧
    (runProgram sortedFiles (checkLine ["clean", "wrong", "clean"] true false)).code = 65 := by
  have clean : ∃ content, sortedFiles "clean" = .ok content := ⟨_, rfl⟩
  have warned : ∃ content, sortedFiles "warned" = .ok content := ⟨_, rfl⟩
  have wrong : ∃ content, sortedFiles "wrong" = .ok content := ⟨_, rfl⟩
  have warnings : ∀ file ∈ ["warned", "clean", "warned"], ∃ content, sortedFiles file = .ok content := by
    simp [clean, warned]
  have errors : ∀ file ∈ ["clean", "wrong", "clean"], ∃ content, sortedFiles file = .ok content := by
    simp [clean, wrong]
  obtain ⟨withheld, _⟩ :=
    check_treats_files_independently sortedFiles ["wrong", "unread", "clean"] true
  obtain ⟨_, lax, _⟩ :=
    check_treats_files_independently sortedFiles ["warned", "clean", "warned"] false
  obtain ⟨_, strict, _⟩ :=
    check_treats_files_independently sortedFiles ["warned", "clean", "warned"] true
  obtain ⟨_, apart, _, lines⟩ :=
    check_treats_files_independently sortedFiles ["clean", "wrong", "clean"] false
  refine ⟨withheld ⟨"unread", by decide, .notText, rfl⟩, ?_, ?_, ?_, ?_⟩
  · obtain ⟨_, _, _, _, _, codes⟩ := lax warnings
    refine (codes true).2.mpr ?_
    have alone : (checked sortedFiles ["warned"] true false).code = 0 ∧
        (checked sortedFiles ["clean"] true false).code = 0 := by decide +kernel
    simp [alone]
  · obtain ⟨_, _, _, _, _, codes⟩ := strict warnings
    exact (codes false).1.mpr ⟨"warned", by decide, by decide +kernel⟩
  · obtain ⟨_, _, texts, _⟩ := apart errors
    simpa using texts
  · obtain ⟨_, _, _, _, _, codes⟩ := apart errors
    rw [lines (by decide) (by decide) true]
    exact (codes true).1.mpr ⟨"wrong", by decide, by decide +kernel⟩

end QueryTemplate.Command
