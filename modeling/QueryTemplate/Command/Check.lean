import QueryTemplate.Command.Invoke
import QueryTemplate.Command.Table

/-! Checking repository files.

A declaration at fault does not keep the next ones from being checked. Of declarations with one name
only the first counts, be it valid or not. If a file cannot be read, no reports are printed.
-/

set_option autoImplicit false

namespace QueryTemplate.Command

structure CheckOptions where
  files : List String
  json : Bool := false
  strict : Bool := false
  deriving DecidableEq, Repr

namespace CheckOptions

def grammar : Grammar CheckOptions where
  options := [
    ⟨"json", none, .flag fun given => .ok { given with json := true }⟩,
    ⟨"strict", none, .flag fun given => .ok { given with strict := true }⟩]
  free := some fun given word => do .ok { given with files := given.files ++ [← pathWord word] }

def ofGiven (given : CheckOptions) : Except Refusal CheckOptions :=
  if given.files.isEmpty then .error .missingArgument else .ok given

def ofWords (words : List String) : Except Refusal CheckOptions := do
  ofGiven (← Line.read grammar ⟨[], false, false⟩ words).1

end CheckOptions

structure MethodReport where
  name : String
  params : List Kind
  placeholders : Nat
  deriving DecidableEq, Repr

structure FileReport where
  file : String
  methods : List MethodReport := []
  warnings : List String := []
  errors : List String := []
  deriving DecidableEq, Repr

namespace MethodReport

def ofMethod (method : Method) : MethodReport :=
  ⟨method.name, method.params, method.template.placeholders.length⟩

def toJson (method : MethodReport) : Json :=
  .object [("name".toList, .ofString method.name),
    ("params".toList, .array (method.params.map fun kind => .ofString kind.name)),
    ("placeholders".toList, .ofNat method.placeholders)]

def toRow (method : MethodReport) : MethodRow :=
  ⟨method.name.toList, (", ".intercalate (method.params.map Kind.name)).toList, method.placeholders⟩

end MethodReport

namespace FileReport

def add (report : FileReport) (seen : List String) (definition : MethodDefinition) : FileReport :=
  if seen.contains definition.name then
    { report with
      errors := report.errors ++ [(DefinitionError.duplicateMethod definition.name).message] }
  else match Method.compile definition with
    | .ok method =>
      { report with
        methods := report.methods ++ [.ofMethod method]
        warnings := report.warnings ++ method.warnings.map Warning.message }
    | .error e => { report with errors := report.errors ++ [e.message] }

def addAll (report : FileReport) (seen : List String) : List MethodDefinition → FileReport
  | [] => report
  | definition :: rest => (report.add seen definition).addAll (definition.name :: seen) rest

def ofContent (file : String) (content : Text) : FileReport :=
  match RepositoryDefinition.ofJsonText content with
  | .error e => { file, errors := [e.message] }
  | .ok repository => addAll { file } [] repository.methods

def toJson (report : FileReport) : Json :=
  .object [("file".toList, .ofString report.file),
    ("methods".toList, .array (report.methods.map MethodReport.toJson)),
    ("warnings".toList, .array (report.warnings.map .ofString)),
    ("errors".toList, .array (report.errors.map .ofString))]

def styled (on off : Nat) (text : Text) : Text :=
  s!"\x1b[{on}m".toList ++ text ++ s!"\x1b[{off}m".toList

def remark (colour : Nat) (sort text : String) : Text :=
  ' ' :: ' ' :: styled colour 39 sort.toList ++ ' ' :: text.toList

def lines (report : FileReport) : List Text :=
  let table := if report.methods.isEmpty then []
    else [Table.render (report.methods.map MethodReport.toRow)]
  let verdict := if report.errors.isEmpty then
      [remark 32 "ok" s!"{report.methods.length} methods"]
    else []
  styled 1 0 report.file.toList :: table ++ report.warnings.map (remark 33 "warning:") ++
    report.errors.map (remark 31 "error:") ++ verdict

def render (report : FileReport) : Text := report.lines.flatMap (· ++ ['\n'])

end FileReport

/-- What is noted on the way for a declaration, knowing the names before it. -/
def noticeOf (quiet : Bool) (seen : List String) (definition : MethodDefinition) : List Notice :=
  if seen.contains definition.name then []
  else match Method.compile definition with
    | .ok method => [.event (.ofMethod method)]
    | .error (.parse _ source) =>
      if quiet then [] else [.diagnostic (.ofParseError definition.query source)]
    | .error (.indexOutOfRange ..) => []

def noticesOf (quiet : Bool) (seen : List String) : List MethodDefinition → List Notice
  | [] => []
  | definition :: rest =>
    noticeOf quiet seen definition ++ noticesOf quiet (definition.name :: seen) rest

def fileNotices (quiet : Bool) (content : Text) : List Notice :=
  match RepositoryDefinition.ofJsonText content with
  | .error e => if quiet then [] else [.diagnostic (.ofJsonError content e)]
  | .ok repository => noticesOf quiet [] repository.methods

/-- What is noted on the way through files, up to the first that cannot be read. Diagnostics are left
out if the reports are printed as JSON. -/
def checkNotices (read : FileReader) (quiet : Bool) : List String → List Notice
  | [] => []
  | file :: rest =>
    match read file with
    | .error _ => []
    | .ok content => fileNotices quiet content ++ checkNotices read quiet rest

def checkAll (read : FileReader) : List String → Except Report (List FileReport)
  | [] => .ok []
  | file :: rest =>
    match read file with
    | .error e =>
      let shown := String.ofList (Text.quoted file.toList)
      .error (.plain s!"Failed to read repository file {shown}: {e.message}")
    | .ok content => (checkAll read rest).map (FileReport.ofContent file content :: ·)

def atFault (strict : Bool) (reports : List FileReport) : Bool :=
  let errors := reports.foldl (fun count report => count + report.errors.length) 0
  let warnings := reports.foldl (fun count report => count + report.warnings.length) 0
  0 < errors || (strict && 0 < warnings)

def check (read : FileReader) (options : CheckOptions) : Except Report Output := do
  let reports ← checkAll read options.files
  let shown :=
    if options.json then (Json.array (reports.map FileReport.toJson)).pretty ++ ['\n']
    else reports.flatMap FileReport.render
  .ok ⟨if atFault options.strict reports then dataError else success, shown, []⟩

end QueryTemplate.Command
