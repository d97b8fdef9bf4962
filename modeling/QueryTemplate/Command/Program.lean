import QueryTemplate.Command.Bind
import QueryTemplate.Command.Check

/-! The whole program: options that may stand anywhere, then a command with its own. -/

set_option autoImplicit false

namespace QueryTemplate.Command

inductive Request where
  | bind (options : BindOptions)
  | check (options : CheckOptions)
  | invoke (options : InvokeOptions)
  deriving DecidableEq, Repr

namespace Request

def run (read : FileReader) : Request → Except Report Output
  | bind options => Command.bind options
  | check options => Command.check read options
  | invoke options => Command.invoke read options

def notices (read : FileReader) : Request → List Notice
  | bind options => (bindEvents options).map .event
  | check options => checkNotices read options.json options.files
  | invoke options => (invokeEvents read options).map .event

def files : Request → List String
  | bind _ => []
  | check options => options.files
  | invoke options => [options.repository]

end Request

/-- Options that every command understands. No colour changes what is printed. -/
def everywhere {σ : Type} : List (OptionRule σ) := [
  ⟨"color", none, .value false fun given word =>
    if ["auto", "always", "never"].contains word then .ok given else .error .invalidValue⟩,
  ⟨"verbose", some 'v', .flag .ok⟩]

def Grammar.withEverywhere {σ : Type} (grammar : Grammar σ) : Grammar σ :=
  { grammar with options := grammar.options ++ everywhere }

/-- There is no help among the options: a line that asks for it is refused. -/
def frontGrammar : Grammar Unit where
  options := ⟨"version", some 'V', .flag fun _ => .error .versionAsked⟩ :: everywhere
  commands := ["bind", "check", "invoke"]

/-- What a line asks for, and whether it asks for the log as well. -/
structure Invocation where
  request : Request
  verbose : Bool
  deriving DecidableEq, Repr

namespace Invocation

def ofRest {σ : Type} (grammar : Grammar σ) (settings : σ) (request : σ → Except Refusal Request)
    (verbose : Bool) (words : List String) : Except Refusal Invocation := do
  let (s, _) ← Line.run grammar.withEverywhere settings words
  .ok ⟨← request s.settings, verbose || s.gave "verbose"⟩

def ofCommand (verbose : Bool) (command : String) (words : List String) :
    Except Refusal Invocation :=
  match command with
  | "bind" =>
    ofRest BindOptions.grammar {} (fun given => (BindOptions.ofGiven given).map .bind) verbose words
  | "check" =>
    ofRest CheckOptions.grammar ⟨[], false, false⟩
      (fun given => (CheckOptions.ofGiven given).map .check) verbose words
  | "invoke" =>
    ofRest InvokeOptions.grammar {} (fun given => (InvokeOptions.ofGiven given).map .invoke) verbose
      words
  | _ => .error .missingArgument

def ofWords (words : List String) : Except Refusal Invocation := do
  match ← Line.run frontGrammar () words with
  | (front, some (command, rest)) => ofCommand (front.gave "verbose") command rest
  | (_, none) => .error .missingArgument

end Invocation

def Request.ofWords (words : List String) : Except Refusal Request :=
  (Invocation.ofWords words).map Invocation.request

/-- How the program ends for a request, or for a line that is none. -/
def conclude (console : Console) (read : FileReader) (verbose : Bool)
    (request : Except Refusal Request) : Output :=
  match request with
  | .error .versionAsked => ⟨success, "strquery 0.1.0\n".toList, []⟩
  | .error refusal => ⟨usageError, [], console.refusal refusal⟩
  | .ok request =>
    let noted := (request.notices read).flatMap (console.notice verbose)
    match request.run read with
    | .ok output => { output with stderr := noted ++ output.stderr }
    | .error report => ⟨failure, [], noted ++ console.report report⟩

section

variable {console : Console} {read : FileReader} {verbose : Bool} {request : Request}

theorem conclude_of_run {output : Output} (ended : request.run read = .ok output) :
    conclude console read verbose (.ok request) =
      { output with
        stderr := (request.notices read).flatMap (console.notice verbose) ++ output.stderr } := by
  simp only [conclude, ended]

theorem conclude_of_report {report : Report} (ended : request.run read = .error report) :
    conclude console read verbose (.ok request) =
      ⟨failure, [], (request.notices read).flatMap (console.notice verbose) ++
        console.report report⟩ := by
  simp only [conclude, ended]

end

def runAt (console : Console) (read : FileReader) (words : List String) : Output :=
  match Invocation.ofWords words with
  | .error refusal => conclude console read false (.error refusal)
  | .ok invocation => conclude console read invocation.verbose (.ok invocation.request)

/-- How the program ends where nothing is logged. -/
def finish (read : FileReader) (request : Except Refusal Request) : Output :=
  conclude .silent read false request

def runProgram (read : FileReader) (words : List String) : Output :=
  finish read (Request.ofWords words)

/-- A console has a say in what goes to standard error, and in nothing else. -/
theorem conclude_agree (console other : Console) (read : FileReader) (verbose noisy : Bool)
    (request : Except Refusal Request) :
    (conclude console read verbose request).code = (conclude other read noisy request).code ∧
    (conclude console read verbose request).stdout = (conclude other read noisy request).stdout := by
  cases request with
  | error refusal => cases refusal <;> exact ⟨rfl, rfl⟩
  | ok request =>
    cases ended : request.run read with
    | ok output => simp only [conclude_of_run ended, and_self]
    | error report => simp only [conclude_of_report ended, and_self]

theorem runAt_agrees (console : Console) (read : FileReader) (words : List String) :
    (runAt console read words).code = (runProgram read words).code ∧
    (runAt console read words).stdout = (runProgram read words).stdout := by
  unfold runAt runProgram finish Request.ofWords
  cases Invocation.ofWords words with
  | error refusal => exact conclude_agree console .silent read false false (.error refusal)
  | ok invocation =>
    exact conclude_agree console .silent read invocation.verbose false (.ok invocation.request)

end QueryTemplate.Command
