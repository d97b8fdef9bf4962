import QueryTemplate.Text

/-! Files below a working directory, and reading them as text.

A path is followed name by name: a single dot and an empty name stay, two dots lead back, and a file
leads nowhere. Outside of the working directory there are directories but nothing else.
-/

set_option autoImplicit false

namespace QueryTemplate

inductive ReadError where
  | notFound
  | notDirectory
  | isDirectory
  | nameTooLong
  | zeroInName
  | notText
  | other (reason : String)
  deriving DecidableEq, Repr

def ReadError.message : ReadError → String
  | notFound => "No such file or directory (os error 2)"
  | notDirectory => "Not a directory (os error 20)"
  | isDirectory => "Is a directory (os error 21)"
  | nameTooLong => "File name too long (os error 36)"
  | zeroInName => "file name contained an unexpected NUL byte"
  | notText => "stream did not contain valid UTF-8"
  | other reason => reason

abbrev FileReader := String → Except ReadError Text

inductive FileEntry where
  | bytes (content : ByteArray)
  | directory

structure Files where
  entries : List (String × FileEntry) := []

namespace Files

def parts (path : String) : List Text := path.toList.splitOn '/'

def names (path : String) : List Text :=
  (parts path).filter fun name => name ≠ [] ∧ name ≠ ['.']

/-- Where a path has led: to a directory, by the names that lead to it; to a file; out of the working
directory. -/
inductive Place where
  | inside (trail : List Text)
  | file (content : ByteArray)
  | outside

def nameLimit : Nat := 255

def pathLimit : Nat := 4095

/-- The entry at the end of a trail of names. Names on the way to an entry are directories. -/
def entry? (files : Files) (trail : List Text) : Option FileEntry :=
  match files.entries.find? fun (name, _) => names name == trail with
  | some (_, entry) => some entry
  | none =>
    if files.entries.any fun (name, _) => trail.isPrefixOf (names name) then some .directory
    else none

def step (files : Files) (place : Place) (part : Text) : Except ReadError Place :=
  match place with
  | .file _ => .error .notDirectory
  | .outside =>
    if part = [] ∨ part = ['.'] ∨ part = ['.', '.'] then .ok .outside
    else if nameLimit < Text.byteLength part then .error .nameTooLong
    else .error .notFound
  | .inside trail =>
    if part = [] ∨ part = ['.'] then .ok (.inside trail)
    else if part = ['.', '.'] then
      .ok (if trail = [] then .outside else .inside trail.dropLast)
    else if nameLimit < Text.byteLength part then .error .nameTooLong
    else
      let trail := trail ++ [part]
      match files.entry? trail with
      | some .directory => .ok (.inside trail)
      | some (.bytes content) => .ok (.file content)
      | none => .error .notFound

/-- Where a path leads. A path that starts with a slash starts outside. -/
def follow (files : Files) (path : String) : Except ReadError Place :=
  if path.toList.contains (Char.ofNat 0) then .error .zeroInName
  else if path = "" then .error .notFound
  else if pathLimit < Text.byteLength path.toList then .error .nameTooLong
  else
    let start := if path.toList.head? = some '/' then .outside else .inside []
    (parts path).foldlM files.step start

def read (files : Files) : FileReader := fun path => do
  match ← files.follow path with
  | .file content =>
    match String.fromUTF8? content with
    | some text => .ok text.toList
    | none => .error .notText
  | .inside _ | .outside => .error .isDirectory

end Files

end QueryTemplate
