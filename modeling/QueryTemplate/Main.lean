import QueryTemplate.Command.Program

/-! The program as it is run: files are read beforehand, and what the program printed is written. -/

set_option autoImplicit false

namespace QueryTemplate

def readFile (path : String) : IO (Except ReadError Text) := do
  if path.toList.contains (Char.ofNat 0) then return .error .zeroInName
  try
    let content ← IO.FS.readBinFile path
    match String.fromUTF8? content with
    | some text => return .ok text.toList
    | none => return .error .notText
  catch e => return .error <| match e with
    | .noFileOrDirectory .. => .notFound
    | .inappropriateType _ code _ => if code = 20 then .notDirectory else .isDirectory
    | .invalidArgument _ 36 _ => .nameTooLong
    | e => .other (toString e)

end QueryTemplate

open QueryTemplate Command in
def main (words : List String) : IO UInt32 := do
  let request := Request.ofWords words
  let paths := match request with
    | .ok request => request.files
    | .error _ => []
  let contents ← paths.mapM fun path => do return (path, ← readFile path)
  let read : FileReader := fun path => (contents.lookup path).getD (.error .notFound)
  let output := runAt .plain read words
  (← IO.getStdout).putStr (String.ofList output.stdout)
  (← IO.getStderr).putStr (String.ofList output.stderr)
  return UInt32.ofNat output.code
