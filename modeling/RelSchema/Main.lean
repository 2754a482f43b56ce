import RelSchema.CommandLine

namespace RelSchema.Main

def fileError : IO.Error → FileError
  | .noFileOrDirectory _ _ _ => .notFound
  | .alreadyExists _ _ _ => .exists
  | .permissionDenied _ _ _ => .permissionDenied
  | .inappropriateType _ code details =>
    if code = 20 then .notDirectory else if code = 21 then .isDirectory else .other details
  | e => .other (toString e)

def readFile (path : String) : IO (Except FileError String) := do
  try
    match String.fromUTF8? (← IO.FS.readBinFile path) with
    | some text => return .ok text
    | none => return .error .notText
  catch e => return .error (fileError e)

def writeFile (path text : String) : IO (Except FileError Unit) := do
  let directory := Path.directory path
  try
    unless directory.isEmpty do IO.FS.createDirAll directory
    IO.FS.writeFile path text
    return .ok ()
  catch e => return .error (fileError e)

/-- Shows the notices that are for all users, or all of them. -/
def report (showsAll : Bool) (notice : Notice) : IO Unit := do
  if showsAll || notice.level.isPublic then
    IO.eprintln ("[" ++ notice.level.name ++ "] " ++ notice.message)

def machine (showsAll : Bool) : Machine IO where
  readFile := readFile
  writeFile := writeFile
  print text := IO.print text
  complain text := IO.eprint text
  report := report showsAll

end RelSchema.Main

def main (args : List String) : IO UInt32 := do
  let isVerbose := match RelSchema.CommandLine.Arguments.ofList args with
    | .ok a => a.isVerbose
    | .error _ => false
  let outcome ← RelSchema.CommandLine.run (RelSchema.Main.machine isVerbose) args
  return outcome.code.toUInt32
