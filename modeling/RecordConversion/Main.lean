import RecordConversion.CommandLine.Run

/-!
# The program

Reads the command line, carries the command out on the file system, and prints.
-/

namespace RecordConversion

/-- The reason for which a file operation failed, with its number. -/
def reasonOf : IO.Error → String
  | .noFileOrDirectory _ code _ => "No such file or directory (os error " ++ toString code ++ ")"
  | .alreadyExists _ code _ => "File exists (os error " ++ toString code ++ ")"
  | .inappropriateType _ code _ =>
    (if code = 20 then "Not a directory" else "Is a directory") ++
      " (os error " ++ toString code ++ ")"
  | .permissionDenied _ code _ => "Permission denied (os error " ++ toString code ++ ")"
  | .invalidArgument _ code detail =>
    (if code = 36 then "File name too long" else detail) ++ " (os error " ++ toString code ++ ")"
  | error => toString error

/-- The result of a file operation, or the reason why it failed. -/
def attempt {α : Type} (operation : IO α) : IO (Except String α) := do
  try
    return .ok (← operation)
  catch error =>
    return .error (reasonOf error)

/-- A command on the catalog in a file. -/
def runOnFile
    (path : String) (command : Catalog → Response) : IO Response := do
  let content ← attempt (IO.FS.readFile path)
  return Command.onCatalog (fun _ => content) path command

/-- The path leads to a directory. -/
def isDirectory (path : String) : IO Bool := do
  match ← attempt (IO.FS.realPath (Path.join path ".")) with
  | .ok _ => return true
  | .error _ => return false

/-- The directories of the given paths are made, each of which lies in the next one. -/
def makeAll : List String → IO (Except String Unit)
  | [] => return .ok ()
  | path :: above => do
    match ← attempt (IO.FS.createDir path) with
    | .ok _ => return .ok ()
    | .error reason =>
      if reason = PathError.missing.message then
        match ← makeAll above with
        | .error reason => return .error reason
        | .ok _ =>
          match ← attempt (IO.FS.createDir path) with
          | .ok _ => return .ok ()
          | .error reason => return if ← isDirectory path then .ok () else .error reason
      else return if ← isDirectory path then .ok () else .error reason

/-- A catalog is begun in a directory. -/
def runInit (path : String) : IO Response := do
  let file := Path.join path Command.catalogName
  match ← attempt (IO.FS.realPath file) with
  | .ok _ => return Command.alreadyThere file
  | .error _ =>
    match ← makeAll (path :: Path.ancestors path) with
    | .error reason => return Command.notMade path reason
    | .ok _ =>
      match ← attempt (IO.FS.writeFile file (Text.unlines Command.starter)) with
      | .error reason => return Command.notWritten file reason
      | .ok _ => return Command.begun path file

/-- A command is carried out on the file system. -/
def runCommand : Command → IO Response
  | .init path => runInit path
  | .validate path list => runOnFile path (Command.validated path list)
  | .discover path root shallow format =>
    runOnFile path (Command.discovered root shallow format)
  | .plan path request format => runOnFile path (Command.planned request format)

end RecordConversion

open RecordConversion in
/-- The entry point; the exit code is 1 for a command that fails. -/
def main (arguments : List String) : IO UInt32 := do
  match Command.parse arguments with
  | .error usage =>
    let help := "usage: convplan init|validate|discover|plan [options]"
    if usage.exitCode = 0 then IO.println help else IO.eprintln help
    return usage.exitCode.toUInt32
  | .ok command =>
    let response ← runCommand command
    IO.print response.out
    IO.eprint response.err
    match response.failure? with
    | none => return 0
    | some reason =>
      IO.eprintln ("error: " ++ reason)
      return 1
