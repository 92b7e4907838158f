import RecordConversion.Text.Segment

/-!
# Paths

A path is a text whose parts are separated by slashes: names, a dot for the directory itself and two
dots for the one above.  A path that begins with a slash starts from the root, any other from the
working directory.  Which paths can be used at all shows before anything is looked up.
-/

namespace RecordConversion

/-- Why a path cannot be used. -/
inductive PathError where
  | missing
  | occupied
  | notADirectory
  | isADirectory
  | nameTooLong
  | zeroByte
  deriving DecidableEq, Repr

namespace PathError

/-- The reason, with its number if it has one. -/
def message : PathError → String
  | missing => "No such file or directory (os error 2)"
  | occupied => "File exists (os error 17)"
  | notADirectory => "Not a directory (os error 20)"
  | isADirectory => "Is a directory (os error 21)"
  | nameTooLong => "File name too long (os error 36)"
  | zeroByte => "file name contained an unexpected NUL byte"

end PathError

namespace Path

/-- The path starts from the root. -/
def isAbsolute (path : String) : Bool :=
  path.toList.head? == some '/'

/-- A slash ends the path, so that it leads to a directory. -/
def endsInSlash (path : String) : Bool :=
  path.toList.getLast? == some '/'

/-- The path with a further name. -/
def join (path name : String) : String :=
  if path.isEmpty || endsInSlash path then path ++ name else path ++ "/" ++ name

/-- The names and dots of the path. -/
def parts (path : String) : List String :=
  ((path.toList.splitOnP (· == '/')).filter (!·.isEmpty)).map String.ofList

/-- The path from the root or the working directory through the given parts. -/
def ofParts
    (absolute : Bool) (parts : List String) : String :=
  (if absolute then "/" else "") ++ "/".intercalate parts

/-- The directories above the place of a path on the way to it, nearest first; the beginning of the
way is none of them. -/
def ancestors (path : String) : List String :=
  let names := (parts path).filter (· != ".")
  ((List.range names.length).drop 1).reverse.map fun count =>
    ofParts (isAbsolute path) (names.take count)

/-- The number of bytes that a name may have. -/
def nameLimit : Nat := 255

/-- The number of bytes that a path may have. -/
def lengthLimit : Nat := 4095

/-- Why the path can lead nowhere, whatever there is. -/
def fault? (path : String) : Option PathError :=
  if path.toList.contains (Char.ofNat 0) then some .zeroByte
  else if path.isEmpty then some .missing
  else if lengthLimit < path.utf8ByteSize then some .nameTooLong
  else none

end Path
end RecordConversion
