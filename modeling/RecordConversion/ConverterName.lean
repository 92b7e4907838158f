import RecordConversion.HostType.Basic
import RecordConversion.Text.LetterCase
import RecordConversion.Text.Segment

/-!
# Names of converters

The name of a converter is a function of the two records alone, so a rule that calls a converter and
the plan that defines it agree without talking to each other.  Records of the same name are told
apart by a token for their namespace.
-/

namespace RecordConversion

/-- The token of a namespace: the alphanumeric parts of the last segment of its path, each with its
first character in upper case, or a fixed word if there are none. -/
def namespaceToken (path : String) : String :=
  let parts := (Text.lastSegment path).splitOnP fun c => !Text.isAlphanumeric c
  match parts.flatMap Text.capitalized with
  | [] => "Pkg"
  | token => String.ofList token

/-- The name of the converter from one record to another. -/
def converterName (source target : QualifiedName) : String :=
  if source.name = target.name then
    "Convert" ++ namespaceToken source.path ++ source.name ++ "To" ++
      namespaceToken target.path ++ target.name
  else
    "Convert" ++ source.name ++ "To" ++ target.name

end RecordConversion
