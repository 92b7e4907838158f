import RecordConversion.Catalog.Loading
import RecordConversion.Catalog.Summary
import RecordConversion.CommandLine.Arguments
import RecordConversion.CommandLine.FileTree
import RecordConversion.Document.Json
import RecordConversion.Document.Yaml.Writer
import RecordConversion.Plan.Report

/-!
# Carrying out commands

The commands that work on a catalog are functions of the content of its file.  Only the first
command changes anything: it writes a catalog to begin with.  `FileTree.run` carries out any command
in a directory that is a value.
-/

namespace RecordConversion

/-- What a command prints, and why it fails if it does. -/
structure Response where
  out : String
  err : String
  failure? : Option String
  deriving DecidableEq, Repr

namespace Response

/-- A command that prints and succeeds. -/
def done (out : String) : Response := ⟨out, "", none⟩

/-- A command that fails. -/
def failed (reason : String) : Response := ⟨"", "", some reason⟩

/-- A command that fails on a catalog; each validation error is printed. -/
def ofCatalogError (error : CatalogError) : Response :=
  let notes :=
    match error with
    | .invalid errors => errors.map fun error => "  ERROR: " ++ error.message ++ "\n"
    | _ => []
  ⟨"", String.join notes, some error.message⟩

end Response

namespace OutputFormat

/-- A document or its report in a format, with a line break at its end. -/
def render
    (format : OutputFormat) (report : String) (document : Document) : String :=
  match format with
  | text => report
  | yaml => document.toYaml
  | json => document.toJson ++ "\n"

end OutputFormat

namespace Command

/-- The summary of a valid catalog if it is wanted, and the number of its types. -/
def validated
    (path : String) (list : Bool) (catalog : Catalog) : Response :=
  let declared := catalog.typeCount - Catalog.builtin.typeCount
  .done
    ((if list then catalog.summary else "") ++ "OK: " ++ path ++ " (" ++ toString declared ++
      " declared types)\n")

/-- The records that a root reaches, or the root alone. -/
def discovered
    (root : QualifiedName) (shallow : Bool) (format : OutputFormat) (catalog : Catalog) :
    Response :=
  let result :=
    if shallow then (catalog.provider.record? root).map fun record => [record]
    else (catalog.provider.discover root).value
  match result with
  | .error error => .failed error.message
  | .ok records =>
    .done (format.render (Record.report records) (.list (records.map Record.toDocument)))

/-- The plan for a request. -/
def planned
    (request : PlanRequest) (format : OutputFormat) (catalog : Catalog) : Response :=
  match (catalog.provider.plan request).value with
  | .error error => .failed error.message
  | .ok result => .done (format.render result.report result.toDocument)

/-- A command on a valid catalog, given how files are read. -/
def onCatalog
    (read : String → Except String String) (path : String) (command : Catalog → Response) :
    Response :=
  match Catalog.ofFile path (read path) with
  | .error error => .ofCatalogError error
  | .ok catalog => command catalog

/-! ## A catalog to begin with -/

/-- The name of a catalog file. -/
def catalogName : String := "catalog.yaml"

/-- A catalog of two namespaces with records that convert into each other. -/
def starter : List String :=
  ["module: example.com/app",
   "",
   "namespaces:",
   "  example.com/app/model:",
   "    types:",
   "      Address:",
   "        fields:",
   "          - \x7b name: Street, type: string \x7d",
   "          - \x7b name: City, type: string \x7d",
   "      User:",
   "        fields:",
   "          - \x7b name: ID, type: int \x7d",
   "          - \x7b name: Name, type: string \x7d",
   "          - \x7b name: Email, type: database/sql.NullString \x7d",
   "          - \x7b name: Home, type: Address \x7d",
   "          - \x7b name: CreatedAt, type: time.Time \x7d",
   "",
   "  example.com/app/dto:",
   "    types:",
   "      Address:",
   "        fields:",
   "          - \x7b name: Street, type: string \x7d",
   "          - \x7b name: City, type: string \x7d",
   "      UserDTO:",
   "        fields:",
   "          - \x7b name: ID, type: int64 \x7d",
   "          - \x7b name: Name, type: string \x7d",
   "          - \x7b name: Email, type: string \x7d",
   "          - \x7b name: Home, type: \"*Address\" \x7d",
   "          - \x7b name: CreatedAt, type: string \x7d"]

/-- There is a catalog already. -/
def alreadyThere (file : String) : Response :=
  .failed (file ++ " already exists")

/-- The directory of the catalog cannot be made. -/
def notMade (path reason : String) : Response :=
  .failed ("cannot create " ++ path ++ ": " ++ reason)

/-- The catalog cannot be written. -/
def notWritten (file reason : String) : Response :=
  .failed ("cannot write " ++ file ++ ": " ++ reason)

/-- The catalog has been written. -/
def begun (path file : String) : Response :=
  .done
    ("Initialized convplan catalog at " ++ path ++ "\n" ++
      "  Created: " ++ file ++ "\n" ++
      "  Try: convplan plan -c " ++ file ++
      " --src-path example.com/app/model --src-type User" ++
      " --dst-path example.com/app/dto --dst-type UserDTO\n")

end Command

namespace FileTree

/-- The content of a file, or the reason in words. -/
def readText
    (tree : FileTree) (path : String) : Except String String :=
  match tree.read path with
  | .ok content => .ok content
  | .error error => .error error.message

/-- A catalog is begun in a directory of the tree. -/
def begin (tree : FileTree) (path : String) : Response × FileTree :=
  let file := Path.join path Command.catalogName
  if tree.contains file then (Command.alreadyThere file, tree)
  else
    match tree.makeDirectories path with
    | (made, some error) => (Command.notMade path error.message, made)
    | (made, none) =>
      match made.write file (Text.unlines Command.starter) with
      | .error error => (Command.notWritten file error.message, made)
      | .ok written => (Command.begun path file, written)

/-- A command is carried out in the tree. -/
def run (tree : FileTree) : Command → Response × FileTree
  | .init path => tree.begin path
  | .validate path list =>
    (Command.onCatalog tree.readText path (Command.validated path list), tree)
  | .discover path root shallow format =>
    (Command.onCatalog tree.readText path (Command.discovered root shallow format), tree)
  | .plan path request format =>
    (Command.onCatalog tree.readText path (Command.planned request format), tree)

end FileTree
end RecordConversion
