import RecordConversion.Catalog.Validation
import RecordConversion.Document.Yaml.Reader

/-!
# Loading a catalog

From the text of a file to a catalog: the text must be a document, the document a configuration, and
the configuration valid.  The reader of documents is given: `ofText` and `ofContent` take any, and
`ofYaml` and `ofFile` read block-structured text.
-/

namespace RecordConversion

/-- A catalog cannot be loaded. -/
inductive CatalogError where
  | unreadable (path reason : String)
  /-- The text is no document, or the document no configuration. -/
  | malformed
  | badExpression (error : ExpressionError)
  | invalid (errors : List ValidationError)
  deriving DecidableEq, Repr

namespace CatalogError

/-- The error in words. -/
def message : CatalogError → String
  | unreadable path reason => "failed to read " ++ path ++ ": " ++ reason
  | malformed => "YAML parse error"
  | badExpression error => error.message
  | invalid errors => toString errors.length ++ " validation error(s)"

end CatalogError

namespace CatalogConfig

/-- The configuration that a text holds, given a reader of documents. -/
def ofText
    (read : String → Option Document) (text : String) : Except CatalogError CatalogConfig :=
  match (read text).bind ofDocument? with
  | some config => .ok config
  | none => .error .malformed

/-- The configuration that a block-structured text holds. -/
def ofYaml (text : String) : Except CatalogError CatalogConfig :=
  ofText Document.ofYaml? text

end CatalogConfig

namespace Catalog

/-- The catalog of a configuration, which is not validated. -/
def ofConfigUnchecked (config : CatalogConfig) : Except CatalogError Catalog :=
  match ofConfig config with
  | .ok catalog => .ok catalog
  | .error error => .error (.badExpression error)

/-- The catalog of a configuration, if it is valid. -/
def ofValidConfig (config : CatalogConfig) : Except CatalogError Catalog :=
  match config.validate with
  | [] => ofConfigUnchecked config
  | errors => .error (.invalid errors)

/-- The catalog of a text, which is not validated, given a reader of documents. -/
def ofText
    (read : String → Option Document) (text : String) : Except CatalogError Catalog :=
  (CatalogConfig.ofText read text).bind ofConfigUnchecked

/-- The catalog of a block-structured text, which is not validated. -/
def ofYaml (text : String) : Except CatalogError Catalog :=
  ofText Document.ofYaml? text

/-- The valid catalog of a file whose content is there, or not, given a reader of documents. -/
def ofContent
    (read : String → Option Document) (path : String) (content : Except String String) :
    Except CatalogError Catalog :=
  match content with
  | .error reason => .error (.unreadable path reason)
  | .ok text => (CatalogConfig.ofText read text).bind ofValidConfig

/-- The valid catalog of a file of block-structured text. -/
def ofFile
    (path : String) (content : Except String String) : Except CatalogError Catalog :=
  ofContent Document.ofYaml? path content

end Catalog
end RecordConversion
