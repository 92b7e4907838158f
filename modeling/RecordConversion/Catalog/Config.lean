import RecordConversion.Document.Reading
import RecordConversion.Text.Blank
import RecordConversion.Text.Letter
import RecordConversion.Text.Segment

/-!
# Catalog configuration

What a catalog file says, before any type expression in it is read: namespaces by path, and in each
namespace types by name, given by fields, by an underlying type or by the target of an alias.  The
configuration is read from a loose document and written back as one.
-/

namespace RecordConversion

/-- A field of a record, as configured. -/
structure FieldConfig where
  name? : Option String
  type : String
  embedded : Bool
  /-- Overrides the rule that an upper-case first letter makes a field visible. -/
  visible? : Option Bool
  deriving DecidableEq, Repr

/-- A method of a type, as configured. -/
structure MethodConfig where
  name : String
  params : List String
  returns? : Option String
  onPointer : Bool
  deriving DecidableEq, Repr

/-- A named type, as configured. -/
structure TypeConfig where
  fields? : Option (List FieldConfig)
  underlying? : Option String
  alias? : Option String
  methods : List MethodConfig
  deriving DecidableEq, Repr

/-- A namespace, as configured. -/
structure NamespaceConfig where
  /-- The qualifier used from other namespaces. -/
  name? : Option String
  module? : Option String
  types : Keyed TypeConfig
  deriving DecidableEq

/-- A whole catalog, as configured. -/
structure CatalogConfig where
  /-- The module of every namespace that names none. -/
  module? : Option String
  namespaces : Keyed NamespaceConfig
  deriving DecidableEq

namespace FieldConfig

/-- The name of a field: the one it is given, or else that of the type it embeds. -/
def effectiveName? (field : FieldConfig) : Option String :=
  match field.name? with
  | some name => some name
  | none =>
    if field.embedded then
      let base := (Text.strip field.type.toList).dropWhile (· == '*')
      match Text.afterLast '.' base with
      | [] => none
      | name => some (String.ofList name)
    else none

/-- The field can be used outside its namespace under the given name. -/
def isVisible (field : FieldConfig) (name : String) : Bool :=
  field.visible?.getD (name.toList.head?.any Text.isUppercase)

/-! ## Documents -/

/-- The field that a document describes. -/
def ofDocument? (document : Document) : Option FieldConfig := do
  let entries ← document.readEntries
  let name? ← entries |> Document.readDefault "name" none
    (Document.readOptional (Document.readText .loose))
  let type ← entries |> Document.readRequired "type" (Document.readText .loose)
  let embedded ← entries |> Document.readDefault "embedded" false Document.readFlag
  let visible? ← entries |> Document.readDefault "visible" none
    (Document.readOptional Document.readFlag)
  return { name?, type, embedded, visible? }

/-- The document of a field; what is absent or not set is left out. -/
def toDocument (field : FieldConfig) : Document :=
  .object
    (Document.entry? "name" (field.name?.map .text) ++ [("type", .text field.type)] ++
      Document.entryIf field.embedded "embedded" (.flag true) ++
      Document.entry? "visible" (field.visible?.map .flag))

end FieldConfig

namespace MethodConfig

/-- The method that a document describes. -/
def ofDocument? (document : Document) : Option MethodConfig := do
  let entries ← document.readEntries
  let name ← entries |> Document.readRequired "name" (Document.readText .loose)
  let params ← entries |> Document.readDefault "params" []
    (Document.readList (Document.readText .loose))
  let returns? ← entries |> Document.readDefault "returns" none
    (Document.readOptional (Document.readText .loose))
  let onPointer ← entries |> Document.readDefault "pointer_receiver" false Document.readFlag
  return { name, params, returns?, onPointer }

/-- The document of a method. -/
def toDocument (method : MethodConfig) : Document :=
  .object
    ([("name", .text method.name)] ++
      Document.entryIf (!method.params.isEmpty) "params" (.texts method.params) ++
      Document.entry? "returns" (method.returns?.map .text) ++
      Document.entryIf method.onPointer "pointer_receiver" (.flag true))

end MethodConfig

namespace TypeConfig

/-- The expressions of a type, in the order in which they are written. -/
def expressions (config : TypeConfig) : List String :=
  (config.fields?.getD []).map (·.type) ++ config.underlying?.toList ++ config.alias?.toList ++
    config.methods.flatMap fun method => method.params ++ method.returns?.toList

/-- The type that a document describes. -/
def ofDocument? (document : Document) : Option TypeConfig := do
  let entries ← document.readEntries
  let fields? ← entries |> Document.readDefault "fields" none
    (Document.readOptional (Document.readList FieldConfig.ofDocument?))
  let underlying? ← entries |> Document.readDefault "underlying" none
    (Document.readOptional (Document.readText .loose))
  let alias? ← entries |> Document.readDefault "alias" none
    (Document.readOptional (Document.readText .loose))
  let methods ← entries |> Document.readDefault "methods" []
    (Document.readList MethodConfig.ofDocument?)
  return { fields?, underlying?, alias?, methods }

/-- The document of a type. -/
def toDocument (config : TypeConfig) : Document :=
  .object
    (Document.entry? "fields"
        (config.fields?.map fun fields => .list (fields.map FieldConfig.toDocument)) ++
      Document.entry? "underlying" (config.underlying?.map .text) ++
      Document.entry? "alias" (config.alias?.map .text) ++
      Document.entryIf (!config.methods.isEmpty) "methods"
        (.list (config.methods.map MethodConfig.toDocument)))

end TypeConfig

namespace NamespaceConfig

/-- The namespace that a document describes. -/
def ofDocument? (document : Document) : Option NamespaceConfig := do
  let entries ← document.readEntries
  let name? ← entries |> Document.readDefault "name" none
    (Document.readOptional (Document.readText .loose))
  let module? ← entries |> Document.readDefault "module" none
    (Document.readOptional (Document.readText .loose))
  let types ← entries |> Document.readDefault "types" Keyed.empty
    (Document.readKeyed TypeConfig.ofDocument?)
  return { name?, module?, types }

/-- The document of a namespace. -/
def toDocument (config : NamespaceConfig) : Document :=
  .object
    (Document.entry? "name" (config.name?.map .text) ++
      Document.entry? "module" (config.module?.map .text) ++
      [("types", .object (config.types.entries.map fun entry => (entry.1, entry.2.toDocument)))])

end NamespaceConfig

namespace CatalogConfig

/-- The catalog that a document describes. -/
def ofDocument? (document : Document) : Option CatalogConfig := do
  let entries ← document.readEntries
  let module? ← entries |> Document.readDefault "module" none
    (Document.readOptional (Document.readText .loose))
  let namespaces ← entries |> Document.readDefault "namespaces" Keyed.empty
    (Document.readKeyed NamespaceConfig.ofDocument?)
  return { module?, namespaces }

/-- The document of a catalog. -/
def toDocument (config : CatalogConfig) : Document :=
  .object
    (Document.entry? "module" (config.module?.map .text) ++
      [("namespaces",
        .object (config.namespaces.entries.map fun entry => (entry.1, entry.2.toDocument)))])

/-- The number of types declared in all namespaces. -/
def typeCount (config : CatalogConfig) : Nat :=
  (config.namespaces.values.flatMap fun space => space.types.keys).length

end CatalogConfig
end RecordConversion
