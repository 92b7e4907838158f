import RecordConversion.Catalog.Config
import RecordConversion.HostType.Expression
import RecordConversion.Provider

/-!
# Catalogs

A catalog holds namespaces with their declarations in memory and is a provider of type information.
The predeclared namespaces come first, so that times and nullable values have a meaning without
being declared; a configuration is laid over them.  A namespace that is already there takes the new
description and keeps its other declarations.

Building reads every type expression and fails at the first that has no meaning.  Whether names are
declared and chains of names end is the business of validation.
-/

namespace RecordConversion

/-- A namespace of a catalog with its declarations. -/
structure CatalogSpace where
  info : Namespace
  declarations : Keyed Declaration

/-- Namespaces by path. -/
structure Catalog where
  spaces : Keyed CatalogSpace

namespace Catalog

/-! ## Predeclared namespaces -/

/-- A field that is visible by the case of its first letter. -/
def plainField
    (name : String) (type : HostType) : Field :=
  ⟨name, type, false, name.toList.head?.any Text.isUppercase⟩

/-- A declaration in a predeclared namespace. -/
def predeclared
    (path name : String) (body : HostType) (methods : List Method) : String × Declaration :=
  (name, ⟨⟨path, name⟩, .defined body, methods⟩)

/-- The method that gives the text of a value. -/
def stringMethod (onPointer : Bool) : Method :=
  ⟨"String", [], [.primitive .string], onPointer⟩

/-- Points in time and what belongs to them. -/
def timeSpace : CatalogSpace where
  info := ⟨"time", "time", none⟩
  declarations := Keyed.ofList
    [predeclared "time" "Time"
      (.record
        [plainField "wall" (.primitive .uint64), plainField "ext" (.primitive .int64),
         plainField "loc" (.pointer (.named ⟨"time", "Location"⟩))])
      [stringMethod false,
       ⟨"IsZero", [], [.primitive .bool], false⟩,
       ⟨"Format", [.primitive .string], [.primitive .string], false⟩,
       ⟨"Unix", [], [.primitive .int64], false⟩],
     predeclared "time" "Location" (.record [plainField "name" (.primitive .string)])
      [stringMethod true],
     predeclared "time" "Duration" (.primitive .int64) [stringMethod false],
     predeclared "time" "Month" (.primitive .int) [stringMethod false]]

/-- A value beside a flag that says whether there is one. -/
def nullable
    (name payload : String) (type : HostType) : String × Declaration :=
  predeclared "database/sql" name
    (.record [plainField payload type, plainField "Valid" (.primitive .bool)]) []

/-- Nullable values of databases. -/
def sqlSpace : CatalogSpace where
  info := ⟨"database/sql", "sql", none⟩
  declarations := Keyed.ofList
    [nullable "NullString" "String" (.primitive .string),
     nullable "NullInt64" "Int64" (.primitive .int64),
     nullable "NullInt32" "Int32" (.primitive .int32),
     nullable "NullInt16" "Int16" (.primitive .int16),
     nullable "NullFloat64" "Float64" (.primitive .float64),
     nullable "NullBool" "Bool" (.primitive .bool),
     nullable "NullByte" "Byte" (.primitive .uint8),
     nullable "NullTime" "Time" (.named ⟨"time", "Time"⟩)]

/-- The catalog of the predeclared namespaces alone. -/
def builtin : Catalog :=
  ⟨Keyed.ofList [("time", timeSpace), ("database/sql", sqlSpace)]⟩

/-! ## Reading a catalog -/

/-- The paths of the namespaces in order. -/
def paths (catalog : Catalog) : List String :=
  catalog.spaces.keys

/-- The declarations of a namespace in order. -/
def declarationsIn
    (catalog : Catalog) (path : String) : List Declaration :=
  match catalog.spaces.get? path with
  | some space => space.declarations.values
  | none => []

/-- The number of declared types. -/
def typeCount (catalog : Catalog) : Nat :=
  (catalog.spaces.values.flatMap fun space => space.declarations.keys).length

/-- The declaration of a name. -/
def lookup
    (catalog : Catalog) (ref : QualifiedName) : Option Declaration :=
  (catalog.spaces.get? ref.path).bind fun space => space.declarations.get? ref.name

/-- The description of a namespace. -/
def load
    (catalog : Catalog) (path : String) : Except ProviderError Namespace :=
  match catalog.spaces.get? path with
  | some space => .ok space.info
  | none => .error (.namespaceNotFound path)

/-- The qualifier of the names of a namespace. -/
def localName (catalog : Catalog) (path : String) : String :=
  match catalog.spaces.get? path with
  | some space => space.info.localName
  | none => defaultLocalName path

/-- The declarations of all namespaces under their qualified names. -/
def table (catalog : Catalog) : Declarations where
  entries := catalog.spaces.entries.flatMap fun (path, space) =>
    space.declarations.entries.map fun (name, declaration) => (⟨path, name⟩, declaration)

/-- A catalog as a provider. -/
def provider (catalog : Catalog) : Provider where
  declarations := catalog.table
  load := catalog.load
  localName := catalog.localName

/-! ## Building a catalog -/

/-- The catalog with a namespace laid over it. -/
def extend
    (catalog : Catalog) (info : Namespace) (declarations : Keyed Declaration) : Catalog :=
  match catalog.spaces.get? info.path with
  | some space =>
    ⟨catalog.spaces.insert info.path ⟨info, space.declarations.insertAll declarations.entries⟩⟩
  | none => ⟨catalog.spaces.insert info.path ⟨info, declarations⟩⟩

/-- The member that a field configuration declares in a namespace. -/
def readField
    (home : String) (field : FieldConfig) : Except ExpressionError Field := do
  let type ← HostType.ofExpression field.type home
  let name := field.effectiveName?.getD ""
  return ⟨name, type, field.embedded, field.isVisible name⟩

/-- What a configured type stands for: its alias target, else its underlying type, else a record of
its fields. -/
def readDefinition
    (home : String) (config : TypeConfig) : Except ExpressionError Definition :=
  match config.alias?, config.underlying? with
  | some target, _ => (HostType.ofExpression target home).map .alias
  | none, some body => (HostType.ofExpression body home).map .defined
  | none, none =>
    ((config.fields?.getD []).mapM (readField home)).map fun body => .defined (.record body)

/-- The method that a method configuration declares in a namespace. -/
def readMethod
    (home : String) (method : MethodConfig) : Except ExpressionError Method := do
  let params ← method.params.mapM fun param => HostType.ofExpression param home
  let returns ← method.returns?.toList.mapM fun result => HostType.ofExpression result home
  return ⟨method.name, params, returns, method.onPointer⟩

/-- The declaration of a configured type. -/
def readDeclaration
    (home name : String) (config : TypeConfig) : Except ExpressionError Declaration := do
  let definition ← readDefinition home config
  let methods ← config.methods.mapM (readMethod home)
  return ⟨⟨home, name⟩, definition, methods⟩

/-- The declarations of a configured namespace. -/
def readDeclarations
    (home : String) (config : NamespaceConfig) : Except ExpressionError (Keyed Declaration) := do
  let entries ← config.types.entries.mapM fun (name, type) =>
    (readDeclaration home name type).map fun declaration => (name, declaration)
  return Keyed.ofList entries

/-- The description of a configured namespace in a catalog of the given module. -/
def describe
    (module? : Option String) (path : String) (config : NamespaceConfig) : Namespace where
  path := path
  localName := config.name?.getD (defaultLocalName path)
  modulePath? := config.module?.or module?

/-- The catalog with the configured namespaces laid over it, in order. -/
def overlay
    (module? : Option String) :
    Catalog → List (String × NamespaceConfig) → Except ExpressionError Catalog
  | catalog, [] => .ok catalog
  | catalog, (path, config) :: rest => do
    let declarations ← readDeclarations path config
    overlay module? (catalog.extend (describe module? path config) declarations) rest

/-- The catalog of a configuration. -/
def ofConfig (config : CatalogConfig) : Except ExpressionError Catalog :=
  overlay config.module? builtin config.namespaces.entries

end Catalog
end RecordConversion
