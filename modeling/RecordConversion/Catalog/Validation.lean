import RecordConversion.Catalog.Basic

/-!
# Validation of a catalog

A configuration is checked in two rounds.  The first looks at each declaration on its own: names,
the one form that a type must have, fields and the grammar of type expressions.  The second looks at
the whole, and only if the first found nothing: every name that is used must be declared, and every
chain of names must end.
-/

namespace RecordConversion

/-- What is wrong with one declaration. -/
inductive DeclarationFault where
  | notOneForm
  | aliasWithMethods
  | duplicateField (name : String)
  | unnamedField (type : String)
  | badExpression (error : ExpressionError)
  | unknownType (ref : QualifiedName)
  | aliasCycle
  | unresolved
  deriving DecidableEq, Repr

/-- One thing that is wrong with a configuration. -/
inductive ValidationError where
  | badPath (path : String)
  | badTypeName (path name : String)
  | inDeclaration (ref : QualifiedName) (fault : DeclarationFault)
  | notBuilt (error : ExpressionError)
  deriving DecidableEq, Repr

namespace DeclarationFault

/-- The fault in words. -/
def message : DeclarationFault → String
  | notOneForm => "exactly one of fields, underlying, alias must be set"
  | aliasWithMethods => "aliases cannot declare methods"
  | duplicateField name => "duplicate field " ++ Text.quoted name
  | unnamedField type => "field of type " ++ Text.quoted type ++ " has no name"
  | badExpression error => error.message
  | unknownType ref => "unknown type " ++ ref.text
  | aliasCycle => "alias cycle"
  | unresolved => "underlying type does not resolve"

end DeclarationFault

namespace ValidationError

/-- The error in words. -/
def message : ValidationError → String
  | badPath path => "invalid namespace path " ++ Text.quoted path
  | badTypeName path name => path ++ ": invalid type name " ++ Text.quoted name
  | inDeclaration ref fault => ref.key ++ ": " ++ fault.message
  | notBuilt error => error.message

end ValidationError

namespace HostType

mutual

/-- The names in a type, in the order in which they are written. -/
def names : HostType → List QualifiedName
  | .named ref => [ref]
  | .pointer target => target.names
  | .slice element => element.names
  | .map key value => key.names ++ value.names
  | .record body => memberNames body
  | .primitive _ | .interface | .other _ => []

/-- The names in the types of members. -/
def memberNames : List Field → List QualifiedName
  | [] => []
  | ⟨_, type, _, _⟩ :: rest => type.names ++ memberNames rest

end

end HostType

namespace TypeConfig

/-- The number of forms that are given for a type. -/
def formCount (config : TypeConfig) : Nat :=
  [config.fields?.isSome, config.underlying?.isSome, config.alias?.isSome].count true

/-- Faults of the names of fields, when the given names have been used before. -/
def fieldFaults : List String → List FieldConfig → List DeclarationFault
  | _, [] => []
  | used, field :: rest =>
    match field.effectiveName? with
    | none => .unnamedField field.type :: fieldFaults used rest
    | some name =>
      if used.contains name then .duplicateField name :: fieldFaults used rest
      else fieldFaults (name :: used) rest

/-- Faults of type expressions that are written in a namespace. -/
def expressionFaults
    (home : String) (expressions : List String) : List DeclarationFault :=
  expressions.filterMap fun expression =>
    match HostType.ofExpression expression home with
    | .ok _ => none
    | .error error => some (.badExpression error)

/-- Faults that a declaration shows on its own. -/
def faults
    (home : String) (config : TypeConfig) : List DeclarationFault :=
  (if config.formCount = 1 then [] else [.notOneForm]) ++
    (if config.alias?.isSome && !config.methods.isEmpty then [.aliasWithMethods] else []) ++
    fieldFaults [] (config.fields?.getD []) ++
    expressionFaults home config.expressions

/-- Faults that a declaration shows among the others. -/
def linkFaults
    (catalog : Catalog) (ref : QualifiedName) (config : TypeConfig) : List DeclarationFault :=
  let types := config.expressions.filterMap fun expression =>
    (HostType.ofExpression expression ref.path).toOption
  let unknown := (types.flatMap HostType.names).filter fun name => (catalog.lookup name).isNone
  let endsAsText : HostType → Bool
    | .other _ => true
    | _ => false
  unknown.map .unknownType ++
    (if config.alias?.isSome && endsAsText (catalog.table.resolve (.named ref)) then [.aliasCycle]
      else []) ++
    (if config.underlying?.isSome && endsAsText (catalog.table.underlying (.named ref)) then
      [.unresolved] else [])

end TypeConfig

namespace CatalogConfig

/-- The first round: each declaration on its own. -/
def ownErrors (config : CatalogConfig) : List ValidationError :=
  config.namespaces.entries.flatMap fun (path, space) =>
    (if (Text.strip path.toList).isEmpty || path.toList.any Text.isBlank then [.badPath path]
      else []) ++
    space.types.entries.flatMap fun (name, type) =>
      (if Text.isIdentifier name.toList then [] else [.badTypeName path name]) ++
      (type.faults path).map (.inDeclaration ⟨path, name⟩)

/-- The second round: the declarations among each other, in the catalog that they build. -/
def linkErrors
    (config : CatalogConfig) (catalog : Catalog) : List ValidationError :=
  config.namespaces.entries.flatMap fun (path, space) =>
    space.types.entries.flatMap fun (name, type) =>
      (type.linkFaults catalog ⟨path, name⟩).map (.inDeclaration ⟨path, name⟩)

/-- Everything that is wrong with a configuration. -/
def validate (config : CatalogConfig) : List ValidationError :=
  match config.ownErrors with
  | [] =>
    match Catalog.ofConfig config with
    | .ok catalog => config.linkErrors catalog
    | .error error => [.notBuilt error]
  | errors => errors

end CatalogConfig
end RecordConversion
