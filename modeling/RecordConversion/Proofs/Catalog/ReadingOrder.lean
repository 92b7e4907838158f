import RecordConversion.Proofs.Catalog.Building

/-!
# The first fault of a configuration

Building reads the type expressions of a configuration one after the other.  Of a type it reads one
form only, the alias target before the underlying type before the fields, and then its methods.  It
stops at the first expression that denotes no type, with the error of that expression.

A reading that is put together from others has the fault of the first part that has one: the lemmas
`faultOf?_bind` and `faultOf?_mapM` say so for two parts and for a list of them.

* `Catalog.ofConfig_eq_error_iff`: when building fails, and with which error.
-/

namespace RecordConversion

/-- The fault of a reading that fails. -/
def faultOf? {α ε : Type} : Except ε α → Option ε
  | .ok _ => none
  | .error fault => some fault

section Parts

variable {α β ε κ : Type} {reading : Except ε α} {faultIn : κ → Option ε}

theorem faultOf?_eq_some_iff
    {fault : ε} :
    faultOf? reading = some fault ↔ reading = .error fault := by
  cases reading <;> simp [faultOf?]

theorem faultOf?_eq_none_iff :
    faultOf? reading = none ↔ ∃ value, reading = .ok value := by
  cases reading <;> simp [faultOf?]

@[simp]
theorem faultOf?_map
    (reading : Except ε α) (f : α → β) :
    faultOf? (reading.map f) = faultOf? reading := by
  cases reading <;> rfl

/-- What is made of a result without a further fault leaves the fault as it is. -/
theorem faultOf?_bind_faultless
    {further : α → Except ε β} (faultless : ∀ value, faultOf? (further value) = none) :
    faultOf? (reading >>= further) = faultOf? reading := by
  cases reading with
  | ok value => exact faultless value
  | error fault => rfl

/-- Of two readings the first one that fails gives the fault. -/
theorem faultOf?_bind
    {further : α → Except ε β} {parts more : List κ}
    (first : faultOf? reading = parts.findSome? faultIn)
    (next : ∀ value, faultOf? (further value) = more.findSome? faultIn) :
    faultOf? (reading >>= further) = (parts ++ more).findSome? faultIn := by
  rw [List.findSome?_append, ← first]
  cases reading with
  | ok value => exact next value
  | error fault => rfl

/-- The first item that cannot be read gives the fault of a traversal. -/
theorem faultOf?_mapM
    {f : β → Except ε α} {partsOf : β → List κ}
    (each : ∀ item, faultOf? (f item) = (partsOf item).findSome? faultIn) (items : List β) :
    faultOf? (items.mapM f) = (items.flatMap partsOf).findSome? faultIn := by
  induction items with
  | nil => rfl
  | cons item rest ih =>
      rw [List.mapM_cons, List.flatMap_cons]
      exact faultOf?_bind (each item) fun value =>
        (faultOf?_bind_faultless fun values => rfl).trans ih

end Parts

/-! ## The expressions that are read -/

/-- The expressions of the form of a type that is read: its alias target, else its underlying type,
else its fields. -/
def TypeConfig.formReadings (config : TypeConfig) : List String :=
  match config.alias?, config.underlying? with
  | some target, _ => [target]
  | none, some body => [body]
  | none, none => (config.fields?.getD []).map (·.type)

/-- The expressions of a type that are read, in order: those of its form, then those of its
methods. -/
def TypeConfig.readings (config : TypeConfig) : List String :=
  config.formReadings ++
    config.methods.flatMap fun method => method.params ++ method.returns?.toList

/-- The expressions of a configuration that are read, in order, with the namespaces in which they
are written. -/
def CatalogConfig.readings (config : CatalogConfig) : List (String × String) :=
  config.namespaces.entries.flatMap fun space =>
    space.2.types.entries.flatMap fun entry => entry.2.readings.map (Prod.mk space.1)

/-- The first expression that is read and denotes no type has the given error. -/
def CatalogConfig.FirstFault
    (config : CatalogConfig) (error : ExpressionError) : Prop :=
  ∃ before home expression after,
    config.readings = before ++ (home, expression) :: after ∧
    (∀ earlier ∈ before, ReadableIn earlier.1 earlier.2) ∧
    HostType.ofExpression expression home = .error error

namespace Catalog

/-- The error of an expression in a namespace. -/
def faultIn (written : String × String) : Option ExpressionError :=
  faultOf? (HostType.ofExpression written.2 written.1)

theorem faultIn_eq_none_iff
    {written : String × String} :
    faultIn written = none ↔ ReadableIn written.1 written.2 :=
  faultOf?_eq_none_iff

/-! ## The fault of what is put together -/

theorem faultOf?_ofExpression
    (home expression : String) :
    faultOf? (HostType.ofExpression expression home) = [(home, expression)].findSome? faultIn := by
  rw [List.findSome?_singleton, faultIn]

theorem faultOf?_ofExpressions
    (home : String) (expressions : List String) :
    faultOf? (expressions.mapM fun expression => HostType.ofExpression expression home) =
      (expressions.map (Prod.mk home)).findSome? faultIn := by
  rw [faultOf?_mapM (faultOf?_ofExpression home), List.map_eq_flatMap]

theorem faultOf?_readField
    (home : String) (field : FieldConfig) :
    faultOf? (readField home field) = [(home, field.type)].findSome? faultIn := by
  rw [readField, faultOf?_bind_faultless fun type => rfl]
  exact faultOf?_ofExpression home field.type

theorem faultOf?_readMethod
    (home : String) (method : MethodConfig) :
    faultOf? (readMethod home method) =
      ((method.params ++ method.returns?.toList).map (Prod.mk home)).findSome? faultIn := by
  rw [readMethod, List.map_append]
  refine faultOf?_bind (faultOf?_ofExpressions home _) fun params => ?_
  rw [faultOf?_bind_faultless fun returns => rfl]
  exact faultOf?_ofExpressions home _

theorem faultOf?_readDefinition
    (home : String) (config : TypeConfig) :
    faultOf? (readDefinition home config) =
      (config.formReadings.map (Prod.mk home)).findSome? faultIn := by
  rw [readDefinition, TypeConfig.formReadings]
  cases config.alias? with
  | some target =>
      rw [faultOf?_map]
      exact faultOf?_ofExpression home target
  | none =>
      cases config.underlying? with
      | some body =>
          rw [faultOf?_map]
          exact faultOf?_ofExpression home body
      | none =>
          rw [faultOf?_map, faultOf?_mapM (faultOf?_readField home), List.map_map,
            List.map_eq_flatMap]
          rfl

theorem faultOf?_readDeclaration
    (home name : String) (config : TypeConfig) :
    faultOf? (readDeclaration home name config) =
      (config.readings.map (Prod.mk home)).findSome? faultIn := by
  rw [readDeclaration, TypeConfig.readings, List.map_append]
  refine faultOf?_bind (faultOf?_readDefinition home config) fun definition => ?_
  rw [List.map_flatMap, faultOf?_bind_faultless fun methods => rfl]
  exact faultOf?_mapM (faultOf?_readMethod home) config.methods

theorem faultOf?_readDeclarations
    (home : String) (config : NamespaceConfig) :
    faultOf? (readDeclarations home config) =
      (config.types.entries.flatMap fun entry =>
        entry.2.readings.map (Prod.mk home)).findSome? faultIn := by
  rw [readDeclarations, faultOf?_bind_faultless fun entries => rfl]
  refine faultOf?_mapM (fun entry => ?_) config.types.entries
  rw [faultOf?_map]
  exact faultOf?_readDeclaration home entry.1 entry.2

theorem faultOf?_overlay
    (module? : Option String) (catalog : Catalog) (spaces : List (String × NamespaceConfig)) :
    faultOf? (overlay module? catalog spaces) =
      (spaces.flatMap fun space =>
        space.2.types.entries.flatMap fun entry =>
          entry.2.readings.map (Prod.mk space.1)).findSome? faultIn := by
  induction spaces generalizing catalog with
  | nil => rfl
  | cons first rest ih =>
      rw [overlay, List.flatMap_cons]
      exact faultOf?_bind (faultOf?_readDeclarations first.1 first.2) fun declarations => ih _

theorem faultOf?_ofConfig
    (config : CatalogConfig) :
    faultOf? (ofConfig config) = config.readings.findSome? faultIn :=
  faultOf?_overlay _ _ _

/-- Building fails exactly with the error of the first expression that denotes no type. -/
theorem ofConfig_eq_error_iff
    {config : CatalogConfig} {error : ExpressionError} :
    ofConfig config = .error error ↔ config.FirstFault error := by
  rw [← faultOf?_eq_some_iff, faultOf?_ofConfig, List.findSome?_eq_some_iff]
  constructor
  · rintro ⟨before, ⟨home, expression⟩, after, listed, faulty, readable⟩
    exact ⟨before, home, expression, after, listed,
      fun earlier here => faultIn_eq_none_iff.1 (readable earlier here),
      faultOf?_eq_some_iff.1 faulty⟩
  · rintro ⟨before, home, expression, after, listed, readable, faulty⟩
    exact ⟨before, (home, expression), after, listed, faultOf?_eq_some_iff.2 faulty,
      fun earlier here => faultIn_eq_none_iff.2 (readable earlier here)⟩

/-- Building fails exactly if some expression that is read denotes no type. -/
theorem exists_ofConfig_eq_error_iff
    {config : CatalogConfig} :
    (∃ error, ofConfig config = .error error) ↔
      ∃ written ∈ config.readings, ¬ ReadableIn written.1 written.2 := by
  simp only [← faultOf?_eq_some_iff, faultOf?_ofConfig, ← Option.isSome_iff_exists,
    List.isSome_findSome?, List.any_eq_true, ← faultIn_eq_none_iff, Option.isSome_iff_ne_none,
    ne_eq]

end Catalog
end RecordConversion
