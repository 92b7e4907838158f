import RecordConversion.Catalog.Loading
import RecordConversion.Document.Yaml.Writer
import RecordConversion.Plan.Request
import RecordConversion.Proofs.Document.Restating

/-!
# Configurations that are written and read again

A part of a configuration that is absent, empty or not set is left out of its document, and a reader
takes the same for what is left out.  So from every document that says what is written for a
configuration, or for a planning request, the same configuration or request is read.

* `CatalogConfig.recovers`, `PlanRequest.recovers`: whole configurations and requests.
* `reload`: a text that is read back as the document it was written for gives the same
  configuration, with the same catalog, and the same request, whatever reads and writes.
-/

namespace RecordConversion

open Document

/-! ## Parts of a configuration -/

theorem FieldConfig.recovers :
    Recovers .loose ofDocument? toDocument := by
  refine .of_entries (fun _ => rfl) fun field backs restated => ?_
  have name : readDefault "name" none (readOptional (readText .loose)) backs = some field.name? :=
    (recovers_text .loose).optional restated (by simp)
  have type : readRequired "type" (readText .loose) backs = some field.type :=
    (recovers_text .loose).required restated (by simp)
  have embedded : readDefault "embedded" false readFlag backs = some field.embedded := by
    refine (recovers_flag .loose).orDefault restated ?_
    cases field.embedded <;> simp
  have visible : readDefault "visible" none (readOptional readFlag) backs = some field.visible? :=
    (recovers_flag .loose).optional restated (by simp)
  simp only [ofDocument?, readEntries, Option.bind_eq_bind, Option.bind_some, name, type, embedded,
    visible]
  rfl

theorem MethodConfig.recovers :
    Recovers .loose ofDocument? toDocument := by
  refine .of_entries (fun _ => rfl) fun method backs restated => ?_
  have name : readRequired "name" (readText .loose) backs = some method.name :=
    (recovers_text .loose).required restated (by simp)
  have params :
      readDefault "params" [] (readList (readText .loose)) backs = some method.params := by
    refine (recovers_text .loose).list.orDefault restated ?_
    cases method.params <;> simp [texts]
  have returns : readDefault "returns" none (readOptional (readText .loose)) backs =
      some method.returns? :=
    (recovers_text .loose).optional restated (by simp)
  have onPointer : readDefault "pointer_receiver" false readFlag backs = some method.onPointer := by
    refine (recovers_flag .loose).orDefault restated ?_
    cases method.onPointer <;> simp
  simp only [ofDocument?, readEntries, Option.bind_eq_bind, Option.bind_some, name, params, returns,
    onPointer]
  rfl

theorem TypeConfig.recovers :
    Recovers .loose ofDocument? toDocument := by
  refine .of_entries (fun _ => rfl) fun config backs restated => ?_
  have fields : readDefault "fields" none (readOptional (readList FieldConfig.ofDocument?)) backs =
      some config.fields? :=
    FieldConfig.recovers.list.optional restated (by simp)
  have underlying : readDefault "underlying" none (readOptional (readText .loose)) backs =
      some config.underlying? :=
    (recovers_text .loose).optional restated (by simp)
  have aliased : readDefault "alias" none (readOptional (readText .loose)) backs =
      some config.alias? :=
    (recovers_text .loose).optional restated (by simp)
  have methods : readDefault "methods" [] (readList MethodConfig.ofDocument?) backs =
      some config.methods := by
    refine MethodConfig.recovers.list.orDefault restated ?_
    cases config.methods <;> simp
  simp only [ofDocument?, readEntries, Option.bind_eq_bind, Option.bind_some, fields, underlying,
    aliased, methods]
  rfl

theorem NamespaceConfig.recovers :
    Recovers .loose ofDocument? toDocument := by
  refine .of_entries (fun _ => rfl) fun config backs restated => ?_
  have name : readDefault "name" none (readOptional (readText .loose)) backs = some config.name? :=
    (recovers_text .loose).optional restated (by simp)
  have module : readDefault "module" none (readOptional (readText .loose)) backs =
      some config.module? :=
    (recovers_text .loose).optional restated (by simp)
  have types : readDefault "types" Keyed.empty (readKeyed TypeConfig.ofDocument?) backs =
      some config.types :=
    TypeConfig.recovers.keyed.orDefault restated (.inl (by simp))
  simp only [ofDocument?, readEntries, Option.bind_eq_bind, Option.bind_some, name, module, types]
  rfl

/-! ## Whole configurations and requests -/

/-- A configuration is read from every document that says what is written for it. -/
theorem CatalogConfig.recovers :
    Recovers .loose ofDocument? toDocument := by
  refine .of_entries (fun _ => rfl) fun config backs restated => ?_
  have module : readDefault "module" none (readOptional (readText .loose)) backs =
      some config.module? :=
    (recovers_text .loose).optional restated (by simp)
  have namespaces :
      readDefault "namespaces" Keyed.empty (readKeyed NamespaceConfig.ofDocument?) backs =
        some config.namespaces :=
    NamespaceConfig.recovers.keyed.orDefault restated (.inl (by simp))
  simp only [ofDocument?, readEntries, Option.bind_eq_bind, Option.bind_some, module, namespaces]
  rfl

/-- A request is read from every document, loose or strict, that says what is written for it. -/
theorem PlanRequest.recovers
    (style : Style) :
    Recovers style (ofDocument? style) toDocument := by
  refine .of_entries (fun _ => rfl) fun request backs restated => ?_
  have sourcePath : readRequired "src_namespace" (readText style) backs = some request.sourcePath :=
    (recovers_text style).required restated (by simp)
  have sourceType : readRequired "src_type" (readText style) backs = some request.sourceType :=
    (recovers_text style).required restated (by simp)
  have targetPath : readRequired "dst_namespace" (readText style) backs = some request.targetPath :=
    (recovers_text style).required restated (by simp)
  have targetType : readRequired "dst_type" (readText style) backs = some request.targetType :=
    (recovers_text style).required restated (by simp)
  have functionName : readDefault "func_name" none (readOptional (readText style)) backs =
      some request.functionName? :=
    (recovers_text style).optional restated (by simp)
  have ignore : readDefault "ignore_fields" [] (readList (readText style)) backs =
      some request.ignore := by
    refine (recovers_text style).list.orDefault restated ?_
    cases request.ignore <;> simp [texts]
  simp only [ofDocument?, readEntries, Option.bind_eq_bind, Option.bind_some, sourcePath,
    sourceType, targetPath, targetType, functionName, ignore]
  rfl

/-! ## Written and read again -/

/-- A configuration that is written as a text, which is read back as the document that was written,
is read as itself.  So it is validated as before and gives the catalog that it gave, from a text and
from a file.  A planning request is read as itself in every style.  With `ofYaml?` and `toYaml` this
is said of block-structured text, and with `toJson` of the strict form of a request. -/
theorem reload
    (read : String → Option Document) (write : Document → String) :
    (∀ config : CatalogConfig, ReadsBack .loose read write config.toDocument →
      CatalogConfig.ofText read (write config.toDocument) = .ok config ∧
        (CatalogConfig.ofText read (write config.toDocument)).map CatalogConfig.validate =
          .ok config.validate ∧
        Catalog.ofText read (write config.toDocument) = Catalog.ofConfigUnchecked config ∧
        ∀ path, Catalog.ofContent read path (.ok (write config.toDocument)) =
          Catalog.ofValidConfig config) ∧
    ∀ (style : Style) (request : PlanRequest), ReadsBack style read write request.toDocument →
      PlanRequest.ofText? style read (write request.toDocument) = some request := by
  refine ⟨fun config kept => ?_, fun style request kept => ?_⟩
  · have again : CatalogConfig.ofText read (write config.toDocument) = .ok config := by
      rw [CatalogConfig.ofText, CatalogConfig.recovers.read_written kept]
    refine ⟨again, by rw [again]; rfl, by rw [Catalog.ofText, again]; rfl, fun path => ?_⟩
    rw [Catalog.ofContent, again]
    rfl
  · exact (PlanRequest.recovers style).read_written kept

/-- Namespaces and types out of order, with parts that are empty, absent or not set. -/
def CatalogConfig.sparse : CatalogConfig :=
  ⟨none, Keyed.ofList
    [("z", ⟨some "", none, Keyed.ofList
      [("B", ⟨some [], none, none, [⟨"ID", [], none, true⟩]⟩),
        ("A", ⟨some [⟨none, "B", true, some false⟩], none, none, []⟩)]⟩),
      ("a", ⟨none, none, Keyed.empty⟩)]⟩

/-- A request that names its converter and leaves out a field. -/
def PlanRequest.named : PlanRequest :=
  ⟨"z", "A", "a", "B", some "null", ["ID"]⟩

/-- The text of the request in its strict form. -/
def PlanRequest.namedJson : String :=
  "\n".intercalate
    ["\x7b", "  \"src_namespace\": \"z\",", "  \"src_type\": \"A\",",
     "  \"dst_namespace\": \"a\",", "  \"dst_type\": \"B\",",
     "  \"func_name\": \"null\",", "  \"ignore_fields\": [", "    \"ID\"", "  ]", "\x7d"]

/-- The text is read, and no other one. -/
def PlanRequest.readNamed (text : String) : Option Document :=
  if text = namedJson then
    some (.object
      [("src_namespace", .text "z"), ("src_type", .text "A"), ("dst_namespace", .text "a"),
       ("dst_type", .text "B"), ("func_name", .text "null"), ("ignore_fields", .list [.text "ID"])])
  else none

theorem reload_sparse :
    (CatalogConfig.ofYaml CatalogConfig.sparse.toDocument.toYaml = .ok .sparse ∧
      Catalog.ofYaml CatalogConfig.sparse.toDocument.toYaml = Catalog.ofConfigUnchecked .sparse ∧
      ∀ path, Catalog.ofFile path (.ok CatalogConfig.sparse.toDocument.toYaml) =
        Catalog.ofValidConfig .sparse) ∧
    PlanRequest.ofYaml? PlanRequest.named.toDocument.toYaml = some .named ∧
    PlanRequest.ofText? .strict PlanRequest.readNamed PlanRequest.named.toDocument.toJson =
      some .named := by
  obtain ⟨configs, loose⟩ := reload ofYaml? toYaml
  obtain ⟨-, strict⟩ := reload PlanRequest.readNamed toJson
  have config_kept : ReadsBack .loose ofYaml? toYaml CatalogConfig.sparse.toDocument :=
    readsBack_of_any (by decide +kernel)
  have request_kept : ReadsBack .loose ofYaml? toYaml PlanRequest.named.toDocument :=
    readsBack_of_any (by decide +kernel)
  have json_kept : ReadsBack .strict PlanRequest.readNamed toJson PlanRequest.named.toDocument :=
    readsBack_of_any (by decide +kernel)
  obtain ⟨again, -, built, opened⟩ := configs .sparse config_kept
  exact ⟨⟨again, built, opened⟩, loose .loose .named request_kept,
    strict .strict .named json_kept⟩

end RecordConversion
