import RecordConversion.Declarations.Compatibility
import RecordConversion.Declarations.Stringer
import RecordConversion.Text.Quoted
import RecordConversion.Text.Segment

/-!
# Providers of type information

Discovery and the conversion rules ask a provider: it loads namespaces, holds declarations, names
namespaces in type texts and answers how two types relate.  Only the first two are its own business;
the rest follows from them unless the provider knows better.
-/

namespace RecordConversion

/-- A namespace that has been loaded. -/
structure Namespace where
  path : String
  /-- The qualifier of its names elsewhere. -/
  localName : String
  /-- The root path of the module that it belongs to. -/
  modulePath? : Option String
  deriving DecidableEq, Repr

/-- The root path of the module that a namespace belongs to, if it is not empty. -/
def Namespace.rootModule? (space : Namespace) : Option String :=
  space.modulePath?.filter fun root => !root.isEmpty

/-- A namespace cannot be loaded. -/
inductive ProviderError where
  | namespaceNotFound (path : String)
  | unavailable (path reason : String)
  deriving DecidableEq, Repr

namespace ProviderError

/-- The error in words. -/
def message : ProviderError → String
  | namespaceNotFound path => "namespace " ++ Text.quoted path ++ " not found"
  | unavailable path reason => "namespace " ++ Text.quoted path ++ " is unavailable: " ++ reason

end ProviderError

/-- The qualifier of a namespace of which only the path is known: its last segment. -/
def defaultLocalName (path : String) : String :=
  String.ofList (Text.lastSegment path)

/-- A source of type information. -/
structure Provider where
  declarations : Declarations
  load : String → Except ProviderError Namespace
  localName : String → String := defaultLocalName
  identical : HostType → HostType → Bool := declarations.identical
  assignable : HostType → HostType → Bool := declarations.assignable
  convertible : HostType → HostType → Bool := declarations.convertible
  supportsStringer : HostType → Bool := declarations.supportsStringer

/-! ## Spelling types in generated code -/

mutual

/-- The spelling of a type inside a namespace: its own names are bare, those of other namespaces
have the local name of their namespace before them. -/
def spellWith
    (localName : String → String) (inside : String) : HostType → String
  | .primitive kind => kind.name
  | .named ref =>
    if ref.path.isEmpty || ref.path == inside then ref.name
    else localName ref.path ++ "." ++ ref.name
  | .pointer target => "*" ++ spellWith localName inside target
  | .slice element => "[]" ++ spellWith localName inside element
  | .map key value =>
    "map[" ++ spellWith localName inside key ++ "]" ++ spellWith localName inside value
  | .interface => "interface\x7b\x7d"
  | .record body =>
    "struct\x7b" ++ "; ".intercalate (spellMembersWith localName inside body) ++ "\x7d"
  | .other spelling => spelling

/-- The spellings of the members of a record body inside a namespace. -/
def spellMembersWith
    (localName : String → String) (inside : String) : List Field → List String
  | [] => []
  | ⟨name, type, embedded, _⟩ :: rest =>
    (if embedded then spellWith localName inside type
      else name ++ " " ++ spellWith localName inside type) ::
      spellMembersWith localName inside rest

end

namespace Provider

/-- The spelling of a type inside a namespace. -/
def spell
    (provider : Provider) (inside : String) (type : HostType) : String :=
  spellWith provider.localName inside type

end Provider
end RecordConversion
