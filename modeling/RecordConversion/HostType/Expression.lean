import RecordConversion.HostType.Basic
import RecordConversion.Text.Quoted
import RecordConversion.Text.Segment

/-!
# Type expressions

The reader of types as they are written in a declaration.  An unqualified name refers to the
namespace in which it is written; `path/to/space.Name` is qualified by what stands before its last
dot.  Arrays, channels, functions and literal record bodies are kept as text.

`HostType.read` is total by the length of the text, which every step shortens.
-/

namespace RecordConversion

/-- Why a type expression has no meaning. -/
inductive ExpressionFault where
  | emptyType
  | unclosedKey
  | badPath (expression : String)
  | badName (name : String)
  deriving DecidableEq, Repr

namespace ExpressionFault

/-- The fault in words. -/
def message : ExpressionFault → String
  | emptyType => "empty type"
  | unclosedKey => "unclosed map key"
  | badPath expression => "invalid namespace in " ++ Text.quoted expression
  | badName name => "invalid type name " ++ Text.quoted name

end ExpressionFault

/-- A type expression together with its fault. -/
structure ExpressionError where
  expression : String
  fault : ExpressionFault
  deriving DecidableEq, Repr

namespace ExpressionError

/-- The error in words. -/
def message (error : ExpressionError) : String :=
  "invalid type expression " ++ Text.quoted error.expression ++ ": " ++ error.fault.message

end ExpressionError

namespace HostType

/-- The text up to the bracket that closes `depth + 1` open ones, and the text after it. -/
def splitAtClose : Nat → List Char → Option (List Char × List Char)
  | _, [] => none
  | 0, ']' :: rest => some ([], rest)
  | depth + 1, ']' :: rest => (splitAtClose depth rest).map fun (a, b) => (']' :: a, b)
  | depth, '[' :: rest => (splitAtClose (depth + 1) rest).map fun (a, b) => ('[' :: a, b)
  | depth, c :: rest => (splitAtClose depth rest).map fun (a, b) => (c :: a, b)

theorem length_splitAtClose
    {depth : Nat} {cs a b : List Char}
    (h : splitAtClose depth cs = some (a, b)) :
    a.length + b.length < cs.length := by
  fun_induction splitAtClose depth cs generalizing a b with
  | case1 => simp at h
  | case2 rest =>
      simp only [Option.some.injEq, Prod.mk.injEq] at h
      obtain ⟨rfl, rfl⟩ := h
      simp
  | case3 depth rest ih =>
      obtain ⟨⟨a', b'⟩, h', e⟩ := Option.map_eq_some_iff.1 h
      simp only [Prod.mk.injEq] at e
      obtain ⟨rfl, rfl⟩ := e
      have := ih h'
      simp only [List.length_cons]
      omega
  | case4 depth rest ih =>
      obtain ⟨⟨a', b'⟩, h', e⟩ := Option.map_eq_some_iff.1 h
      simp only [Prod.mk.injEq] at e
      obtain ⟨rfl, rfl⟩ := e
      have := ih h'
      simp only [List.length_cons]
      omega
  | case5 depth c rest _ _ _ ih =>
      obtain ⟨⟨a', b'⟩, h', e⟩ := Option.map_eq_some_iff.1 h
      simp only [Prod.mk.injEq] at e
      obtain ⟨rfl, rfl⟩ := e
      have := ih h'
      simp only [List.length_cons]
      omega

/-- The openings of types that are kept as text: channels, functions, record bodies and arrays. -/
def textOpenings : List (List Char) :=
  ["chan ".toList, "<-chan ".toList, "func(".toList, "struct\x7b".toList, "[".toList]

/-- The empty interface, by its short name or with blanks among its characters. -/
def isInterfaceText (cs : List Char) : Bool :=
  cs == "any".toList || cs.filter (· != ' ') == "interface\x7b\x7d".toList

/-- A reference to a declared name, seen from a namespace. -/
def readName
    (home : String) (cs : List Char) : Except ExpressionFault HostType :=
  let (path, name) := (Text.splitLast '.' cs).getD (home.toList, cs)
  if path.isEmpty || path.any Text.isBlank then
    .error (.badPath (String.ofList cs))
  else if Text.isIdentifier name then
    .ok (.named ⟨String.ofList path, String.ofList name⟩)
  else
    .error (.badName (String.ofList name))

/-- A type that is not put together from others. -/
def readLeaf
    (home : String) (cs : List Char) : Except ExpressionFault HostType :=
  if isInterfaceText cs then
    .ok .interface
  else if textOpenings.any (·.isPrefixOf cs) then
    .ok (.other (String.ofList cs))
  else
    match Primitive.ofName? (String.ofList cs) with
    | some kind => .ok (.primitive kind)
    | none => readName home cs

/-- The type that a text without outer blanks denotes in a namespace. -/
def read (home : String) : List Char → Except ExpressionFault HostType
  | [] => .error .emptyType
  | '*' :: rest => (read home (Text.dropBlanks rest)).map .pointer
  | '[' :: ']' :: rest => (read home (Text.dropBlanks rest)).map .slice
  | 'm' :: 'a' :: 'p' :: '[' :: rest =>
    match _h : splitAtClose 0 rest with
    | none => .error .unclosedKey
    | some (key, value) =>
      match read home (Text.strip key) with
      | .error fault => .error fault
      | .ok keyType => (read home (Text.strip value)).map (.map keyType)
  | cs => readLeaf home cs
termination_by cs => cs.length
decreasing_by
  · have := Text.length_dropBlanks_le rest
    simp only [List.length_cons]
    omega
  · have := Text.length_dropBlanks_le rest
    simp only [List.length_cons]
    omega
  · have := Text.length_strip_le key
    have := length_splitAtClose _h
    simp only [List.length_cons]
    omega
  · have := Text.length_strip_le value
    have := length_splitAtClose _h
    simp only [List.length_cons]
    omega

/-- The type that an expression denotes where it is written in a namespace. -/
def ofExpression
    (expression home : String) : Except ExpressionError HostType :=
  match read home (Text.strip expression.toList) with
  | .ok type => .ok type
  | .error fault => .error ⟨expression, fault⟩

end HostType
end RecordConversion
