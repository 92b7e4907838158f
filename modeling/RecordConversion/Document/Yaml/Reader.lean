import RecordConversion.Document.Basic
import RecordConversion.Document.Yaml.Token

/-!
# Documents from block-structured text

The tokens of a text are put together to a document.  Plain scalars are bare, all others are texts.
A text holds at most one document; without any it is the empty bare scalar.  A directive stands
before a document that is marked.

The reader goes down the structure; every step takes a token or is followed by one that does.
-/

namespace RecordConversion
namespace Yaml

/-- What stands for a value that is left out. -/
def omitted : Document := .bare ""

/-- A list entry is followed by no value of its own. -/
def endsEntry : List Token → Bool
  | .blockEntry :: _ | .blockEnd :: _ => true
  | _ => false

/-- A key or value in a block is followed by none of its own. -/
def endsBlockPart : List Token → Bool
  | .key :: _ | .value :: _ | .blockEnd :: _ => true
  | _ => false

/-- A list entry below a key is followed by no value of its own. -/
def endsLooseEntry (tokens : List Token) : Bool :=
  endsEntry tokens || endsBlockPart tokens

/-- A part of a list in brackets is followed by none of its own. -/
def endsFlowItem : List Token → Bool
  | .flowEntry :: _ | .flowListEnd :: _ => true
  | _ => false

/-- A part of an object in braces is followed by none of its own. -/
def endsFlowPart : List Token → Bool
  | .flowEntry :: _ | .flowObjectEnd :: _ => true
  | _ => false

mutual

/-- A value.  `inBlock` allows blocks, `below` also a list at the indentation of its key. -/
def readNode
    (inBlock below : Bool) : Nat → List Token → Option (Document × List Token)
  | 0, _ => none
  | depth + 1, tokens =>
    match tokens with
    | .scalar plain content :: rest => some (if plain then .bare content else .text content, rest)
    | .flowListStart :: rest =>
      (readFlowItems true depth rest).map fun (items, rest) => (.list items, rest)
    | .flowObjectStart :: rest =>
      (readFlowEntries true depth rest).map fun (entries, rest) => (.ofEntries entries, rest)
    | .blockListStart :: rest =>
      if inBlock then (readItems depth rest).map fun (items, rest) => (.list items, rest)
      else none
    | .blockObjectStart :: rest =>
      if inBlock then (readEntries depth rest).map fun (entries, rest) => (.ofEntries entries, rest)
      else none
    | .blockEntry :: _ =>
      if below then (readLooseItems depth tokens).map fun (items, rest) => (.list items, rest)
      else none
    | _ => none

/-- The items of a list that is a block of its own. -/
def readItems : Nat → List Token → Option (List Document × List Token)
  | 0, _ => none
  | depth + 1, tokens =>
    match tokens with
    | .blockEnd :: rest => some ([], rest)
    | .blockEntry :: rest =>
      let item? := if endsEntry rest then some (omitted, rest) else readNode true false depth rest
      item?.bind fun (item, rest) =>
        (readItems depth rest).map fun (items, rest) => (item :: items, rest)
    | _ => none

/-- The items of a list at the indentation of its key. -/
def readLooseItems : Nat → List Token → Option (List Document × List Token)
  | 0, _ => none
  | depth + 1, tokens =>
    match tokens with
    | .blockEntry :: rest =>
      let item? :=
        if endsLooseEntry rest then some (omitted, rest) else readNode true false depth rest
      item?.bind fun (item, rest) =>
        (readLooseItems depth rest).map fun (items, rest) => (item :: items, rest)
    | _ => some ([], tokens)

/-- The entries of an object that is a block. -/
def readEntries : Nat → List Token → Option (List (Document × Document) × List Token)
  | 0, _ => none
  | depth + 1, tokens =>
    match tokens with
    | .blockEnd :: rest => some ([], rest)
    | .key :: rest =>
      let key? := if endsBlockPart rest then some (omitted, rest) else readNode true true depth rest
      key?.bind fun (key, rest) =>
        let value? :=
          match rest with
          | .value :: rest =>
            if endsBlockPart rest then some (omitted, rest) else readNode true true depth rest
          | _ => some (omitted, rest)
        value?.bind fun (value, rest) =>
          (readEntries depth rest).map fun (entries, rest) => ((key, value) :: entries, rest)
    | _ => none

/-- The items of a list in brackets; all but the first follow a comma.  The mark of a key makes an
entry of its own; if a colon, a comma or the closing bracket comes right after it, that stands for
the key. -/
def readFlowItems (first : Bool) : Nat → List Token → Option (List Document × List Token)
  | 0, _ => none
  | depth + 1, tokens =>
    let items? :=
      match first, tokens with
      | _, .flowListEnd :: _ => some tokens
      | true, _ => some tokens
      | false, .flowEntry :: rest => some rest
      | false, _ => none
    items?.bind fun tokens =>
      match tokens with
      | .flowListEnd :: rest => some ([], rest)
      | .key :: rest =>
        let key? :=
          match rest with
          | .value :: rest | .flowEntry :: rest | .flowListEnd :: rest => some (omitted, rest)
          | _ => readNode false false depth rest
        key?.bind fun (key, rest) =>
          let value? :=
            match rest with
            | .value :: rest =>
              if endsFlowItem rest then some (omitted, rest) else readNode false false depth rest
            | _ => some (omitted, rest)
          value?.bind fun (value, rest) =>
            (readFlowItems false depth rest).map fun (items, rest) =>
              (.ofEntries [(key, value)] :: items, rest)
      | _ =>
        (readNode false false depth tokens).bind fun (item, rest) =>
          (readFlowItems false depth rest).map fun (items, rest) => (item :: items, rest)

/-- The entries of an object in braces; all but the first follow a comma. -/
def readFlowEntries (first : Bool) :
    Nat → List Token → Option (List (Document × Document) × List Token)
  | 0, _ => none
  | depth + 1, tokens =>
    let entries? :=
      match first, tokens with
      | _, .flowObjectEnd :: _ => some tokens
      | true, _ => some tokens
      | false, .flowEntry :: rest => some rest
      | false, _ => none
    entries?.bind fun tokens =>
      match tokens with
      | .flowObjectEnd :: rest => some ([], rest)
      | .key :: rest =>
        let key? :=
          match rest with
          | .value :: _ => some (omitted, rest)
          | _ => if endsFlowPart rest then some (omitted, rest) else readNode false false depth rest
        key?.bind fun (key, rest) =>
          let value? :=
            match rest with
            | .value :: rest =>
              if endsFlowPart rest then some (omitted, rest) else readNode false false depth rest
            | _ => some (omitted, rest)
          value?.bind fun (value, rest) =>
            (readFlowEntries false depth rest).map fun (entries, rest) =>
              ((key, value) :: entries, rest)
      | _ =>
        (readNode false false depth tokens).bind fun (key, rest) =>
          (readFlowEntries false depth rest).map fun (entries, rest) =>
            ((key, omitted) :: entries, rest)

end

/-- Nothing but ends of the document follows. -/
def endsText (tokens : List Token) : Bool :=
  tokens.all (· == .documentEnd)

/-- The document of a whole list of tokens. -/
def ofTokens? (tokens : List Token) : Option Document :=
  let (explicit, content) :=
    match tokens with
    | .documentStart :: rest | .version :: .documentStart :: rest => (true, rest)
    | _ => (false, tokens)
  let isEmpty :=
    match content with
    | [] => true
    | .documentStart :: _ | .documentEnd :: _ => explicit
    | _ => false
  let document? :=
    if isEmpty then some (omitted, content)
    else readNode true false (2 * content.length + 2) content
  document?.bind fun (document, rest) => if endsText rest then some document else none

end Yaml

namespace Document

/-- The document that a block-structured text holds. -/
def ofYaml? (text : String) : Option Document :=
  (Yaml.tokens? text).bind Yaml.ofTokens?

end Document
end RecordConversion
