import RecordConversion.Event
import RecordConversion.Record.Embedding

/-!
# Discovery of records

Starting from a root, discovery collects every record that is reached through fields and lies within
the boundary: the namespace of the record that refers to it, the module of the root, or a path below
that module.  A record comes after the records it refers to; it counts as visited before they are
looked at, so records may refer to themselves and to each other.

A reference that leads to no record is left out with a warning.  A namespace that cannot be loaded
ends the discovery.
-/

namespace RecordConversion

/-- A record cannot be found. -/
inductive DiscoveryError where
  | notFound (ref : QualifiedName)
  | notARecord (ref : QualifiedName)
  | provider (error : ProviderError)
  deriving DecidableEq, Repr

namespace DiscoveryError

/-- The error in words. -/
def message : DiscoveryError → String
  | notFound ref =>
    "record " ++ Text.quoted ref.name ++ " not found in namespace " ++ Text.quoted ref.path
  | notARecord ref =>
    Text.quoted ref.name ++ " in namespace " ++ Text.quoted ref.path ++ " is not a record type"
  | provider error => error.message

/-- A reference with this error may be left out. -/
def isSkippable : DiscoveryError → Bool
  | notFound _ | notARecord _ => true
  | provider _ => false

end DiscoveryError

namespace Event

/-- A record has been found. -/
def discoveredRecord
    (ref : QualifiedName) (record : Record) : Event :=
  debug "discovered record"
    [("namespace", ref.path), ("name", ref.name), ("fields", toString record.fields.length)]

/-- All records have been found. -/
def discoveryComplete
    (ref : QualifiedName) (records : List Record) : Event :=
  debug "discovery complete"
    [("namespace", ref.path), ("name", ref.name), ("records", toString records.length)]

/-- A reference leads to no record. -/
def nestedSkipped
    (name : String) (error : DiscoveryError) : Event :=
  warning ("nested record " ++ Text.quoted name ++ " skipped: " ++ error.message)

end Event

/-- What discovery has done so far: the records looked at, and those found, leaves first. -/
structure Discovery where
  visited : List QualifiedName
  found : List Record
  events : List Event
  deriving Repr

namespace Discovery

/-- Nothing has been looked at. -/
def start : Discovery := ⟨[], [], []⟩

/-- An event is added. -/
def log
    (progress : Discovery) (event : Event) : Discovery :=
  { progress with events := progress.events ++ [event] }

/-- A record is looked at. -/
def enter
    (progress : Discovery) (ref : QualifiedName) (record : Record) : Discovery :=
  { progress with visited := record.key :: progress.visited }.log (.discoveredRecord ref record)

/-- A record is done with. -/
def leave
    (progress : Discovery) (record : Record) : Discovery :=
  { progress with found := progress.found ++ [record] }

end Discovery

/-- Whether a step of discovery succeeded, and where it left off. -/
abbrev DiscoveryStep := Except DiscoveryError Unit × Discovery

/-- A namespace is within the boundary of a record in a current namespace, for a root module. -/
def inBoundary
    (module? : Option String) (current nested : String) : Bool :=
  !nested.isEmpty &&
    (nested == current ||
      module?.any fun root => nested == root || (root ++ "/").toList.isPrefixOf nested.toList)

namespace Discovery

/-- The references of a record in the given namespace are visited one after the other. -/
def follow
    (module? : Option String) (current : String)
    (visit : QualifiedName → Discovery → DiscoveryStep) :
    List QualifiedName → Discovery → DiscoveryStep
  | [], progress => (.ok (), progress)
  | ref :: rest, progress =>
    if !inBoundary module? current ref.path || progress.visited.contains ref then
      follow module? current visit rest progress
    else
      match visit ref progress with
      | (.ok (), progress) => follow module? current visit rest progress
      | (.error error, progress) =>
        if error.isSkippable then
          follow module? current visit rest (progress.log (.nestedSkipped ref.name error))
        else (.error error, progress)

end Discovery

namespace Provider

variable (provider : Provider)

/-- The record of a name in a loaded namespace. -/
def recordIn
    (space : Namespace) (name : String) : Except DiscoveryError Record :=
  let ref : QualifiedName := ⟨space.path, name⟩
  match provider.declarations.lookup ref with
  | none => .error (.notFound ref)
  | some _ =>
    match provider.declarations.recordBody? (.named ref) with
    | none => .error (.notARecord ref)
    | some members => .ok ⟨name, space.path, space.localName, provider.fieldsOf ref members⟩

/-- A single record, without what it refers to. -/
def record? (ref : QualifiedName) : Except DiscoveryError Record :=
  match provider.load ref.path with
  | .error error => .error (.provider error)
  | .ok space => provider.recordIn space ref.name

/-- A record and what it reaches, down to a number of levels. -/
def visitWithin
    (module? : Option String) : Nat → QualifiedName → Discovery → DiscoveryStep
  | 0, _, progress => (.ok (), progress)
  | levels + 1, ref, progress =>
    match provider.record? ref with
    | .error error => (.error error, progress)
    | .ok record =>
      if progress.visited.contains record.key then (.ok (), progress)
      else
        match Discovery.follow module? record.path (visitWithin module? levels) record.references
            (progress.enter ref record) with
        | (.ok (), progress) => (.ok (), progress.leave record)
        | failed => failed

/-- A record and what it reaches; each level looks at one more declared name. -/
def visit
    (module? : Option String) (ref : QualifiedName) (progress : Discovery) : DiscoveryStep :=
  provider.visitWithin module? (provider.declarations.entries.length + 1) ref progress

/-- The records that a root reaches, leaves first and the root last. -/
def discover (ref : QualifiedName) : Logged (Except DiscoveryError (List Record)) :=
  match provider.load ref.path with
  | .error error => .quiet (.error (.provider error))
  | .ok space =>
    match provider.visit space.rootModule? ref .start with
    | (.error error, progress) => ⟨.error error, progress.events⟩
    | (.ok (), progress) =>
      ⟨.ok progress.found, progress.events ++ [.discoveryComplete ref progress.found]⟩

end Provider
end RecordConversion
