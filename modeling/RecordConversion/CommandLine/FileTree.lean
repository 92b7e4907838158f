import RecordConversion.CommandLine.Path

/-!
# Trees of files

The files and directories that can be reached from a working directory, as a value.  What lies in it
or was made elsewhere is listed by place; above it there are directories without end, of which
nothing else is known, and below the root those that are always there.  Reading, creating and
writing follow a path part by part and fail for the reasons that a file system gives.
-/

namespace RecordConversion

/-- Where a path begins. -/
inductive Origin where
  | root
  /-- So many levels above the working directory. -/
  | above (levels : Nat)
  deriving DecidableEq, Repr

/-- Where a path leads: the names below its origin. -/
structure Place where
  origin : Origin
  names : List String
  deriving DecidableEq, Repr

namespace Place

/-- The place of the working directory. -/
def working : Place := ⟨.above 0, []⟩

/-- The place that a name has in a directory. -/
def child (place : Place) (name : String) : Place :=
  { place with names := place.names ++ [name] }

/-- The place of the directory above; the root is above itself. -/
def parent (place : Place) : Place :=
  match place.names, place.origin with
  | [], .root => place
  | [], .above levels => ⟨.above (levels + 1), []⟩
  | names, origin => ⟨origin, names.dropLast⟩

/-- Where a path begins. -/
def start (path : String) : Place :=
  if Path.isAbsolute path then ⟨.root, []⟩ else working

end Place

/-- What a path leads to. -/
inductive FileEntry where
  | file (content : String)
  | directory
  deriving DecidableEq, Repr

/-- The files and directories with their places; an origin is always a directory. -/
structure FileTree where
  entries : List (Place × FileEntry)
  deriving Repr

namespace FileTree

/-- The directories that are always below the root. -/
def standardDirectories : List String :=
  ["bin", "dev", "etc", "home", "tmp", "usr", "var"]

/-- A working directory with nothing in it.  The null device has no content. -/
def empty : FileTree :=
  ⟨standardDirectories.map (fun name => (⟨.root, [name]⟩, .directory)) ++
    [(⟨.root, ["dev", "null"]⟩, .file "")]⟩

/-- The entry at a place. -/
def entryAt?
    (tree : FileTree) (place : Place) : Option FileEntry :=
  if place.names.isEmpty then some .directory else tree.entries.lookup place

/-- The tree with another entry at a place. -/
def put
    (tree : FileTree) (place : Place) (entry : FileEntry) : FileTree :=
  ⟨tree.entries.filter (·.1 != place) ++ [(place, entry)]⟩

/-- The place that one part leads to from another place, which must be a directory. -/
def step
    (tree : FileTree) (place : Place) (part : String) : Except PathError Place :=
  match tree.entryAt? place with
  | none => .error .missing
  | some (.file _) => .error .notADirectory
  | some .directory =>
    if part = "." then .ok place
    else if part = ".." then .ok place.parent
    else if Path.nameLimit < part.utf8ByteSize then .error .nameTooLong
    else .ok (place.child part)

/-- The place that parts lead to from another place; there need not be anything. -/
def walk
    (tree : FileTree) : Place → List String → Except PathError Place
  | place, [] => .ok place
  | place, part :: rest =>
    match tree.step place part with
    | .error error => .error error
    | .ok next => tree.walk next rest

/-- The place that a path leads to. -/
def placeOf
    (tree : FileTree) (path : String) : Except PathError Place :=
  match Path.fault? path with
  | some error => .error error
  | none => tree.walk (Place.start path) (Path.parts path)

/-- The entry that a path leads to. -/
def find
    (tree : FileTree) (path : String) : Except PathError FileEntry :=
  match tree.placeOf path with
  | .error error => .error error
  | .ok place =>
    match tree.entryAt? place with
    | none => .error .missing
    | some (.file content) =>
      if Path.endsInSlash path then .error .notADirectory else .ok (.file content)
    | some .directory => .ok .directory

/-- The content of a file. -/
def read
    (tree : FileTree) (path : String) : Except PathError String :=
  match tree.find path with
  | .error error => .error error
  | .ok .directory => .error .isADirectory
  | .ok (.file content) => .ok content

/-- The path leads somewhere. -/
def contains (tree : FileTree) (path : String) : Bool :=
  (tree.find path).isOk

/-- The path leads to a directory. -/
def hasDirectory (tree : FileTree) (path : String) : Bool :=
  match tree.find path with
  | .ok .directory => true
  | _ => false

/-- The tree with one new directory.  The directory above must be there, and the path must end in a
name that is free. -/
def makeDirectory
    (tree : FileTree) (path : String) : Except PathError FileTree :=
  match tree.placeOf path with
  | .error error => .error error
  | .ok place =>
    match (Path.parts path).getLast? with
    | none => .error .occupied
    | some name =>
      if name = "." || name = ".." then .error .occupied
      else
        match tree.entryAt? place with
        | some _ => .error .occupied
        | none => .ok (tree.put place .directory)

/-- The directories of the given paths, each of which lies in the next one.  A path is tried first
by itself; if the one above is missing, that is made before.  What has been made stays, also if
something fails later. -/
def makeAll (tree : FileTree) : List String → FileTree × Option PathError
  | [] => (tree, none)
  | path :: above =>
    match tree.makeDirectory path with
    | .ok made => (made, none)
    | .error .missing =>
      match tree.makeAll above with
      | (made, some error) => (made, some error)
      | (made, none) =>
        match made.makeDirectory path with
        | .ok made => (made, none)
        | .error error => (made, if made.hasDirectory path then none else some error)
    | .error error => (tree, if tree.hasDirectory path then none else some error)

/-- The tree with the directories of a path made, as far as that goes. -/
def makeDirectories (tree : FileTree) (path : String) : FileTree × Option PathError :=
  tree.makeAll (path :: Path.ancestors path)

/-- The tree with a file that is new or has a new content. -/
def write
    (tree : FileTree) (path content : String) : Except PathError FileTree :=
  match tree.placeOf path with
  | .error error => .error error
  | .ok place =>
    match tree.entryAt? place with
    | some .directory => .error .isADirectory
    | _ =>
      if Path.endsInSlash path then .error .isADirectory
      else .ok (tree.put place (.file content))

end FileTree
end RecordConversion
