/-!
# Files

As much of a file system as the command line uses: directories and files with
bytes in them, found by paths that start at the root or at the working
directory. Going on from something that is no directory fails, also by a dot or
a slash at the end of a path. So does a path or a name that is too long, and a
path with a zero character in it.
-/

namespace RecordSearch

/-- What a path leads to. -/
inductive FileNode
  | directory
  | file (content : ByteArray)

/-- All files and directories but the root, by the names that lead to them. -/
structure Files where
  nodes : List (List String × FileNode)
  /-- Where relative paths start. -/
  workingDirectory : List String

namespace Files

/-- What stands at a place. -/
def node? (files : Files) (place : List String) : Option FileNode :=
  if place = [] then some .directory else files.nodes.lookup place

/-- Whether a place is a directory. -/
def isDirectory (files : Files) (place : List String) : Bool :=
  match files.node? place with
  | some .directory => true
  | _ => false

/-- The names in a path. -/
def names (path : String) : List String :=
  path.splitOn "/"

/-- Whether a name is short enough to be one: at most 255 bytes. -/
def isName (name : String) : Bool :=
  name.utf8ByteSize ≤ 255

/-- Whether a text can be a path at all: it is not empty, has less than 4096
bytes, and no zero character among them. -/
def isPath (path : String) : Bool :=
  path ≠ "" && path.utf8ByteSize < 4096 && !path.toList.contains '\x00'

/-- Where a path starts. -/
def origin (files : Files) (path : String) : List String :=
  if path.startsWith "/" then [] else files.workingDirectory

/-- The place that names lead to from a place. The last of them need not exist. -/
def walk (files : Files) (place : List String) : List String → Option (List String)
  | [] => some place
  | name :: rest =>
    if files.isDirectory place then
      if name = "" || name = "." then files.walk place rest
      else if name = ".." then files.walk place.dropLast rest
      else if isName name then files.walk (place ++ [name]) rest
      else none
    else none

/-- The place that a path leads to. -/
def resolve (files : Files) (path : String) : Option (List String) :=
  if isPath path then files.walk (files.origin path) (names path) else none

/-- Whether a path leads to something. -/
def exists? (files : Files) (path : String) : Bool :=
  match files.resolve path with
  | some place => (files.node? place).isSome
  | none => false

/-- The text of a file, if it is one and holds text. -/
def readText (files : Files) (path : String) : Option String :=
  match (files.resolve path).bind files.node? with
  | some (.file content) => String.fromUTF8? content
  | _ => none

/-- Puts something at a place. -/
def put (files : Files) (place : List String) (node : FileNode) : Files :=
  { files with nodes := (place, node) :: files.nodes.filter (·.1 ≠ place) }

/-- Writes a file, unless its place is a directory or cannot be reached. -/
def writeText (files : Files) (path : String) (text : String) : Option Files :=
  match files.resolve path with
  | none => none
  | some place =>
    if files.isDirectory place then none else some (files.put place (.file text.toUTF8))

/-- Makes the directories on the way along names, and the last. -/
def makeAlong (files : Files) (place : List String) : List String → Option Files
  | [] => some files
  | name :: rest =>
    if name = "" || name = "." then files.makeAlong place rest
    else if name = ".." then files.makeAlong place.dropLast rest
    else if !isName name then none
    else
      let next := place ++ [name]
      match files.node? next with
      | some .directory => files.makeAlong next rest
      | some (.file _) => none
      | none => (files.put next .directory).makeAlong next rest

/-- Makes a directory together with those that contain it. -/
def makeDirectories (files : Files) (path : String) : Option Files :=
  if isPath path then files.makeAlong (files.origin path) (names path) else none

/-- The places that a path passes, in order. -/
def stations (files : Files) (path : String) : List (List String) :=
  let step (places : List (List String) × List String) (name : String) :=
    let next :=
      if name = "" || name = "." then places.2
      else if name = ".." then places.2.dropLast
      else places.2 ++ [name]
    (places.1 ++ [next], next)
  ((names path).foldl step ([], files.origin path)).1

/-- A place as an absolute path. -/
def pathOf (place : List String) : String :=
  "/" ++ String.intercalate "/" place

/-- A path with one more name. -/
def join (path name : String) : String :=
  if path.endsWith "/" then path ++ name else path ++ "/" ++ name

end Files

end RecordSearch
