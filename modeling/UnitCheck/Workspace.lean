/-!
# Files by their paths

A workspace is a directory with files in it. Paths are walked name by name, so a
path that leads through a file names nothing. Outside the workspace there are only
the directories above it, of which no file is known.
-/

namespace UnitCheck

/-- A directory: the files in it by their paths, and the directories that these paths
lead through. -/
structure Workspace where
  files : List (List String × String)

/-- Why a file cannot be read. -/
inductive FileErrorReason where
  | notFound | isDirectory | notDirectory
  /-- No path holds a NUL character. -/
  | badCharacter
  | tooLong
deriving Repr, DecidableEq, Inhabited

/-- A path that cannot be read and why. -/
structure FileError where
  path : String
  reason : FileErrorReason
deriving Repr, DecidableEq, Inhabited

/-- The wording of each cause. -/
def FileError.message (error : FileError) : String :=
  match error.reason with
  | .notFound => "open " ++ error.path ++ ": no such file or directory"
  | .isDirectory => "read " ++ error.path ++ ": is a directory"
  | .notDirectory => "open " ++ error.path ++ ": not a directory"
  | .badCharacter => "open " ++ error.path ++ ": invalid argument"
  | .tooLong => "open " ++ error.path ++ ": file name too long"

namespace Path

/-- The names in a path; `name` holds the characters of the name being read, the
latest first. -/
def namesFrom (name : List Char) : List Char -> List String
  | [] => [String.ofList name.reverse]
  | c :: rest =>
    if c = '/' then String.ofList name.reverse :: namesFrom [] rest
    else namesFrom (c :: name) rest

/-- The names between the slashes of a path. -/
def names (path : String) : List String :=
  namesFrom [] path.toList

/-- The names of a path without detours, the last first, given the names in front of
it. A path that leads out of the workspace has none. -/
def cleanFrom (above : List String) : List String -> Option (List String)
  | [] => some above
  | name :: rest =>
    if name.isEmpty || name = "." then cleanFrom above rest
    else if name = ".." then
      match above with
      | [] => none
      | _ :: parent => cleanFrom parent rest
    else cleanFrom (name :: above) rest

/-- The names of a path without detours. Absolute paths lead out of the workspace. -/
def clean? (path : String) : Option (List String) :=
  if path.toList.head? = some '/' then none
  else (cleanFrom [] (names path)).map List.reverse

/-- The path with these names. -/
def render (names : List String) : String := "/".intercalate names

end Path

namespace Workspace

/-- A workspace with these files; of two files with one path the later one counts. -/
def ofList (files : List (String × String)) : Workspace :=
  ⟨files.reverse.map fun (path, content) => ((Path.clean? path).getD [path], content)⟩

/-- The content of the file with these names. -/
def content? (workspace : Workspace) (names : List String) : Option String :=
  workspace.files.lookup names

/-- Whether the names lead to a directory: to the workspace itself, or to what some
file's path leads through. -/
def isDirectory (workspace : Workspace) (names : List String) : Bool :=
  names.isEmpty ||
    workspace.files.any fun (path, _) => names.isPrefixOf path && names.length < path.length

/-- Where a path leads. -/
inductive Place where
  /-- A place in the workspace by its names, the last first. -/
  | inside (names : List String)
  /-- A directory above the workspace. -/
  | outside
deriving Repr, DecidableEq, Inhabited

/-- The longest name in bytes. -/
def nameLimit : Nat := 255

/-- The longest path in bytes. -/
def pathLimit : Nat := 4095

/-- Follows the names of a path from a place. -/
def follow (workspace : Workspace) : Place -> List String -> Except FileErrorReason Place
  | place, [] => .ok place
  | .outside, name :: rest =>
    if name.isEmpty || name = "." || name = ".." then workspace.follow .outside rest
    else if nameLimit < name.utf8ByteSize then .error .tooLong
    else .error .notFound
  | .inside here, name :: rest =>
    if !workspace.isDirectory here.reverse then
      if (workspace.content? here.reverse).isSome then .error .notDirectory else .error .notFound
    else if name.isEmpty || name = "." then workspace.follow (.inside here) rest
    else if name = ".." then
      match here with
      | [] => workspace.follow .outside rest
      | _ :: parent => workspace.follow (.inside parent) rest
    else if nameLimit < name.utf8ByteSize then .error .tooLong
    else workspace.follow (.inside (name :: here)) rest

/-- The place that a path names. Absolute paths start outside the workspace. -/
def locate (workspace : Workspace) (path : String) : Except FileErrorReason Place :=
  if path.toList.contains '\x00' then .error .badCharacter
  else if path.isEmpty then .error .notFound
  else if pathLimit < path.utf8ByteSize then .error .tooLong
  else
    let start := if path.toList.head? = some '/' then .outside else .inside []
    workspace.follow start (Path.names path)

/-- Reads the file at a path. -/
def read (workspace : Workspace) (path : String) : Except FileError String :=
  match workspace.locate path with
  | .error reason => .error ⟨path, reason⟩
  | .ok .outside => .error ⟨path, .isDirectory⟩
  | .ok (.inside names) =>
    match workspace.content? names.reverse with
    | some content => .ok content
    | none =>
      .error ⟨path, if workspace.isDirectory names.reverse then .isDirectory else .notFound⟩

end Workspace
end UnitCheck
