import SessionBus.Hub.Place

/-!
# A tree of files

What lies at a path follows from the files and directories that are known: a directory lies above
each of them, and nothing lies below a file.
-/

namespace SessionBus

/-- Files with the bytes that they hold, and directories, by their paths. -/
structure FileTree where
  files : List (String × List UInt8)
  directories : List String
deriving DecidableEq, Repr

namespace FileTree

/-- Whether a path leads through another one. -/
def isBelow (path above : String) : Bool :=
  path.startsWith (above ++ "/")

/-- Whether a path leads through a file. -/
def crossesFile (tree : FileTree) (path : String) : Bool :=
  tree.files.any fun (file, _) => isBelow path file

def kind (tree : FileTree) (path : String) : PathKind :=
  if (tree.files.lookup path).isSome then .file
  else if tree.directories.contains path then .directory
  else if tree.files.any fun (file, _) => isBelow file path then .directory
  else .missing

/-- The path above a path; a path without a slash lies in the current directory. -/
def parent (path : String) : String :=
  match (path.splitOn "/").dropLast with
  | [] => "."
  | [""] => "/"
  | parts => "/".intercalate parts

/-- What lies at a path and above it. -/
def place (tree : FileTree) (path : String) : Place where
  target := tree.kind path
  parent := tree.kind (parent path)
  ancestor := if tree.crossesFile path then .file else .directory
  length := path.utf8ByteSize

def content (tree : FileTree) (path : String) : Except SystemFault String :=
  match tree.files.lookup path with
  | some bytes =>
    match String.fromUTF8? bytes.toByteArray with
    | some text => .ok text
    | none => .error .notText
  | none =>
    if tree.kind path = .directory then .error .isDirectory
    else if tree.crossesFile path then .error .notDirectory
    else .error .notFound

end FileTree

end SessionBus
