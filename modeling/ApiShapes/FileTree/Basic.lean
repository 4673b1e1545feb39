import ApiShapes.Path.Basic

/-!
# File trees

* `FileTree` : the files and directories there are, each at its `Location`;
* `FileTree.walk`, `FileTree.locate` : where a path leads, or why it leads nowhere;
* `FileTree.isFile`, `FileTree.readText`, `FileTree.canonical` : questions about a path.

A path that does not start with a slash is looked up from the root like one that does.
-/

namespace ApiShapes

/-- The place of a file or directory: the names that lead to it from the root. -/
abbrev Location := List String

/-- What a file holds: a text, or bytes that are no text. -/
inductive Content where
  | text (s : String)
  | binary (bytes : List UInt8)
  deriving DecidableEq, Repr

inductive Entry where
  | directory
  | file (content : Content)
  deriving DecidableEq, Repr

inductive FileError where
  | notFound
  | present
  | notDirectory
  | isDirectory
  | notText
  deriving DecidableEq, Repr

def FileError.message : FileError → String
  | notFound => "No such file or directory (os error 2)"
  | present => "File exists (os error 17)"
  | notDirectory => "Not a directory (os error 20)"
  | isDirectory => "Is a directory (os error 21)"
  | notText => "stream did not contain valid UTF-8"

def Path.ofLocation (loc : Location) : Path :=
  .ofParts (.root :: loc.map .name)

/-- Files and directories by their locations. The root is always there. -/
structure FileTree where
  entries : List (Location × Entry) := []
  deriving DecidableEq, Repr, Inhabited

namespace FileTree

variable (tree : FileTree)

def entryAt : Location → Option Entry
  | [] => some .directory
  | loc => tree.entries.lookup loc

def step (loc : Location) : String → Location
  | "" => loc
  | "." => loc
  | ".." => loc.dropLast
  | name => loc ++ [name]

/-- The location that pieces lead to, all but the last of which must lead to directories. Nothing
needs to stand at the location itself. -/
def walk (loc : Location) : List String → Except FileError Location
  | [] => .ok loc
  | piece :: rest =>
    match tree.entryAt loc with
    | some .directory => walk (step loc piece) rest
    | some (.file _) => .error .notDirectory
    | none => .error .notFound

def locate (path : Path) : Except FileError (Location × Entry) := do
  if path == .empty then throw .notFound
  let loc ← tree.walk [] path.pieces
  match tree.entryAt loc with
  | some entry => return (loc, entry)
  | none => throw .notFound

def isFile (path : Path) : Bool :=
  match tree.locate path with
  | .ok (_, .file _) => true
  | _ => false

def isDirectory (path : Path) : Bool :=
  match tree.locate path with
  | .ok (_, .directory) => true
  | _ => false

def textAt (path : Path) : Except FileError (Location × String) := do
  match ← tree.locate path with
  | (loc, .file (.text s)) => return (loc, s)
  | (_, .file (.binary _)) => throw .notText
  | (_, .directory) => throw .isDirectory

def readText (path : Path) : Except FileError String :=
  (·.2) <$> tree.textAt path

/-- The absolute path of what the path leads to, without `.`, `..` or a slash to spare. -/
def canonical (path : Path) : Except FileError Path := do
  let (loc, _) ← tree.locate path
  return .ofLocation loc

end FileTree

end ApiShapes
