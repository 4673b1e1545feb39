import ApiShapes.FileTree.Basic
import ApiShapes.Glob.Pattern
import ApiShapes.Text.Shown

/-!
# Why a project cannot be built

* `ConfigError` : what is wrong with a configuration;
* `BuildError` : that, or an artifact that cannot be written;
* `ConfigError.message`, `BuildError.message` : the errors in words.
-/

namespace ApiShapes

inductive ConfigError where
  /-- there is no file of that name in a directory and those above it -/
  | noTsConfig (name : String) (start : Path)
  | unreadable (path : Path) (cause : FileError)
  /-- a file of compiler options is malformed -/
  | badTsConfig (path : Path)
  /-- the file of settings is malformed -/
  | badSettings (path : Path)
  /-- a file extends itself, directly or not -/
  | circularExtends (path : Path)
  | badPattern (pattern : String) (error : GlobError)
  | noRoot (path : Path) (cause : FileError)
  deriving DecidableEq, Repr

def ConfigError.message : ConfigError → String
  | noTsConfig name start => "Failed to find " ++ name ++ " from " ++ start.text
  | unreadable path cause => "Failed to read " ++ path.text ++ ": " ++ cause.message
  | badTsConfig path => "Failed to parse " ++ path.text
  | badSettings path => "Failed to parse " ++ path.text
  | circularExtends path => "Circular tsconfig extends at " ++ path.text
  | badPattern pattern error =>
    "Invalid tsconfig pattern " ++ Text.shown pattern ++ ": " ++ error.message
  | noRoot path cause =>
    "Failed to resolve project root " ++ path.text ++ ": " ++ cause.message

inductive BuildError where
  | config (error : ConfigError)
  /-- the artifact or its directory cannot be written -/
  | unwritable (path : Path) (cause : FileError)
  deriving DecidableEq, Repr

def BuildError.message : BuildError → String
  | config error => error.message
  | unwritable path cause => "Failed to write " ++ path.text ++ ": " ++ cause.message

end ApiShapes
