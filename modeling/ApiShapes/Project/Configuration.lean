import ApiShapes.Handler.Extract
import ApiShapes.Path.Normal

/-!
# Configurations

* `Configuration` : where a project's routes are, where the artifact goes, and what is checked;
* `Configuration.isRouteFile` : which files are routes.
-/

namespace ApiShapes

/-- The settings of one project, with all paths resolved. -/
structure Configuration where
  rootDir : Path
  /-- the directory of all routes -/
  input : Path
  /-- the directory of the artifact -/
  output : Path
  /-- a path below which nothing is a route -/
  ignorePath : Option Path
  tsconfigPath : Path
  framework : Framework
  deriving DecidableEq, Repr

namespace Configuration

def inputOf (rootDir : Path) : Path :=
  (rootDir.child "pages").child "api"

variable (config : Configuration)

def isIgnored (path : Path) : Bool :=
  match config.ignorePath with
  | some ignored => path.startsWith ignored
  | none => false

/-- The file is a route: it lies in the directory of routes, is not ignored and declares more than
types. -/
def isRouteFile (path : Path) : Bool :=
  path.startsWith config.input && !config.isIgnored path && !path.isDeclarationFile

end Configuration

end ApiShapes
