import ApiShapes.Project.Configuration
import ApiShapes.Project.Settings

/-!
# Finding a project's configuration

* `ProjectOptions` : what is asked for explicitly;
* `findTsConfig` : the file of compiler options;
* `Configuration.load` : options win over the project's settings, and those over the defaults.
-/

namespace ApiShapes

/-- What is asked for explicitly. -/
structure ProjectOptions where
  /-- the working directory, if not given -/
  rootDir : Option Path := none
  output : Option Path := none
  ignorePath : Option Path := none
  tsconfig : Option Path := none
  deriving DecidableEq, Repr

/-- The file of compiler options: the file `name` seen from the root, or else, if `name` is a single
part, the file of that name in the nearest directory above. -/
def findTsConfig (tree : FileTree) (root name : Path) : Except ConfigError Path :=
  let direct := (root.join name).normal
  let above := if name.parts.length == 1 then root.ancestors.map (·.join name) else []
  match (direct :: above).find? tree.isFile with
  | some path => .ok path
  | none => .error (.noTsConfig name.text root)

def findRoot (tree : FileTree) (cwd requested : Path) : Except ConfigError Path :=
  let path := if requested == .empty then requested else cwd.join requested
  match tree.canonical path with
  | .ok root => .ok root
  | .error cause => .error (.noRoot requested cause)

namespace Configuration

def resolve (tree : FileTree) (rootDir : Path) (options : ProjectOptions) (settings : Settings) :
    Except ConfigError Configuration := do
  let output := (options.output <|> settings.output.map Path.ofString).getD (.ofString "lib")
  let ignorePath := options.ignorePath <|> settings.ignorePath.map Path.ofString
  let tsconfig := (options.tsconfig <|> settings.tsconfig.map Path.ofString).getD
    (.ofString "tsconfig.json")
  let framework : Framework := {}
  return { rootDir
           input := inputOf rootDir
           output := (rootDir.join output).normal
           ignorePath := ignorePath.map fun path => (rootDir.join path).normal
           tsconfigPath := ← findTsConfig tree rootDir tsconfig
           framework := { framework with
             helperModule := settings.helperModule.getD framework.helperModule } }

/-- The configuration that options ask for in the working directory `cwd`. -/
def load (tree : FileTree) (cwd : Path) (options : ProjectOptions) :
    Except ConfigError Configuration := do
  let rootDir ← findRoot tree cwd (options.rootDir.getD cwd)
  resolve tree rootDir options (← Settings.load tree rootDir)

end Configuration

end ApiShapes
