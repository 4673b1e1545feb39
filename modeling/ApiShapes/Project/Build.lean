import ApiShapes.Artifact.Render
import ApiShapes.FileTree.Edit
import ApiShapes.Program.Load
import ApiShapes.Program.Types
import ApiShapes.Project.Load
import ApiShapes.TsConfig.RootFiles
import ApiShapes.Text.Blank

/-!
# Building a project

* `build` : the artifact's text, from the files as they are;
* `BuildStep` : steps that change files and may fail;
* `writeArtifact` : puts a text in place, unless the artifact says the same already;
* `generate` : both.
-/

namespace ApiShapes

def FileTree.program (tree : FileTree) (roots : List Path) (resolver : ModuleResolver) : Program :=
  .load roots resolver tree.filePaths fun path => (tree.readText path).toOption

/-- The text of a project's artifact: the declarations of the routes among the program's root files. -/
def build (tree : FileTree) (config : Configuration) : Except ConfigError String := do
  let tsconfig ← TsConfig.load tree config.tsconfigPath
  let program := tree.program (← tsconfig.rootFiles tree) tsconfig.resolver
  return renderArtifact program.checker config.framework config.input
    (program.roots.filter config.isRouteFile)

/-- Steps that change files and may fail. -/
abbrev BuildStep := ExceptT BuildError (StateM FileTree)

inductive WriteOutcome where
  | written (path : Path)
  /-- the file says the same already -/
  | unchanged (path : Path)
  deriving DecidableEq, Repr

def artifactName : String := "$apis.ts"

/-- Writes an artifact to a directory. Blanks at the ends of a text do not count. -/
def writeArtifact (dir : Path) (content : String) : BuildStep WriteOutcome := do
  let path := dir.child artifactName
  let content := Text.trim content
  if ((← get).readText path).toOption.map Text.trim == some content then return .unchanged path
  (FileEdit.createDirectories dir).adapt (.unwritable dir)
  (FileEdit.writeText path content).adapt (.unwritable path)
  return .written path

def generate (config : Configuration) : BuildStep WriteOutcome := do
  match build (← get) config with
  | .ok content => writeArtifact config.output content
  | .error e => throw (.config e)

end ApiShapes
