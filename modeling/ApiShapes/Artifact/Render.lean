import ApiShapes.Artifact.Record
import ApiShapes.Handler.Extract

/-!
# The text of an artifact

* `renderArtifact` : the declarations of all route files, in order, with a blank line between each
  two blocks.
-/

namespace ApiShapes

def fileRecords (checker : Checker) (framework : Framework) (input file : Path) : List Record :=
  (extractHandlers checker framework file).flatMap (Record.ofHandler (Route.ofFile input file))

def renderArtifact (checker : Checker) (framework : Framework) (input : Path)
    (files : List Path) : String :=
  "\n\n".intercalate ((files.flatMap (fileRecords checker framework input)).map Record.print)

end ApiShapes
