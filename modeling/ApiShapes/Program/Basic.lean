import ApiShapes.Checker
import ApiShapes.Module.Resolver

/-!
# Programs

* `Program` : the nodes of a set of modules, and where each module's nodes are;
* `Program.moduleNamed?` : the loaded module that a specifier means.
-/

namespace ApiShapes

structure Program where
  arena : Arena := {}
  /-- the loaded files, each with its module's node -/
  files : List (Path × NodeId) := []
  /-- the files that loading started from -/
  roots : List Path
  resolver : ModuleResolver
  deriving Repr

namespace Program

variable (p : Program)

def isLoaded (path : Path) : Bool :=
  (p.files.lookup path).isSome

/-- The module of a file, by any way of writing its path. -/
def fileNode? (path : Path) : Option NodeId :=
  p.files.lookup path.normal

def filePath? (file : NodeId) : Option Path :=
  match p.arena.kind? file with
  | some (.sourceFile path _) => some path
  | _ => none

/-- The loaded module that `specifier` means in the module `file`. -/
def moduleNamed? (file : NodeId) (specifier : String) : Option NodeId := do
  let path ← p.filePath? file
  let target ← p.resolver.resolve path specifier p.isLoaded
  p.files.lookup target

/-- The specifier of the import that a binding stands below. -/
def importOf? (binding : NodeId) : Option String := do
  match p.arena.kind? (← p.arena.parent? binding) with
  | some (.imports specifier) => some specifier
  | _ => none

end Program

end ApiShapes
