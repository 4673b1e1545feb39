import ApiShapes.Glob.Match
import ApiShapes.TsConfig.Basic

/-!
# The files of a program

* `TsConfig.expandPattern` : a pattern that names a directory stands for all below it;
* `TsConfig.rootFiles` : the files that a configuration lists or includes.
-/

namespace ApiShapes.TsConfig

/-- The pattern as it is matched. One whose last component has no `*` and no dot names a directory. -/
def expandPattern (pattern : String) : String :=
  let reversed := pattern.toList.reverse
  let last := reversed.takeWhile (· != '/')
  if last.contains '*' || last.contains '.' then pattern
  else String.ofList (reversed.dropWhile (· == '/')).reverse ++ "/**/*"

def compilePatterns (patterns : List String) : Except ConfigError (List GlobPattern) :=
  patterns.mapM fun pattern =>
    match GlobPattern.ofText (expandPattern pattern) with
    | .ok compiled => .ok compiled
    | .error e => .error (.badPattern pattern e)

def accepted (patterns : List GlobPattern) (path : Path) : Bool :=
  patterns.any (·.accepts path.text)

/-- The files of the program: those listed, as far as they exist, and the source files below the
configuration's directory that are included and not excluded; each file once. -/
def rootFiles (config : TsConfig) (tree : FileTree) : Except ConfigError (List Path) := do
  let included ← compilePatterns config.included
  let excluded ← compilePatterns config.excluded
  let listed := (config.files.filter tree.isFile).eraseDups
  let found := tree.filesBelow "node_modules" (config.path.parent.getD .empty)
  return listed ++ found.filter fun path =>
    path.isTypeScript && accepted included path && !accepted excluded path &&
      !listed.contains path

end ApiShapes.TsConfig
