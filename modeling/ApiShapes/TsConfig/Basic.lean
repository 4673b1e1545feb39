import ApiShapes.FileTree.Listing
import ApiShapes.Module.Resolver
import ApiShapes.Project.Error
import ApiShapes.TsConfig.Written
import ApiShapes.Worklist

/-!
# Compiler configurations

* `TsConfigLayer` : what one tsconfig file says, with its paths made absolute;
* `TsConfigLayer.load` : a file's layer over those of the files it extends;
* `TsConfig`, `TsConfig.load` : a configuration with nothing left open.

A file may extend only files that are not being read already. Files are told apart by the parts of their
paths, and there are finitely many paths in normal form that lead to files, which bounds the depth.
-/

namespace ApiShapes

/-- What a tsconfig file says, with absolute paths. What is not said is left open. -/
structure TsConfigLayer where
  baseUrl : Option Path := none
  /-- the directory of the file that says it, and the patterns with their targets -/
  mappings : Option (Path × List (String × List String)) := none
  outDir : Option Path := none
  files : Option (List Path) := none
  included : Option (List String) := none
  excluded : Option (List String) := none
  deriving Repr

namespace TsConfigLayer

def ofWritten (dir : Path) (config : WrittenConfig) : TsConfigLayer :=
  let absolute := fun (s : String) => (dir.join (.ofString s)).normal
  let patterns := List.map fun s => (absolute s).text
  { baseUrl := config.options.baseUrl.map absolute
    mappings := config.options.mappings.map (dir, ·)
    outDir := config.options.outDir.map absolute
    files := config.files.map (·.map absolute)
    included := config.included.map patterns
    excluded := config.excluded.map patterns }

/-- What `upper` leaves open is taken from `lower`. -/
def above (upper lower : TsConfigLayer) : TsConfigLayer where
  baseUrl := upper.baseUrl <|> lower.baseUrl
  mappings := upper.mappings <|> lower.mappings
  outDir := upper.outDir <|> lower.outDir
  files := upper.files <|> lower.files
  included := upper.included <|> lower.included
  excluded := upper.excluded <|> lower.excluded

/-- The file that `base` means in a file of the directory `dir`; a name that is neither relative nor
absolute means a package and is passed over. -/
def baseFile? (tree : FileTree) (dir : Path) (base : String) : Option Path :=
  let written := Path.ofString base
  if base.startsWith "." || written.isAbsolute then
    let path := (dir.join written).normal
    if tree.isFile path || base.endsWith ".json" then some path else some (path.append ".json")
  else none

/-- The layer of a file over those it extends, of which the last wins. Only a file whose path has parts
of `unread` may still be read; any other file is being read already. -/
def loadFrom (tree : FileTree) (unread : List (List Part)) (path : Path) :
    Except ConfigError TsConfigLayer :=
  match tree.textAt path with
  | .error cause => .error (.unreadable path cause)
  | .ok (_, source) =>
    if _h : path.parts ∈ unread then
      match WrittenConfig.ofText? source with
      | none => .error (.badTsConfig path)
      | some config => do
        let dir := path.parent.getD .empty
        let bases := config.bases.filterMap (baseFile? tree dir)
        let lower ← bases.foldlM (fun lower base => do
          return (← loadFrom tree (without path.parts unread) base).above lower) {}
        return (ofWritten dir config).above lower
    else .error (.circularExtends path)
termination_by unread.length
decreasing_by exact length_without_lt _h

def load (tree : FileTree) (path : Path) : Except ConfigError TsConfigLayer :=
  loadFrom tree ((path :: tree.filePaths).map Path.parts) path

end TsConfigLayer

/-- A compiler configuration with absolute paths. -/
structure TsConfig where
  path : Path
  baseUrl : Option Path
  /-- patterns of module specifiers with their targets, the longest beginning first -/
  mappings : List (String × List String)
  /-- the directory of the targets, if there are patterns -/
  mappingsBase : Option Path
  outDir : Option Path
  /-- files that belong to the program by name -/
  files : List Path
  included : List String
  excluded : List String
  deriving Repr

namespace TsConfig

def packageDirectories : List String := ["node_modules", "bower_components", "jspm_packages"]

/-- The length in bytes of a pattern's text in front of its first `*`. -/
def fixedLength (pattern : String) : Nat :=
  match Text.cutFirst '*' pattern with
  | some (start, _) => start.utf8ByteSize
  | none => pattern.utf8ByteSize

/-- The configuration of the file `path` in the directory `dir` with this layer. -/
def ofLayer (path dir : Path) (layer : TsConfigLayer) : TsConfig where
  path
  baseUrl := layer.baseUrl
  mappings := ((layer.mappings.map (·.2)).getD []).mergeSort fun p q =>
    decide (fixedLength q.1 ≤ fixedLength p.1)
  mappingsBase := layer.mappings.map fun (base, _) => layer.baseUrl.getD base
  outDir := layer.outDir
  files := layer.files.getD []
  included := layer.included.getD [(dir.join (.ofString "**/*")).text]
  excluded :=
    layer.excluded.getD (packageDirectories.map fun name => (dir.child name).text) ++
      (layer.outDir.map Path.text).toList

def load (tree : FileTree) (path : Path) : Except ConfigError TsConfig := do
  let path := path.normal
  return ofLayer path (path.parent.getD .empty) (← TsConfigLayer.load tree path)

def resolver (config : TsConfig) : ModuleResolver where
  base := config.mappingsBase <|> config.baseUrl
  mappings := config.mappings

end TsConfig

end ApiShapes
