import ApiShapes.FileTree.Basic

/-!
# The files of a tree

* `Path.spellings` : the paths in normal form that lead to a location;
* `FileTree.filePaths` : those of all files;
* `FileTree.filesBelow` : the files below a directory, depth first, where names beside each other are
  in order and some directories are passed over.

Depth first with ordered names is the same as the order of the lists of names.
-/

namespace ApiShapes

/-- The order of locations: a location comes before what lies below it, and the first names that
differ decide otherwise. -/
def Location.le : Location → Location → Bool
  | [], _ => true
  | _ :: _, [] => false
  | a :: as, b :: bs => if a == b then Location.le as bs else decide (a ≤ b)

/-- The paths in normal form that lead to a location. At the root `..` leads nowhere else. -/
def Path.spellings (loc : Location) : List Path :=
  [[], [.root], [.up], [.root, .up]].map fun lead => .ofParts (lead ++ loc.map .name)

namespace FileTree

variable (tree : FileTree)

def fileLocations : List Location :=
  tree.entries.filterMap fun
    | (loc, .file _) => some loc
    | (_, .directory) => none

/-- The paths in normal form of all files. -/
def filePaths : List Path :=
  tree.fileLocations.flatMap Path.spellings

/-- What leads from `base` to `loc`, if it lies at or below `base`. -/
def below? (base loc : Location) : Option Location :=
  if base.isPrefixOf loc then some (loc.drop base.length) else none

/-- The files below a location, each by the names that lead to it from there, in order. Nothing in a
directory called `skipped` counts. -/
def namesBelow (skipped : String) (base : Location) : List Location :=
  let names := tree.fileLocations.filterMap (below? base)
  (names.filter (!·.dropLast.contains skipped)).mergeSort Location.le

/-- The files below a directory, in order. Nothing in a directory called `skipped` counts, be it the
directory itself. -/
def filesBelow (skipped : String) (dir : Path) : List Path :=
  match tree.locate dir with
  | .ok (base, .directory) =>
    if dir.fileName == some skipped then []
    else (tree.namesBelow skipped base).map fun names => names.foldl Path.child dir
  | _ => []

end FileTree

end ApiShapes
