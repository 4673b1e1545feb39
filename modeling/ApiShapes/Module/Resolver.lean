import ApiShapes.Path.Normal

/-!
# Module specifiers

* `ModuleResolver` : where specifiers that are not relative lead to;
* `ModuleResolver.candidates` : the files a specifier may mean, the preferred one first; which files
  exist plays no part in it;
* `ModuleResolver.resolve` : the first candidate that exists.
-/

namespace ApiShapes

/-- The place of modules that are named without a leading dot. Without a base they all lie outside
the program. -/
structure ModuleResolver where
  base : Option Path := none
  /-- patterns with at most one `*` that counts, and their targets, in order of preference -/
  mappings : List (String × List String) := []
  deriving Repr, Inhabited

/-- The specifier is meant from the importing file's directory. -/
def isRelative (specifier : String) : Bool :=
  specifier == "." || specifier == ".." || "./".toList.isPrefixOf specifier.toList ||
    "../".toList.isPrefixOf specifier.toList

/-- The part of a specifier that a pattern's first `*` stands for; a pattern without one is matched
by itself alone. -/
def captured (pattern specifier : String) : Option String :=
  match Text.cutFirst '*' pattern with
  | some (start, finish) =>
    ((Text.dropStart start.toList specifier.toList).bind (Text.dropFinish finish.toList)).map
      String.ofList
  | none => if pattern == specifier then some "" else none

def fillTarget (target part : String) : String :=
  match Text.cutFirst '*' target with
  | some (start, finish) => start ++ part ++ finish
  | none => target

namespace ModuleResolver

def endings : List String := [".ts", ".tsx", ".d.ts"]

/-- The files that stand for a directory. -/
def indexFiles : List String := ["index.ts", "index.tsx", "index.d.ts"]

/-- The files that a path without certain ending may mean: itself, if it names a source file; the
path with an ending, where `.js` and `.jsx` give way to it; an index file below it. -/
def filesOf (base : Path) : List Path :=
  let itself := if base.isTypeScript then [base] else []
  let stem :=
    if base.extension == some "js" || base.extension == some "jsx" then base.dropExtension
    else base
  itself ++ endings.map stem.append ++ indexFiles.map base.child

/-- The files that `specifier` may mean in the file `importer`, the preferred one first. -/
def candidates (resolver : ModuleResolver) (importer : Path) (specifier : String) : List Path :=
  if isRelative specifier then
    let dir := importer.parent.getD .empty
    filesOf (dir.join (.ofString specifier)).normal
  else
    match resolver.base with
    | none => []
    | some base =>
      let mapped := resolver.mappings.flatMap fun (pattern, targets) =>
        match captured pattern specifier with
        | some part => targets.map (fillTarget · part)
        | none => []
      (mapped ++ [specifier]).flatMap fun target =>
        filesOf (base.join (.ofString target)).normal

def resolve (resolver : ModuleResolver) (importer : Path) (specifier : String)
    (exist : Path → Bool) : Option Path :=
  (resolver.candidates importer specifier).find? exist

end ModuleResolver

end ApiShapes
