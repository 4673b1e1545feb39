import ApiShapes.CommandLine.Run
import ApiShapes.FileTree.Listing

/-!
# The command line program

* `Disk.snapshot` : the files that a run may look at, as a file tree;
* `Disk.store` : what a run has changed, written to disk;
* `main` : one run, and with `--watch` one more after each change below the directory of routes.

A run looks at the working directory, at the project and at the files beside and above them. Where a
directory above holds a `package.json`, all below the topmost such directory counts. Only the
contents of sources and configurations are read; of other files only their names count.
-/

namespace ApiShapes.Disk

/-- The endings of files whose contents matter. -/
def readEndings : List String := ["ts", "tsx", "json", "toml"]

/-- What stands at a location on disk, if it is a file or a directory. -/
def entryAt (loc : Location) : IO (Option Entry) := do
  let path := Path.ofLocation loc
  let entry : IO.FS.DirEntry := { root := "/", fileName := "/".intercalate loc }
  try
    match (← entry.path.symlinkMetadata).type with
    | .dir => return some .directory
    | .other => return none
    | _ =>
      if !(path.extension.any readEndings.contains) then return some (.file (.binary []))
      let bytes ← IO.FS.readBinFile path.text
      match String.fromUTF8? bytes with
      | some s => return some (.file (.text s))
      | none => return some (.file (.binary bytes.toList))
  catch _ => return none

def namesAt (loc : Location) : IO (List String) := do
  let entry : IO.FS.DirEntry := { root := "/", fileName := "/".intercalate loc }
  try
    return (← entry.path.readDir).toList.map (·.fileName)
  catch _ => return []

/-- What a directory on disk holds; with `deep`, all below it. -/
partial def entriesBelow (deep : Bool) (loc : Location) : IO (List (Location × Entry)) := do
  let listed ← (← namesAt loc).mapM fun name => do
    let inner := loc ++ [name]
    match ← entryAt inner with
    | some .directory =>
      let below ← if deep then entriesBelow deep inner else pure []
      return (inner, .directory) :: below
    | some entry => return [(inner, entry)]
    | none => return []
  return listed.flatten

def locationOf (path : Path) : Location :=
  path.normal.parts.filterMap fun
    | .name s => some s
    | _ => none

/-- A location and all above it, the root first. -/
def upTo (loc : Location) : List Location :=
  (List.range (loc.length + 1)).map loc.take

/-- The topmost location at or above `loc` that holds a package, or `loc` itself. -/
def packageRoot (loc : Location) : IO Location := do
  for above in upTo loc do
    if (← entryAt (above ++ ["package.json"])).isSome then return above
  return loc

/-- The files that a run may look at that starts from these locations. -/
def snapshot (starts : List Location) : IO FileTree := do
  let mut tree : FileTree := {}
  for loc in starts do
    for above in upTo loc do
      if let some entry ← entryAt above then
        tree := { entries := (above, entry) :: (← entriesBelow false above) ++ tree.entries }
    tree := { entries := (← entriesBelow true (← packageRoot loc)) ++ tree.entries }
  return { entries := tree.entries.eraseDups }

/-- Writes what differs between two trees. -/
def store (before after : FileTree) : IO Unit := do
  for (loc, entry) in after.entries.reverse do
    if before.entryAt loc != some entry then
      match entry with
      | .directory => IO.FS.createDirAll (Path.ofLocation loc).text
      | .file (.text s) => IO.FS.writeFile (Path.ofLocation loc).text s
      | .file (.binary _) => pure ()

/-- Changes files by a pure step on a snapshot. -/
def perform {α : Type} (starts : List Location) (step : StateM FileTree α) : IO α := do
  let before ← snapshot starts
  let (result, after) := step.run before
  store before after
  return result

/-- The files whose changes call for another build. -/
def watched (config : Configuration) (tree : FileTree) : List (Location × Entry) :=
  tree.entries.filter fun (loc, _) =>
    (Path.ofLocation loc).startsWith config.input && !config.isIgnored (.ofLocation loc)

def print (exit : Exit) : IO Unit := do
  IO.print exit.stdout
  IO.eprint exit.stderr
  (← IO.getStdout).flush

/-- Builds again after each change below the directory of routes. -/
partial def watch (starts : List Location) (config : Configuration)
    (seen : List (Location × Entry)) : IO Unit := do
  IO.sleep 500
  let now := watched config (← snapshot starts)
  if now != seen then
    match ← perform starts (generate config).run with
    | .ok outcome => print (.success outcome)
    | .error e => print (.failure e.message)
  watch starts config now

end ApiShapes.Disk

open ApiShapes in
def main (args : List String) : IO UInt32 := do
  let cwd := Path.ofString (← IO.currentDir).toString
  let options := match Invocation.ofArgs args with
    | .build options _ => options
    | _ => {}
  let starts := [Disk.locationOf cwd, Disk.locationOf (cwd.join (options.rootDir.getD .empty))]
  let exit ← Disk.perform starts (run cwd args)
  Disk.print exit
  match Invocation.ofArgs args with
  | .build options true =>
    if exit.code == 0 then
      let tree ← Disk.snapshot starts
      if let .ok config := Configuration.load tree cwd options then
        Disk.watch starts config (Disk.watched config tree)
  | _ => pure ()
  return exit.code.toUInt32
