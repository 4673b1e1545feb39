import ApiShapes.FileTree.Basic

/-!
# Changes to a file tree

* `FileTree.insert`, `FileTree.erase` : an entry put at a location, and taken away with all below it;
* `FileTree.makeDirectory` : one directory;
* `FileEdit` : steps that change a tree and may fail, where a failure keeps what was changed before;
* `FileEdit.createDirectories`, `FileEdit.writeText`, `FileEdit.delete`.
-/

namespace ApiShapes

namespace FileTree

variable (tree : FileTree)

theorem lookup_filter_ne {loc place : Location} (h : place ≠ loc) (entries : List (Location × Entry)) :
    (entries.filter (·.1 != loc)).lookup place = entries.lookup place := by
  induction entries with
  | nil => rfl
  | cons first rest ih =>
    obtain ⟨here, entry⟩ := first
    by_cases hf : here = loc
    · have hp : (place == here) = false := by simpa [hf] using h
      simp [List.lookup_cons, hf, ih, hf ▸ hp]
    · simp [List.lookup_cons, hf, ih]

def insert (loc : Location) (entry : Entry) : FileTree :=
  ⟨(loc, entry) :: tree.entries.filter (·.1 != loc)⟩

theorem entryAt_insert {loc : Location} (h : loc ≠ []) (entry : Entry) (place : Location) :
    (tree.insert loc entry).entryAt place = if place = loc then some entry else tree.entryAt place := by
  cases place with
  | nil => simp [entryAt, Ne.symm h]
  | cons name names =>
    by_cases hp : name :: names = loc
    · simp [entryAt, insert, hp]
    · have hl : (name :: names == loc) = false := by simpa using hp
      simp only [entryAt, insert, List.lookup_cons, hl, hp, if_false]
      exact lookup_filter_ne hp tree.entries

/-- The tree with nothing at `loc` and below it. -/
def erase (loc : Location) : FileTree :=
  ⟨tree.entries.filter (!loc.isPrefixOf ·.1)⟩

/-- The location that a path names inside of a directory that exists; a path that ends in `.` or `..`
or is the root names what exists already. -/
def placeFor (pieces : List String) : Except FileError Location :=
  match pieces.getLast? with
  | none => throw .present
  | some last => do
    let dir ← tree.walk [] (pieces.dropLast ++ [""])
    match last with
    | "" => throw .present
    | "." => throw .present
    | ".." => throw .present
    | name => return dir ++ [name]

def makeDirectory (path : Path) : Except FileError FileTree := do
  let loc ← tree.placeFor (path.pieces.reverse.dropWhile (· == "")).reverse
  match tree.entryAt loc with
  | some _ => throw .present
  | none => return tree.insert loc .directory

end FileTree

abbrev FileEdit := ExceptT FileError (StateM FileTree)

namespace FileEdit

/-- A change that happens as a whole or not at all. -/
def change (f : FileTree → Except FileError FileTree) : FileEdit Unit := do
  set (← liftM (f (← get)))

/-- Creates a directory, unless it is there. -/
def ensureDirectory (path : Path) : FileEdit Unit := do
  match (← get).makeDirectory path with
  | .ok tree => set tree
  | .error cause =>
    if !(cause == .present && (← get).isDirectory path) then throw cause

/-- Creates the first directory of the list; where the directory it belongs in is missing, that is
created before, from the rest of the list. -/
def createWithin : List Path → FileEdit Unit
  | [] => return
  | path :: above => do
    if path.parent.isSome then
      match (← get).makeDirectory path with
      | .error .notFound =>
        createWithin above
        ensureDirectory path
      | _ => ensureDirectory path

def createDirectories (path : Path) : FileEdit Unit :=
  createWithin path.ancestors

/-- Writes a text to a file, which is created if its directory exists. -/
def writeText (path : Path) (s : String) : FileEdit Unit :=
  change fun tree => do
    let loc ← tree.placeFor path.pieces
    match tree.entryAt loc with
    | some .directory => throw .isDirectory
    | _ => return tree.insert loc (.file (.text s))

/-- Takes away a file, or a directory with all in it. -/
def delete (path : Path) : FileEdit Unit :=
  change fun tree => do
    let (loc, _) ← tree.locate path
    return tree.erase loc

end FileEdit

end ApiShapes
