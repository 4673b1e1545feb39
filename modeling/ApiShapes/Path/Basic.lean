import ApiShapes.Text.Split

/-!
# Paths

* `Path` : a path as written, by the pieces between its slashes;
* `Path.parts` : what the pieces say: the root, a leading `.`, `..` and names; empty pieces and every
  other `.` say nothing;
* `Path.same`, `Path.startsWith`, `Path.stripStart` : comparisons by parts;
* `Path.join`, `Path.parent`, `Path.stem`, `Path.extension` : the usual operations.
-/

namespace ApiShapes

/-- A path as written: its text is the pieces with a slash between each two. -/
structure Path where
  pieces : List String
  deriving DecidableEq, Inhabited, Repr

inductive Part where
  | root
  /-- a leading `.` -/
  | here
  | up
  | name (text : String)
  deriving DecidableEq, Repr

namespace Part

/-- The part that a piece stands for, unless it is empty or `.`. -/
def ofPiece? : String → Option Part
  | "" => none
  | "." => none
  | ".." => some .up
  | s => some (.name s)

def piece : Part → String
  | root => ""
  | here => "."
  | up => ".."
  | name s => s

end Part

namespace Path

def ofString (s : String) : Path :=
  ⟨Text.slashPieces s⟩

def text (p : Path) : String :=
  "/".intercalate p.pieces

instance : ToString Path := ⟨text⟩

def empty : Path := ⟨[""]⟩

def isAbsolute : Path → Bool
  | ⟨"" :: _ :: _⟩ => true
  | _ => false

def parts : Path → List Part
  | ⟨"" :: p :: ps⟩ => .root :: (p :: ps).filterMap Part.ofPiece?
  | ⟨"." :: ps⟩ => .here :: ps.filterMap Part.ofPiece?
  | ⟨ps⟩ => ps.filterMap Part.ofPiece?

/-- The path that parts write, without a slash to spare. -/
def ofParts : List Part → Path
  | [] => empty
  | [.root] => ⟨["", ""]⟩
  | ps => ⟨ps.map Part.piece⟩

/-! ## Comparing -/

def same (p q : Path) : Bool :=
  p.parts == q.parts

/-- The parts of `base` begin the parts of `p`. -/
def startsWith (p base : Path) : Bool :=
  base.parts.isPrefixOf p.parts

def stripStart (p base : Path) : Option (List Part) :=
  if p.startsWith base then some (p.parts.drop base.parts.length) else none

/-! ## Putting together and taking apart -/

/-- `q` seen from the directory `p`. -/
def join (p q : Path) : Path :=
  if q.isAbsolute || p == empty then q
  else if p.pieces.getLast? == some "" then ⟨p.pieces.dropLast ++ q.pieces⟩
  else ⟨p.pieces ++ q.pieces⟩

def child (p : Path) (s : String) : Path :=
  p.join ⟨[s]⟩

/-- The pieces up to the last that stands for a part. -/
def dropIdle (pieces : List String) : List String :=
  (pieces.reverse.dropWhile fun s => (Part.ofPiece? s).isNone).reverse

/-- The path without its last part, and otherwise as written; the root and the empty path have no
parent. -/
def parent (p : Path) : Option Path :=
  match p.parts.getLast? with
  | none => none
  | some .root => none
  | some _ =>
    match p.pieces with
    | [] => none
    | first :: rest =>
      if dropIdle rest == [] then some empty
      else
        let kept := dropIdle (dropIdle rest).dropLast
        if first == "" && kept == [] then some (ofParts [.root]) else some ⟨first :: kept⟩

def ancestors (p : Path) : List Path :=
  p :: (go p.parts.length p)
where
  go : Nat → Path → List Path
    | 0, _ => []
    | n + 1, q =>
      match q.parent with
      | some r => r :: go n r
      | none => []

/-- The last part, if it is a name. -/
def fileName (p : Path) : Option String :=
  match p.parts.getLast? with
  | some (.name s) => some s
  | _ => none

/-- The text behind the path's text, in its last piece. -/
def append (p : Path) (s : String) : Path :=
  match p.pieces.getLast? with
  | some last => ⟨p.pieces.dropLast ++ [last ++ s]⟩
  | none => ⟨[s]⟩

/-! ## Extensions -/

/-- A file name before and after its last dot. A name with no dot, or with none but a leading one,
has no extension. -/
def splitName (s : String) : String × Option String :=
  let reversed := s.toList.reverse
  let extension := (reversed.takeWhile (· != '.')).reverse
  match reversed.dropWhile (· != '.') with
  | '.' :: before@(_ :: _) =>
    if s == ".." then (s, none)
    else (String.ofList before.reverse, some (String.ofList extension))
  | _ => (s, none)

def stem (p : Path) : Option String :=
  p.fileName.map fun s => (splitName s).1

def extension (p : Path) : Option String :=
  p.fileName.bind fun s => (splitName s).2

def dropExtension (p : Path) : Path :=
  match p.stem with
  | some s => ofParts (p.parts.dropLast ++ [.name s])
  | none => p

def isTypeScript (p : Path) : Bool :=
  p.extension == some "ts" || p.extension == some "tsx"

def isDeclarationFile (p : Path) : Bool :=
  match p.fileName with
  | some s => ".d.ts".toList.isSuffixOf s.toList
  | none => false

end Path

end ApiShapes
