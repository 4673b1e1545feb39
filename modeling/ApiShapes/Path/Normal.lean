import ApiShapes.Path.Basic

/-!
# Lexical normal form of a path

* `Path.normal` : the path with every `.` dropped and every `..` taken together with the part before
  it, without a look at any file.
-/

namespace ApiShapes.Path

/-- Takes one part in; `done` holds the parts so far, the last one first. A `..` with nothing to
take back is kept, and a later `..` takes it back like any other part. -/
def normalStep (done : List Part) : Part → List Part
  | .here => done
  | .root => [.root]
  | .name s => .name s :: done
  | .up =>
    match done with
    | [] => [.up]
    | [.root] => [.up, .root]
    | _ :: before => before

def normalParts (ps : List Part) : List Part :=
  (ps.foldl normalStep []).reverse

def normal (p : Path) : Path :=
  ofParts (normalParts p.parts)

end ApiShapes.Path
