/-!
# Pieces of a text

* `pieces` : the pieces of a list between its separators; there is always at least one;
* `cutFirst`, `dropStart`, `dropFinish` : the two sides of the first separator, and a text without a
  given beginning or end.
-/

namespace ApiShapes.Text

/-- The pieces between the separators, empty ones included. -/
def pieces {α : Type} (sep : α → Bool) : List α → List (List α)
  | [] => [[]]
  | c :: rest =>
    if sep c then [] :: pieces sep rest
    else match pieces sep rest with
      | [] => [[c]]
      | p :: ps => (c :: p) :: ps

def cutFirst (sep : Char) (s : String) : Option (String × String) :=
  let cs := s.toList
  if cs.contains sep then
    some (String.ofList (cs.takeWhile (· != sep)),
      String.ofList ((cs.dropWhile (· != sep)).drop 1))
  else none

/-- What follows `start`, if the text begins with it. -/
def dropStart (start : List Char) (cs : List Char) : Option (List Char) :=
  if start.isPrefixOf cs then some (cs.drop start.length) else none

/-- What stands before `finish`, if the text ends with it. -/
def dropFinish (finish : List Char) (cs : List Char) : Option (List Char) :=
  if finish.isSuffixOf cs then some (cs.take (cs.length - finish.length)) else none

def slashPieces (s : String) : List String :=
  (pieces (· == '/') s.toList).map String.ofList

end ApiShapes.Text
