import ApiShapes.Shape.Basic
import ApiShapes.Text.Split
import ApiShapes.Text.Word

/-!
# Bracketed route segments

* `RouteParam` : a parameter that a segment stands for: `[id]`, `[...slugs]` or `[[...slugs]]`;
* `RouteParam.ofSegment?` reads it, `RouteParam.field` is its query field;
* `bareSegment` : a segment without its brackets.
-/

namespace ApiShapes

open Text

/-- A parameter given by a route segment. -/
structure RouteParam where
  name : String
  /-- the segment takes the rest of the path -/
  isArray : Bool := false
  /-- the segment may be absent -/
  isOptional : Bool := false
  deriving DecidableEq, Repr

namespace RouteParam

def field (param : RouteParam) : Field where
  name := param.name
  type := if param.isArray then .array .stringOrNumber else .stringOrNumber
  optional := param.isOptional

end RouteParam

def between (start finish : List Char) (segment : List Char) : Option (List Char) :=
  (dropStart start segment).bind (dropFinish finish)

/-- The segment without its brackets; any other segment as it is. -/
def bareSegment (segment : String) : String :=
  let cs := segment.toList
  String.ofList <|
    (between ['[', '[', '.', '.', '.'] [']', ']'] cs <|>
      between ['[', '.', '.', '.'] [']'] cs <|>
      between ['['] [']'] cs).getD cs

/-- A nonempty run of word characters between `start` and `finish`. -/
def wordBetween (start finish : List Char) (segment : String) : Option String :=
  match between start finish segment.toList with
  | some (c :: rest) => if (c :: rest).all isWordChar then some (.ofList (c :: rest)) else none
  | _ => none

def RouteParam.ofSegment? (segment : String) : Option RouteParam :=
  (wordBetween ['['] [']'] segment).map (⟨·, false, false⟩) <|>
    (wordBetween ['[', '.', '.', '.'] [']'] segment).map (⟨·, true, false⟩) <|>
    (wordBetween ['[', '[', '.', '.', '.'] [']', ']'] segment).map (⟨·, true, true⟩)

end ApiShapes
