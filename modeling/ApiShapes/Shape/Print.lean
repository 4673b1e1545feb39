import ApiShapes.Number.Shortest
import ApiShapes.Shape.Basic
import ApiShapes.Text.Quoted

/-!
# Shapes as text

* `Shape.print` : a shape as a type expression; the members of an object stand on lines of their
  own, two blanks deeper than the line the object starts on.
-/

namespace ApiShapes

def Primitive.print : Primitive → String
  | string => "string"
  | number => "number"
  | boolean => "boolean"
  | undefined => "undefined"

def Literal.print : Literal → String
  | string s => Text.quote s
  | number x => x.literal
  | bool true => "true"
  | bool false => "false"

def indent (depth : Nat) : String :=
  String.ofList (List.replicate (2 * depth) ' ')

namespace Shape

/-- The shape's text needs parentheses in front of `[]`. -/
def isOpenUnion : Shape → Bool
  | union (_ :: _ :: _) => true
  | _ => false

mutual

/-- A shape as text, on a line that is indented to `depth`. -/
def printAt (depth : Nat) : Shape → String
  | primitive kind => kind.print
  | literal value => value.print
  | unknown => "unknown"
  | union [] => "never"
  | union members => " | ".intercalate (printMembers depth members)
  | array element =>
    if element.isOpenUnion then "(" ++ printAt depth element ++ ")[]"
    else printAt depth element ++ "[]"
  | object [] => "\x7b\x7d"
  | object fields =>
    "\x7b\n" ++ String.join (printFields depth fields) ++ indent depth ++ "\x7d"

def printMembers (depth : Nat) : List Shape → List String
  | [] => []
  | member :: rest => printAt depth member :: printMembers depth rest

def printFields (depth : Nat) : List Field → List String
  | [] => []
  | ⟨name, type, optional⟩ :: rest =>
    (indent (depth + 1) ++ Text.propertyKey name ++ (if optional then "?" else "") ++ ": " ++
      printAt (depth + 1) type ++ ";\n") :: printFields depth rest

end

def print (shape : Shape) : String :=
  shape.printAt 0

end Shape

end ApiShapes
