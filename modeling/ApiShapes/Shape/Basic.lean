import ApiShapes.Number.Double

/-!
# Shapes

* `Shape` : the form of a request or response that is written out: primitives, literals, unions,
  arrays and objects, and `unknown` for everything that has no such form;
* `Shape.field?` : the first field of a name.
-/

namespace ApiShapes

/-- The primitive types that are written out. -/
inductive Primitive where
  | string
  | number
  | boolean
  | undefined
  deriving DecidableEq, Repr

inductive Literal where
  | string (text : String)
  | number (value : Double)
  | bool (value : Bool)
  deriving DecidableEq, Repr

/-- A named member with a type of kind `α`. -/
structure FieldOf (α : Type) where
  name : String
  type : α
  optional : Bool := false
  deriving DecidableEq, Repr

/-- The form of a request or a response. -/
inductive Shape where
  | primitive (kind : Primitive)
  | literal (value : Literal)
  | union (members : List Shape)
  | array (element : Shape)
  /-- fields in order; a name may occur more than once -/
  | object (fields : List (FieldOf Shape))
  | unknown
  deriving Repr

abbrev Field := FieldOf Shape

namespace Shape

/-- `string | number`, the type of one route parameter. -/
def stringOrNumber : Shape :=
  .union [.primitive .string, .primitive .number]

def field? (name : String) : Shape → Option Field
  | object fields => fields.find? (·.name == name)
  | _ => none

def isUnknown : Shape → Bool
  | unknown => true
  | _ => false

end Shape

end ApiShapes
