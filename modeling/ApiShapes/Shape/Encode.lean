import ApiShapes.Checker

/-!
# Shapes of types

* `Encoding` : steps that keep the object types around the current one, and may fail;
* `Encoding.encodeAt` : the shape of a type, so many levels deep;
* `Encoding.encode`, `Encoding.encodeNode` : the shape of a type or of what is written at a node;
  what has no shape is `unknown`.

Each failure is met at the type where it arises, so that only this type becomes `unknown` and what
stands beside it keeps its shape.
-/

namespace ApiShapes

inductive EncodeError where
  /-- the checker has no answer -/
  | checker (cause : CheckError)
  | unrepresentable (form : String)
  /-- the object type stands within itself -/
  | recursive (node : NodeId)
  | tooDeep (bound : Nat)
  deriving DecidableEq, Repr

/-- Steps that know the object types around the current one, the nearest first. -/
abbrev Encoding := ExceptT EncodeError (StateM (List Instance))

namespace Encoding

/-- The levels below the outermost one. -/
def maxDepth : Nat := 32

/-- Takes up a failure as `unknown`. -/
def degrade (shape : Encoding Shape) : Encoding Shape :=
  tryCatch shape fun _ => pure .unknown

def ask {α : Type} (answer : Except CheckError α) : Encoding α :=
  match answer with
  | .ok a => pure a
  | .error cause => throw (.checker cause)

variable (checker : Checker)

def encodeKeyword : Keyword → Encoding Shape
  | .string => pure (.primitive .string)
  | .number => pure (.primitive .number)
  | .boolean => pure (.primitive .boolean)
  | .undefined => pure (.primitive .undefined)
  | _ => throw (.unrepresentable "keyword type")

def nodeWith (encodeType : CheckedType → Encoding Shape) (id : NodeId) (env : Env) :
    Encoding Shape :=
  degrade do encodeType (← ask (checker.typeAt id env))

/-- The field of a member. Only properties have one. -/
def encodeMember (encodeType : CheckedType → Encoding Shape) (member : Member) :
    Encoding (Option Field) :=
  match checker.node member.node with
  | .ok { kind := .property _ optional _, .. } => do
    let type ← nodeWith checker encodeType member.node member.env
    return some { name := member.name, type, optional }
  | _ => pure none

/-- The shape of an object type, whose members' types are encoded by `encodeType`. -/
def encodeObject (encodeType : CheckedType → Encoding Shape) (object : Instance) :
    Encoding Shape := do
  if (← get).any object.same then throw (.recursive object.node)
  let members ← ask (checker.members object)
  modify (object :: ·)
  let fields ← members.filterMapM (encodeMember checker encodeType)
  modify (·.drop 1)
  return .object fields

/-- The shape of a type. A type below the last level has none. -/
def encodeAt (bound : Nat) : Nat → CheckedType → Encoding Shape
  | 0, _ => throw (.tooDeep bound)
  | levels + 1, type =>
    match type with
    | .keyword word => encodeKeyword word
    | .literal value => pure (.literal value)
    | .union members => do
      return .union (← members.mapM fun member => degrade (encodeAt bound levels member))
    | .array element => do return .array (← degrade (encodeAt bound levels element))
    | .object node env => encodeObject checker (encodeAt bound levels) { node, env }
    | .external .. => throw (.unrepresentable "external type")
    | .unresolved .. => throw (.unrepresentable "undeclared type")
    | .intersection _ => throw (.unrepresentable "intersection")
    | .function => throw (.unrepresentable "function type")
    | .unsupported form => throw (.unrepresentable form)

def encode (type : CheckedType) : Encoding Shape :=
  degrade (encodeAt checker maxDepth (maxDepth + 1) type)

def encodeNode (id : NodeId) (env : Env) : Encoding Shape :=
  nodeWith checker (encodeAt checker maxDepth (maxDepth + 1)) id env

/-- The result of steps that start with no object type around them; a failure of the whole is
`unknown`. -/
def result (shape : Encoding Shape) : Shape :=
  match (shape.run.run []).1 with
  | .ok shape => shape
  | .error _ => .unknown

end Encoding

end ApiShapes
