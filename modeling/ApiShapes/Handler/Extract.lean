import ApiShapes.Handler.Table
import ApiShapes.Http
import ApiShapes.Shape.Encode

/-!
# Handlers of a route file

* `Framework` : the module and type names that a handler's parameters are checked against;
* `requestShape`, `responseShape` : the shapes that the types of the two parameters give;
* `extractHandlers` : the handlers of all entries in a file's method table.
-/

namespace ApiShapes

/-- The names by which requests and responses are known. -/
structure Framework where
  /-- the module that exports both types -/
  module : String := "next"
  request : String := "NextApiRequest"
  response : String := "NextApiResponse"
  /-- the module of the request types with body and query as arguments -/
  helperModule : String := "nextpida-handler-types"
  deriving DecidableEq, Repr, Inhabited

/-- A request type of the helper module, by the places of body and query among its arguments. -/
structure RequestHelper where
  name : String
  body : Option Nat
  query : Option Nat

def requestHelpers : List RequestHelper :=
  [⟨"NextApiRequestWithBody", some 0, none⟩, ⟨"NextApiRequestWithQuery", none, some 0⟩,
    ⟨"NextApiRequestWithBodyAndQuery", some 0, some 1⟩]

def requestObject (body query : Shape) : Shape :=
  .object [{ name := "body", type := body }, { name := "query", type := query }]

variable (checker : Checker) (framework : Framework)

/-- The node belongs to an import or export from `module`. -/
def comesFrom (origin : NodeId) (module : String) : Bool :=
  checker.importOrigin origin == some module

def isRequest : CheckedType → Bool
  | .external origin name _ =>
    name == framework.request && comesFrom checker origin framework.module
  | _ => false

/-- The type is the request type, or a name without a declaration around it. -/
def wrapsRequest : CheckedType → Bool
  | .unresolved _ (arg :: _) => isRequest checker framework arg
  | type => isRequest checker framework type

def helperOf (type : CheckedType) : Option (RequestHelper × List CheckedType) :=
  match type with
  | .external origin name args =>
    if comesFrom checker origin framework.helperModule then
      (requestHelpers.find? (·.name == name)).map (·, args)
    else none
  | _ => none

/-- The shape of a type argument, if its place is given and filled. -/
def argumentShape (args : List CheckedType) (place : Option Nat) : Encoding Shape :=
  match place.bind (args[·]?) with
  | some arg => Encoding.encode checker arg
  | none => pure .unknown

def objectParts (parts : List CheckedType) : List Instance :=
  parts.filterMap fun
    | .object node env => some { node, env }
    | _ => none

/-- The shape of the first member of that name in object types; those without members are passed
over. -/
def memberShape (objects : List Instance) (name : String) : Encoding Shape :=
  let members := objects.flatMap fun object => ((checker.members object).toOption).getD []
  match members.find? (·.name == name) with
  | some member => Encoding.encodeNode checker member.node member.env
  | none => pure .unknown

def requestShapeOf (type : CheckedType) : Shape :=
  if isRequest checker framework type then requestObject .unknown .unknown
  else match helperOf checker framework type with
    | some (helper, args) =>
      Encoding.result do
        let body ← argumentShape checker args helper.body
        let query ← argumentShape checker args helper.query
        return requestObject body query
    | none =>
      match type with
      | .intersection parts =>
        if parts.any (wrapsRequest checker framework) then
          let objects := objectParts parts
          Encoding.result do
            let body ← memberShape checker objects "body"
            let query ← memberShape checker objects "query"
            return requestObject body query
        else .unknown
      | _ => .unknown

def requestShape (param : NodeId) : Shape :=
  match checker.typeAt param [] with
  | .ok type => requestShapeOf checker framework type
  | .error _ => .unknown

def responseShapeOf : CheckedType → Shape
  | .external origin name args =>
    if name == framework.response && comesFrom checker origin framework.module then
      match args with
      | arg :: _ => Encoding.result (Encoding.encode checker arg)
      | [] => .unknown
    else .unknown
  | _ => .unknown

def responseShape (param : NodeId) : Shape :=
  match checker.typeAt param [] with
  | .ok type => responseShapeOf checker framework type
  | .error _ => .unknown

/-- The handler of a table entry, if its key is a verb and a function stands behind it. -/
def extractEntry (scope : NodeId) (entry : ObjectProperty) : Option Handler := do
  let method ← Method.ofKey? (← entry.key)
  let (request, response) ← handlerParams checker scope entry.value
  return { method
           request := requestShape checker framework request
           response := responseShape checker framework response }

/-- The handlers of a file, in the order of its method table. -/
def extractHandlers (file : Path) : List Handler :=
  match methodTable checker file with
  | some (scope, table) => table.filterMap (extractEntry checker framework scope)
  | none => []

end ApiShapes
