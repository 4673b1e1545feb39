import ApiShapes.Artifact.Name
import ApiShapes.Route.Basic
import ApiShapes.Shape.Print

/-!
# Declaration records

* `Record` : one named declaration;
* `Record.ofHandler` : the two records of a handler, with the route's parameters in the query;
* `Record.blocks` : a record as a type alias and an entry of an index interface. All entries of one
  method and side carry one interface name, so that the interfaces merge.
-/

namespace ApiShapes

/-- A declaration for one side of one handler. -/
structure Record where
  name : String
  body : Shape
  routeKey : String
  method : Method
  side : Side
  deriving Repr

/-- The query with the parameters' fields: they are all of an unknown query, they come after the
fields of an object, and they leave any other query alone. -/
def Shape.withParams (params : List RouteParam) : Shape → Shape
  | unknown => .object (params.map RouteParam.field)
  | object fields => .object (fields ++ params.map RouteParam.field)
  | shape => shape

/-- The fields with a change to the first one of that name. -/
def updateFirst (name : String) (change : Shape → Shape) : List Field → List Field
  | [] => []
  | field :: rest =>
    if field.name == name then { field with type := change field.type } :: rest
    else field :: updateFirst name change rest

def Shape.withRouteParams (params : List RouteParam) : Shape → Shape
  | object fields => .object (updateFirst "query" (Shape.withParams params) fields)
  | shape => shape

namespace Record

def ofHandler (route : Route) (handler : Handler) : List Record :=
  let record (side : Side) (body : Shape) : Record :=
    { name := aliasName route.key handler.method side
      body
      routeKey := route.key
      method := handler.method
      side }
  [record .request (handler.request.withRouteParams route.params),
    record .response handler.response]

def aliasBlock (r : Record) : String :=
  "type " ++ r.name ++ " = " ++ r.body.print ++ ";"

def indexBlock (r : Record) : String :=
  "export interface " ++ indexName r.method r.side ++ " \x7b\n" ++ indent 1 ++
    Text.quote r.routeKey ++ ": " ++ r.name ++ ";\n\x7d"

/-- Alias and entry, with a blank line between them. -/
def print (r : Record) : String :=
  r.aliasBlock ++ "\n\n" ++ r.indexBlock

end Record

end ApiShapes
