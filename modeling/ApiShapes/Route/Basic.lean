import ApiShapes.Path.Basic
import ApiShapes.Route.Segment

/-!
# Routes

* `Route` : the key under which a file is served, and the parameters in it;
* `Route.ofFile` : the route of a file below the directory of all routes.
-/

namespace ApiShapes

/-- A route: its key, such as `api/widgets/[id]`, and its parameters in path order. -/
structure Route where
  key : String
  params : List RouteParam
  deriving DecidableEq, Repr

namespace Route

/-- The first segment of every key. -/
def namespaceKey : String := "api"

/-- The names of a file's path, the last one without its extension; a last name `index` stands for
its directory. -/
def segments (names : List String) : List String :=
  match names.getLast? with
  | none => []
  | some leaf =>
    let stem := (Path.splitName leaf).1
    if stem == "index" then names.dropLast else names.dropLast ++ [stem]

/-- The route of a file below `root`. A file elsewhere is taken by its whole path. -/
def ofFile (root file : Path) : Route :=
  let relative := (file.stripStart root).getD file.parts
  let names := relative.filterMap fun
    | .name s => some s
    | _ => none
  let segments := segments names
  { key := namespaceKey ++ "/" ++ "/".intercalate segments
    params := segments.filterMap RouteParam.ofSegment? }

end Route

end ApiShapes
