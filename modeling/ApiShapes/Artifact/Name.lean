import ApiShapes.Http
import ApiShapes.Route.Segment
import ApiShapes.Text.Camel

/-!
# Names of declarations

* `aliasName` : the name of a type alias, made of method, route key and side;
* `indexName` : the name of the interface that lists one method and side over all routes.
-/

namespace ApiShapes

/-- A route key in camel case, segment by segment, without brackets. -/
def routeName (key : String) : String :=
  String.join ((Text.slashPieces key).map fun segment => Text.upperCamel (bareSegment segment))

/-- The alias of one side of a handler: `GET` of `api/widgets/[id]` asks for
`GetApiWidgetsIdRequest`. -/
def aliasName (key : String) (method : Method) (side : Side) : String :=
  Text.upperCamel method.key ++ routeName key ++ Text.upperCamel side.suffixText

/-- The interface over all routes, such as `GetRequest`. -/
def indexName (method : Method) (side : Side) : String :=
  Text.upperCamel method.key ++ side.suffixText

end ApiShapes
