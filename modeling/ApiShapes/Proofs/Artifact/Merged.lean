import ApiShapes.Artifact.Record
import ApiShapes.Proofs.Handler.Origin
import ApiShapes.Proofs.Route.Key
import ApiShapes.Proofs.Route.Segment
import ApiShapes.Proofs.Shape.Steps

/-!
# Route parameters in a request

* `Shape.IsRequest` : the shapes of requests, unknown or an object of a body and a query; whichever way a
  request is found, its shape is one of them (`isRequest_of_mem_extractHandlers`);
* `withRouteParams_requestObject` : the route's parameters go into the query and nowhere else;
* `ofHandler_of_mem_extractHandlers` : the two records of a handler, field by field. An unknown query becomes
  the fields of the file's bracketed segments, an object has them after its own, and a query of any other
  shape has no room for them and stays as it is;
* `ofHandler_text_query` : so a query that is declared as a text loses the parameter of `[id]`.
-/

namespace ApiShapes

variable {checker : Checker} {framework : Framework}

/-! ## A request is a body and a query -/

inductive Shape.IsRequest : Shape → Prop where
  | unknown : IsRequest .unknown
  | object (body query : Shape) : IsRequest (requestObject body query)

theorem Shape.IsRequest.exists_object {shape : Shape} (h : shape.IsRequest) (hne : shape ≠ .unknown) :
    ∃ body query, shape = requestObject body query := by
  cases h with
  | unknown => exact absurd rfl hne
  | object body query => exact ⟨body, query, rfl⟩

theorem Encoding.isRequest_result (body query : Encoding Shape) :
    (result do return requestObject (← body) (← query)).IsRequest := by
  unfold result
  rw [run_bind]
  rcases body.run.run [] with ⟨b | b, after⟩
  · exact .unknown
  · dsimp only
    rw [run_bind]
    rcases query.run.run after with ⟨q | q, -⟩
    · exact .unknown
    · exact .object b q

theorem isRequest_requestShapeOf (type : CheckedType) :
    (requestShapeOf checker framework type).IsRequest := by
  unfold requestShapeOf
  split
  · exact .object .unknown .unknown
  · split
    · exact Encoding.isRequest_result _ _
    · split
      · split
        · exact Encoding.isRequest_result _ _
        · exact .unknown
      · exact .unknown

theorem isRequest_of_mem_extractHandlers {file : Path} {handler : Handler}
    (h : handler ∈ extractHandlers checker framework file) : handler.request.IsRequest := by
  obtain ⟨_, _, _, _, _, _, request, _, _, hrequest, -⟩ := exists_entry h
  rw [hrequest, requestShape]
  split
  · exact isRequest_requestShapeOf _
  · exact .unknown

/-! ## Parameters go into the query -/

theorem withRouteParams_requestObject (params : List RouteParam) (body query : Shape) :
    (requestObject body query).withRouteParams params =
      requestObject body (query.withParams params) :=
  rfl

theorem withParams_of_other {query : Shape} (params : List RouteParam) (hunknown : query ≠ .unknown)
    (hobject : ∀ fields, query ≠ .object fields) : query.withParams params = query := by
  cases query with
  | unknown => exact absurd rfl hunknown
  | object fields => exact absurd rfl (hobject fields)
  | primitive | literal | union | array => rfl

/-- The records of a handler whose request has a shape: the response is the handler's, the request has
exactly its body, as it is, and its query. With the query go the fields of the file's bracketed segments, in
path order: they are all of a query that says nothing and come last in an object. A query of any other
shape is left alone. -/
theorem ofHandler_of_mem_extractHandlers {input file : Path} {handler : Handler}
    (h : handler ∈ extractHandlers checker framework file) (hrequest : handler.request ≠ .unknown) :
    ∃ body query merged fields request response,
      handler.request = requestObject body query ∧
      Declares (Route.segments (Route.names input file)) fields ∧
      Record.ofHandler (Route.ofFile input file) handler = [request, response] ∧
      request.side = .request ∧ request.body = .object [⟨"body", body, false⟩, ⟨"query", merged, false⟩] ∧
      response.side = .response ∧ response.body = handler.response ∧
      (query = .unknown → merged = .object fields) ∧
      (∀ declared, query = .object declared → merged = .object (declared ++ fields)) ∧
      (query ≠ .unknown → (∀ declared, query ≠ .object declared) → merged = query) := by
  obtain ⟨body, query, hobject⟩ := (isRequest_of_mem_extractHandlers h).exists_object hrequest
  let params := (Route.ofFile input file).params
  refine ⟨body, query, query.withParams params, params.map RouteParam.field, _, _, hobject,
    declares_iff.2 rfl, rfl, rfl, ?_, rfl, rfl, ?_, ?_, ?_⟩
  · rw [hobject]
    exact withRouteParams_requestObject params body query
  · rintro rfl
    rfl
  · rintro declared rfl
    rfl
  · exact withParams_of_other params

/-! ## Queries of two shapes -/

/-- A checker of one file with a handler for `GET`. The request has a query of this type, which may be an
object type with one member `page`; the response has a text. -/
def queryChecker (query : CheckedType) : Checker where
  node id := .ok
    { parent := none
      kind := match id.index with
        | 0 => .exportDefault (.call .other [.object [⟨some "GET", .function ⟨1⟩⟩]])
        | 1 => .function none [⟨2⟩, ⟨3⟩] false
        | _ => .property "page" true none }
  defaultExport _ := some ⟨0⟩
  typeAt id _ := .ok <| match id.index with
    | 2 => .external ⟨2⟩ "NextApiRequestWithQuery" [query]
    | 3 => .external ⟨3⟩ "NextApiResponse" [.keyword .string]
    | _ => .keyword .number
  symbol _ _ _ := none
  members _ := .ok [{ name := "page", node := ⟨4⟩, env := [] }]
  callSignature _ _ := some { node := ⟨1⟩, params := [⟨2⟩] }
  importOrigin id := some (if id.index = 2 then "nextpida-handler-types" else "next")

/-- The declared fields come first, then those of the segments in path order. -/
theorem ofHandler_object_query :
    let checker := queryChecker (.object ⟨5⟩ [])
    let root := Path.ofString "/app/pages/api"
    let file := Path.ofString "/app/pages/api/[org]/[[...rest]].ts"
    let page : Field := ⟨"page", .primitive .number, true⟩
    let handler : Handler :=
      ⟨.get, requestObject .unknown (.object [page]), .primitive .string⟩
    handler ∈ extractHandlers checker {} file ∧ handler.request ≠ .unknown ∧
      ∃ request response, Record.ofHandler (Route.ofFile root file) handler = [request, response] ∧
        request.body = .object [⟨"body", .unknown, false⟩, ⟨"query", .object
          [page, ⟨"org", .stringOrNumber, false⟩, ⟨"rest", .array .stringOrNumber, true⟩], false⟩] ∧
        response.body = .primitive .string := by
  intro checker root file page handler
  have hmem : handler ∈ extractHandlers checker {} file := List.mem_singleton.2 rfl
  have hrequest : handler.request ≠ .unknown := nofun
  refine ⟨hmem, hrequest, ?_⟩
  obtain ⟨body, query, merged, fields, request, response, hobject, hfields, hrecords, -, hbody, -,
    hresponse, -, hmerged, -⟩ := @ofHandler_of_mem_extractHandlers checker {} root file handler hmem hrequest
  cases hobject
  have hparams : (Route.segments (Route.names root file)).filterMap RouteParam.ofSegment? =
      [⟨"org", false, false⟩, ⟨"rest", true, true⟩] := by
    decide +kernel
  rw [declares_iff, hparams] at hfields
  rw [hmerged [page] rfl, hfields] at hbody
  exact ⟨request, response, hrecords, hbody, hresponse⟩

/-- A query that is declared as a text stays one, and the parameter of the file's segment is nowhere. -/
theorem ofHandler_text_query :
    let checker := queryChecker (.keyword .string)
    let root := Path.ofString "/app/pages/api"
    let file := Path.ofString "/app/pages/api/[id].ts"
    let handler : Handler := ⟨.get, requestObject .unknown (.primitive .string), .primitive .string⟩
    handler ∈ extractHandlers checker {} file ∧ handler.request ≠ .unknown ∧
      Declares (Route.segments (Route.names root file)) [⟨"id", .stringOrNumber, false⟩] ∧
      ∀ request response, Record.ofHandler (Route.ofFile root file) handler = [request, response] →
        request.body = .object [⟨"body", .unknown, false⟩, ⟨"query", .primitive .string, false⟩] ∧
        ∀ body fields, request.body ≠
          .object [⟨"body", body, false⟩, ⟨"query", .object fields, false⟩] := by
  intro checker root file handler
  have hparams : (Route.segments (Route.names root file)).filterMap RouteParam.ofSegment? =
      [⟨"id", false, false⟩] := by
    decide +kernel
  refine ⟨List.mem_singleton.2 rfl, nofun, ?_, ?_⟩
  · rw [declares_iff, hparams]
    rfl
  · rintro request response ⟨⟩
    exact ⟨rfl, fun body fields => nofun⟩

end ApiShapes
