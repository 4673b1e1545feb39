import ApiShapes.Handler.Extract
import ApiShapes.Proofs.Arena.WellFormed
import ApiShapes.Proofs.Program.Unions
import ApiShapes.Proofs.Shape.Pure
import ApiShapes.Source.Module
import Mathlib.Data.List.Perm.Basic

/-!
# Requests that are written as intersections

* `IsVerified`, `MakesRequest` : the framework's request type, and the parts that make an intersection a
  request: that type, or a name without a declaration around it;
* `lists`, `MemberShape` : a part lists a member of some name; the shape that a request takes from such a
  member, or unknown;
* `MemberShape.unique`, `shapeNamed_perm` : where one part at most lists a name, there is one such shape, and
  it does not depend on the order of the parts;
* `requestShapeOf_intersection` : body and query of an intersection, each encoded by itself;
* `Program.intersection_request` : hence the order does not matter, be it of the parts or of how they are
  written.
-/

namespace ApiShapes

variable {checker : Checker} {framework : Framework} {parts parts' : List CheckedType} {name : String}

theorem eq_of_countP_le_one {α : Type} {p : α → Bool} {l : List α} (h : l.countP p ≤ 1) {a b : α}
    (ha : a ∈ l) (hb : b ∈ l) (hpa : p a = true) (hpb : p b = true) : a = b := by
  rw [List.countP_eq_length_filter] at h
  have ha' : a ∈ l.filter p := List.mem_filter.2 ⟨ha, hpa⟩
  have hb' : b ∈ l.filter p := List.mem_filter.2 ⟨hb, hpb⟩
  match hfilter : l.filter p, h with
  | [], _ => rw [hfilter] at ha'; cases ha'
  | [c], _ =>
    rw [hfilter, List.mem_singleton] at ha' hb'
    rw [ha', hb']

/-! ## Parts that make a request -/

section Request

variable (checker framework)

/-- The type is the framework's request type, traced to its module. -/
inductive IsVerified : CheckedType → Prop where
  | intro {origin : NodeId} {args : List CheckedType}
      (h : checker.importOrigin origin = some framework.module) :
      IsVerified (.external origin framework.request args)

/-- The part makes an intersection a request. -/
inductive MakesRequest : CheckedType → Prop where
  | itself {type : CheckedType} (h : IsVerified checker framework type) : MakesRequest type
  /-- a name without a declaration, such as `Omit`, and the request type as its first argument -/
  | wrapped {name : String} {first : CheckedType} {rest : List CheckedType}
      (h : IsVerified checker framework first) : MakesRequest (.unresolved name (first :: rest))

end Request

theorem isRequest_iff {type : CheckedType} :
    isRequest checker framework type = true ↔ IsVerified checker framework type := by
  constructor
  · intro h
    unfold isRequest at h
    split at h
    · rw [Bool.and_eq_true, beq_iff_eq, comesFrom, beq_iff_eq] at h
      obtain ⟨rfl, horigin⟩ := h
      exact .intro horigin
    · cases h
  · rintro ⟨h⟩
    simp [isRequest, comesFrom, h]

theorem wrapsRequest_iff {part : CheckedType} :
    wrapsRequest checker framework part = true ↔ MakesRequest checker framework part := by
  constructor
  · intro h
    unfold wrapsRequest at h
    split at h
    · exact .wrapped (isRequest_iff.1 h)
    · exact .itself (isRequest_iff.1 h)
  · intro h
    cases h with
    | itself h =>
      cases h with
      | @intro origin args horigin =>
        show isRequest checker framework (.external origin framework.request args) = true
        exact isRequest_iff.2 (.intro horigin)
    | wrapped h => exact isRequest_iff.2 h

/-! ## Members of the parts -/

section Members

variable (checker)

/-- The members of a part, if it is an object type and they are known. -/
def partMembers : CheckedType → List Member
  | .object node env => ((checker.members { node, env }).toOption).getD []
  | _ => []

/-- The part lists a member of that name, its own or an inherited one. -/
def lists (name : String) (part : CheckedType) : Bool :=
  (partMembers checker part).any (·.name == name)

def memberNamed? (parts : List CheckedType) (name : String) : Option Member :=
  (parts.flatMap (partMembers checker)).find? (·.name == name)

/-- What a request takes from the member of that name: its shape as encoded by itself, and unknown if no part
lists one. -/
inductive MemberShape (parts : List CheckedType) (name : String) : Shape → Prop where
  | found {object : Instance} {members : List Member} {member : Member}
      (hpart : .object object.node object.env ∈ parts) (hmembers : checker.members object = .ok members)
      (hmember : members.find? (·.name == name) = some member) :
      MemberShape parts name (Encoding.result (Encoding.encodeNode checker member.node member.env))
  | absent (h : ∀ part ∈ parts, lists checker name part = false) : MemberShape parts name .unknown

def shapeNamed (parts : List CheckedType) (name : String) : Shape :=
  match memberNamed? checker parts name with
  | some member => Encoding.result (Encoding.encodeNode checker member.node member.env)
  | none => .unknown

end Members

theorem partMembers_of_members {object : Instance} {members : List Member}
    (h : checker.members object = .ok members) :
    partMembers checker (.object object.node object.env) = members := by
  rw [partMembers, h]
  rfl

/-- A part with a member is an object type whose members are known. -/
theorem exists_members {part : CheckedType} {member : Member} (h : member ∈ partMembers checker part) :
    ∃ object : Instance, part = .object object.node object.env ∧
      checker.members object = .ok (partMembers checker part) := by
  cases part with
  | object node env =>
    refine ⟨⟨node, env⟩, rfl, ?_⟩
    cases hmembers : checker.members ⟨node, env⟩ with
    | ok members => rw [partMembers_of_members hmembers]
    | error e => simp [partMembers, hmembers, Except.toOption] at h
  | _ => cases h

theorem lists_of_find? {part : CheckedType} {member : Member}
    (h : (partMembers checker part).find? (·.name == name) = some member) :
    lists checker name part = true := by
  have hname := List.find?_some h
  exact List.any_eq_true.2 ⟨member, List.mem_of_find?_eq_some h, hname⟩

/-- The shape of the first member is what a request may take. -/
theorem memberShape_shapeNamed (parts : List CheckedType) (name : String) :
    MemberShape checker parts name (shapeNamed checker parts name) := by
  unfold shapeNamed
  split
  · next member hmember =>
    rw [memberNamed?, List.find?_flatMap] at hmember
    obtain ⟨part, hpart, hmember⟩ := List.exists_of_findSome?_eq_some hmember
    obtain ⟨object, rfl, hmembers⟩ := exists_members (List.mem_of_find?_eq_some hmember)
    exact .found hpart hmembers hmember
  · next hmember =>
    rw [memberNamed?, List.find?_eq_none] at hmember
    refine .absent fun part hpart => List.any_eq_false.2 fun member hlisted => ?_
    exact hmember member (List.mem_flatMap.2 ⟨part, hpart, hlisted⟩)

namespace MemberShape

/-- Which shapes a request may take does not depend on the order of the parts. -/
theorem perm (hperm : parts.Perm parts') {shape : Shape} (h : MemberShape checker parts name shape) :
    MemberShape checker parts' name shape := by
  cases h with
  | found hpart hmembers hmember => exact .found (hperm.mem_iff.1 hpart) hmembers hmember
  | absent h => exact .absent fun part hpart => h part (hperm.mem_iff.2 hpart)

/-- Where one part at most lists the name, there is one shape to take. -/
theorem unique (hone : parts.countP (lists checker name) ≤ 1) {shape shape' : Shape}
    (h : MemberShape checker parts name shape) (h' : MemberShape checker parts name shape') :
    shape = shape' := by
  have hfind : ∀ {object : Instance} {members : List Member} {member : Member},
      checker.members object = .ok members → members.find? (·.name == name) = some member →
        (partMembers checker (.object object.node object.env)).find? (·.name == name) = some member :=
    fun hmembers hmember => by rw [partMembers_of_members hmembers, hmember]
  cases h with
  | found hpart hmembers hmember =>
    have hmember := hfind hmembers hmember
    cases h' with
    | found hpart' hmembers' hmember' =>
      have hmember' := hfind hmembers' hmember'
      -- both are the one part that lists the name
      rw [← eq_of_countP_le_one hone hpart hpart' (lists_of_find? hmember) (lists_of_find? hmember'),
        hmember] at hmember'
      obtain rfl := Option.some.inj hmember'
      rfl
    | absent h' => exact absurd (lists_of_find? hmember) (Bool.eq_false_iff.1 (h' _ hpart))
  | absent h =>
    cases h' with
    | found hpart' hmembers' hmember' =>
      exact absurd (lists_of_find? (hfind hmembers' hmember')) (Bool.eq_false_iff.1 (h _ hpart'))
    | absent => rfl

end MemberShape

theorem memberShape_iff (hone : parts.countP (lists checker name) ≤ 1) {shape : Shape} :
    MemberShape checker parts name shape ↔ shape = shapeNamed checker parts name :=
  ⟨fun h => h.unique hone (memberShape_shapeNamed parts name),
    fun h => h ▸ memberShape_shapeNamed parts name⟩

/-- So the first member does not depend on the order of the parts, nor does its shape. -/
theorem shapeNamed_perm (hone : parts.countP (lists checker name) ≤ 1) (hperm : parts'.Perm parts) :
    shapeNamed checker parts' name = shapeNamed checker parts name :=
  (memberShape_iff hone).1 ((memberShape_shapeNamed parts' name).perm hperm)

/-! ## The shape of the request -/

theorem flatMap_objectParts (parts : List CheckedType) :
    ((objectParts parts).flatMap fun object => ((checker.members object).toOption).getD []) =
      parts.flatMap (partMembers checker) := by
  induction parts with
  | nil => rfl
  | cons part parts ih =>
    rw [List.flatMap_cons, ← ih, objectParts, List.filterMap_cons]
    cases part <;> rfl

theorem memberShape_yields (checker : Checker) (parts : List CheckedType) (name : String) :
    Encoding.Yields (memberShape checker (objectParts parts) name) [] (shapeNamed checker parts name) := by
  rw [memberShape, shapeNamed, memberNamed?, flatMap_objectParts]
  cases (parts.flatMap (partMembers checker)).find? (·.name == name) with
  | some member =>
    have hsteps := (EncodeCall.atNode member.node member.env).steps_yields checker
    rw [← hsteps.result_eq] at hsteps
    exact hsteps
  | none => exact .pure _

/-- Body and query are encoded one after the other, and each as by itself. -/
theorem requestShapeOf_intersection (parts : List CheckedType) :
    requestShapeOf checker framework (.intersection parts) =
      if parts.any (wrapsRequest checker framework) then
        requestObject (shapeNamed checker parts "body") (shapeNamed checker parts "query")
      else .unknown := by
  have hbody := memberShape_yields checker parts "body"
  have hquery := memberShape_yields checker parts "query"
  have hboth : Encoding.Yields (do
      let body ← memberShape checker (objectParts parts) "body"
      let query ← memberShape checker (objectParts parts) "query"
      return requestObject body query) []
      (requestObject (shapeNamed checker parts "body") (shapeNamed checker parts "query")) :=
    (hbody.bind _).trans (hquery.bind _)
  rw [← hboth.result_eq]
  rfl

namespace Program

variable {p : Program} {param : NodeId}

/-- The parts of an intersection that is written in another order, in that order. -/
theorem resolveWith_intersection_perm {instantiate : Instantiate} {scope : NodeId} {env : Env}
    {written written' : List TypeExpr} (hperm : written.Perm written')
    (h : p.resolveWith instantiate scope env (.intersection written) = .ok (.intersection parts)) :
    ∃ parts', p.resolveWith instantiate scope env (.intersection written') =
      .ok (.intersection parts') ∧ parts'.Perm parts := by
  rw [resolveWith] at h
  obtain ⟨types, htypes, h⟩ := bind_eq_ok.1 h
  cases h
  obtain ⟨parts', hparts', hperm'⟩ := List.perm_comp_forall₂ hperm.symm (resolveAll_eq_ok.1 htypes)
  exact ⟨parts', bind_eq_ok.2 ⟨parts', resolveAll_eq_ok.2 hparts', rfl⟩, hperm'⟩

/-- **A request that is written as an intersection does not depend on the order of its parts**, if one of
them at most lists a body, and one a query. Be it that the parts are given in another order, that another
parameter has them so, or that they are written so, the shape is the same. It is unknown exactly if no part
is the verified request or a name without a declaration around it. Otherwise body and query are what the one
member of that name gives, encoded by itself, and unknown if there is none. -/
theorem intersection_request (p : Program) (framework : Framework) {param : NodeId}
    {parts : List CheckedType} (htype : p.typeAt param [] = .ok (.intersection parts))
    (hbody : parts.countP (lists p.checker "body") ≤ 1)
    (hquery : parts.countP (lists p.checker "query") ≤ 1) :
    (∀ parts', parts'.Perm parts →
      requestShapeOf p.checker framework (.intersection parts') =
        requestShape p.checker framework param) ∧
    (∀ param' parts', p.typeAt param' [] = .ok (.intersection parts') → parts'.Perm parts →
      requestShape p.checker framework param' = requestShape p.checker framework param) ∧
    (∀ instantiate scope env written written', written.Perm written' →
      p.resolveWith instantiate scope env (.intersection written) = .ok (.intersection parts) →
        ∃ parts', p.resolveWith instantiate scope env (.intersection written') =
            .ok (.intersection parts') ∧
          requestShapeOf p.checker framework (.intersection parts') =
            requestShape p.checker framework param) ∧
    (requestShape p.checker framework param = .unknown ↔
      ∀ part ∈ parts, ¬MakesRequest p.checker framework part) ∧
    ((∃ part ∈ parts, MakesRequest p.checker framework part) →
      ∃ body query, requestShape p.checker framework param = requestObject body query ∧
        (∀ shape, MemberShape p.checker parts "body" shape ↔ shape = body) ∧
        ∀ shape, MemberShape p.checker parts "query" shape ↔ shape = query) := by
  have hshape : ∀ {param parts}, p.typeAt param [] = .ok (.intersection parts) →
      requestShape p.checker framework param = requestShapeOf p.checker framework (.intersection parts) := by
    intro param parts htype
    have hchecker : p.checker.typeAt param [] = .ok (.intersection parts) := htype
    rw [requestShape, hchecker]
  have hany : parts.any (wrapsRequest p.checker framework) = true ↔
      ∃ part ∈ parts, MakesRequest p.checker framework part := by
    simp only [List.any_eq_true, wrapsRequest_iff]
  have hperm : ∀ parts', parts'.Perm parts →
      requestShapeOf p.checker framework (.intersection parts') =
        requestShape p.checker framework param := by
    intro parts' hperm
    rw [hshape htype, requestShapeOf_intersection, requestShapeOf_intersection, hperm.any_eq,
      shapeNamed_perm hbody hperm, shapeNamed_perm hquery hperm]
  refine ⟨hperm, fun param' parts' htype' hparts => ?_,
    fun instantiate scope env written written' hwritten h => ?_, ?_, fun hrequest => ?_⟩
  · rw [hshape htype', hperm parts' hparts]
  · obtain ⟨parts', hparts', hof⟩ := resolveWith_intersection_perm hwritten h
    exact ⟨parts', hparts', hperm parts' hof⟩
  · rw [hshape htype, requestShapeOf_intersection]
    split
    · next h =>
      obtain ⟨part, hpart, hmakes⟩ := hany.1 h
      exact iff_of_false Shape.noConfusion fun hnone => hnone part hpart hmakes
    · next h => exact iff_of_true rfl fun part hpart hmakes => h (hany.2 ⟨part, hpart, hmakes⟩)
  · refine ⟨_, _, ?_, fun shape => memberShape_iff hbody, fun shape => memberShape_iff hquery⟩
    rw [hshape htype, requestShapeOf_intersection, if_pos (hany.2 hrequest)]

/-- A request whose body is declared anew. -/
def overrideModule : ParsedModule :=
  (.ofString "a.ts", Source.parseModule (.ofPath (.ofString "a.ts"))
    ("import \x7b NextApiRequest \x7d from 'next';\n" ++
      "const put = (req: Omit<NextApiRequest, 'body'> & \x7b body: string \x7d) => \x7b\x7d;"))

def overrideProgram : Program where
  arena := Arena.ofModules [overrideModule]
  files := [(overrideModule.1, ⟨0⟩)]
  roots := [overrideModule.1]
  resolver := {}

def overrideParts : List CheckedType :=
  [.unresolved "Omit" [.external ⟨2⟩ "NextApiRequest" [], .literal (.string "body")], .object ⟨6⟩ []]

def isOverride : Except CheckError CheckedType → Bool
  | .ok (.intersection [.unresolved "Omit" [.external ⟨2⟩ "NextApiRequest" [], .literal (.string "body")],
      .object ⟨6⟩ []]) => true
  | _ => false

theorem eq_of_isOverride {type : Except CheckError CheckedType} (h : isOverride type = true) :
    type = .ok (.intersection overrideParts) := by
  unfold isOverride at h
  split at h
  · rfl
  · cases h

/-- The other way round, its parts give the same shape, which is not unknown. -/
theorem intersection_request_override :
    overrideProgram.typeAt ⟨5⟩ [] = .ok (.intersection overrideParts) ∧
      overrideParts.countP (lists overrideProgram.checker "body") = 1 ∧
      overrideParts.countP (lists overrideProgram.checker "query") = 0 ∧
      requestShapeOf overrideProgram.checker {} (.intersection overrideParts.reverse) =
        requestShape overrideProgram.checker {} ⟨5⟩ ∧
      requestShape overrideProgram.checker {} ⟨5⟩ ≠ .unknown := by
  obtain ⟨hover, hbody, hquery, horigin⟩ : isOverride (overrideProgram.typeAt ⟨5⟩ []) = true ∧
      overrideParts.countP (lists overrideProgram.checker "body") = 1 ∧
      overrideParts.countP (lists overrideProgram.checker "query") = 0 ∧
      overrideProgram.checker.importOrigin ⟨2⟩ = some "next" := by
    decide +kernel
  have htype : overrideProgram.typeAt ⟨5⟩ [] = .ok (.intersection overrideParts) := eq_of_isOverride hover
  have hverified : IsVerified overrideProgram.checker {} (.external ⟨2⟩ "NextApiRequest" []) :=
    .intro horigin
  obtain ⟨hperm, -, -, hunknown, -⟩ := intersection_request overrideProgram {} htype (Nat.le_of_eq hbody)
    (by rw [hquery]; exact Nat.zero_le 1)
  exact ⟨htype, hbody, hquery, hperm _ overrideParts.reverse_perm,
    fun h => hunknown.1 h _ List.mem_cons_self (.wrapped hverified)⟩

end Program

end ApiShapes
