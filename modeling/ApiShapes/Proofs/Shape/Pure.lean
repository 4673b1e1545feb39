import ApiShapes.Proofs.Shape.Steps

/-!
# The shape of a type as a recursion without state

* `shapeWithin checker levels around type` : the shape of a type with so many levels, inside of the object
  types `around`, which are handed on as an argument;
* `encodeAt_gives_within` : the steps of an encoding give this shape and leave their state as it was,
  whatever the bound;
* `shapeAt checker around depth type` : the same `depth` levels down, with the bound that encodings have;
* `EncodeCall`, `encodeCalls_eq` : so calls in a row give what each would give alone, and the shapes of
  objects, unions and arrays are what the recursion says.
-/

namespace ApiShapes

open Encoding

variable (checker : Checker)

/-! ## The recursion -/

def nodeShape (shapeOf : CheckedType → Shape) (id : NodeId) (env : Env) : Shape :=
  match checker.typeAt id env with
  | .ok type => shapeOf type
  | .error _ => .unknown

/-- Whether a member that is a property may be missing. Other members are no properties. -/
def propertyFlag? (member : Member) : Option Bool :=
  match checker.node member.node with
  | .ok { kind := .property _ optional _, .. } => some optional
  | _ => none

/-- The fields of the members that are properties, with types by `shapeOf`. -/
def propertyFields (shapeOf : CheckedType → Shape) (members : List Member) : List Field :=
  members.filterMap fun member => (propertyFlag? checker member).map fun optional =>
    { name := member.name, type := nodeShape checker shapeOf member.node member.env, optional }

def Keyword.shape : Keyword → Shape
  | .string => .primitive .string
  | .number => .primitive .number
  | .boolean => .primitive .boolean
  | .undefined => .primitive .undefined
  | _ => .unknown

/-- The shape of a type that has so many levels, inside of the object types `around`. What lies below them
is unknown, and so is an object type inside of itself. -/
def shapeWithin : Nat → List Instance → CheckedType → Shape
  | 0, _, _ => .unknown
  | levels + 1, around, type =>
    match type with
    | .keyword word => word.shape
    | .literal value => .literal value
    | .union members => .union (members.map (shapeWithin levels around))
    | .array element => .array (shapeWithin levels around element)
    | .object node env =>
      if around.any (Instance.same ⟨node, env⟩) then .unknown
      else match checker.members ⟨node, env⟩ with
        | .ok members =>
          .object (propertyFields checker (shapeWithin levels (⟨node, env⟩ :: around)) members)
        | .error _ => .unknown
    | .external .. => .unknown
    | .unresolved .. => .unknown
    | .intersection _ => .unknown
    | .function => .unknown
    | .unsupported _ => .unknown

/-- The shape of a type that stands `depth` levels down, inside of the object types `around`. An object
type inside of itself is unknown, and so is everything below the last level. -/
def shapeAt (around : List Instance) (depth : Nat) (type : CheckedType) : Shape :=
  if maxDepth < depth then .unknown
  else match type with
    | .keyword word => word.shape
    | .literal value => .literal value
    | .union members => .union (members.map (shapeAt around (depth + 1)))
    | .array element => .array (shapeAt around (depth + 1) element)
    | .object node env =>
      if around.any (Instance.same ⟨node, env⟩) then .unknown
      else match checker.members ⟨node, env⟩ with
        | .ok members =>
          .object (propertyFields checker (shapeAt (⟨node, env⟩ :: around) (depth + 1)) members)
        | .error _ => .unknown
    | .external .. => .unknown
    | .unresolved .. => .unknown
    | .intersection _ => .unknown
    | .function => .unknown
    | .unsupported _ => .unknown
termination_by maxDepth + 1 - depth

variable {checker} {around : List Instance} {depth : Nat}

theorem shapeAt_of_lt (h : maxDepth < depth) (type : CheckedType) :
    shapeAt checker around depth type = .unknown := by
  unfold shapeAt
  rw [if_pos h]

theorem shapeAt_union (h : depth ≤ maxDepth) (members : List CheckedType) :
    shapeAt checker around depth (.union members) =
      .union (members.map (shapeAt checker around (depth + 1))) := by
  rw [shapeAt, if_neg (Nat.not_lt.2 h)]

theorem shapeAt_array (h : depth ≤ maxDepth) (element : CheckedType) :
    shapeAt checker around depth (.array element) =
      .array (shapeAt checker around (depth + 1) element) := by
  rw [shapeAt, if_neg (Nat.not_lt.2 h)]

theorem shapeAt_object (h : depth ≤ maxDepth) (object : Instance) :
    shapeAt checker around depth (.object object.node object.env) =
      if around.any object.same then .unknown
      else match checker.members object with
        | .ok members =>
          .object (propertyFields checker (shapeAt checker (object :: around) (depth + 1)) members)
        | .error _ => .unknown := by
  rw [shapeAt, if_neg (Nat.not_lt.2 h)]

/-- An object type is unknown exactly if it stands too deep or within itself, or if the checker does not
know its members. -/
theorem shapeAt_object_eq_unknown_iff (object : Instance) :
    shapeAt checker around depth (.object object.node object.env) = .unknown ↔
      maxDepth < depth ∨ around.any object.same = true ∨ ∃ e, checker.members object = .error e := by
  by_cases hdepth : maxDepth < depth
  · simp [shapeAt_of_lt hdepth, hdepth]
  · rw [shapeAt_object (Nat.not_lt.1 hdepth)]
    by_cases hwithin : around.any object.same = true
    · rw [if_pos hwithin]
      simp only [hwithin, true_or, or_true]
    · rw [if_neg hwithin]
      cases hmembers : checker.members object with
      | ok members => simp [hdepth, hwithin]
      | error e => simp

/-! ## The steps follow the recursion -/

theorem encodeKeyword_gives (word : Keyword) : Gives (encodeKeyword word) around word.shape := by
  cases word <;> first | exact .ok rfl | exact .throw _

variable {encodeType : CheckedType → Encoding Shape} {shapeOf : CheckedType → Shape}

theorem nodeWith_yields (h : ∀ type, Gives (encodeType type) around (shapeOf type)) (id : NodeId)
    (env : Env) :
    Yields (nodeWith checker encodeType id env) around (nodeShape checker shapeOf id env) := by
  unfold nodeWith nodeShape
  cases checker.typeAt id env with
  | ok type => exact (h type).degrade
  | error e => exact (Gives.throw _).degrade

theorem encodeMember_yields (h : ∀ type, Gives (encodeType type) around (shapeOf type))
    (member : Member) :
    Yields (encodeMember checker encodeType member) around
      ((propertyFlag? checker member).map fun optional =>
        { name := member.name, type := nodeShape checker shapeOf member.node member.env, optional }) := by
  have htype : Yields (nodeWith checker encodeType member.node member.env) around _ :=
    nodeWith_yields h member.node member.env
  unfold encodeMember propertyFlag?
  rcases checker.node member.node with e | ⟨parent, kind⟩
  · exact .pure none
  · cases kind with
    | property name optional written => exact htype.bind _
    | _ => exact .pure none

/-- The object type is around the types of its members, and no longer there afterwards. -/
theorem encodeObject_gives {object : Instance}
    (h : ∀ type, Gives (encodeType type) (object :: around) (shapeOf type)) :
    Gives (encodeObject checker encodeType object) around
      (if around.any object.same then .unknown
        else match checker.members object with
          | .ok members => .object (propertyFields checker shapeOf members)
          | .error _ => .unknown) := by
  have hget : Yields (get : Encoding (List Instance)) around around := rfl
  unfold encodeObject
  refine .of_run_eq (hget.bind _) ?_
  split
  · exact .throw _
  · cases checker.members object with
    | error e => exact .throw _
    | ok members =>
      have hmember : ∀ member, Yields (encodeMember checker encodeType member) _ _ :=
        encodeMember_yields h
      have hfields := Yields.filterMapM hmember members
      exact .ok (hfields.bind _)

/-- **The steps give the shape of the recursion** and leave the object types around as they were, be it
that they succeed or fail. -/
theorem encodeAt_gives_within (bound levels : Nat) (around : List Instance) (type : CheckedType) :
    Gives (encodeAt checker bound levels type) around (shapeWithin checker levels around type) := by
  induction levels generalizing around type with
  | zero => exact .throw _
  | succ levels ih =>
    cases type with
    | keyword word => exact encodeKeyword_gives word
    | literal value => exact (Yields.pure _).gives
    | union members =>
      exact ((Yields.mapM (fun member => (ih around member).degrade) members).map _).gives
    | array element => exact ((ih around element).degrade.map _).gives
    | object node env => exact encodeObject_gives fun type => ih (⟨node, env⟩ :: around) type
    | _ => exact .throw _

/-- The level of a type tells how many levels it has. -/
theorem shapeAt_eq_shapeWithin {levels : Nat} (hlevels : levels + depth = maxDepth + 1)
    (type : CheckedType) :
    shapeAt checker around depth type = shapeWithin checker levels around type := by
  induction levels generalizing around depth type with
  | zero => exact shapeAt_of_lt (by omega) type
  | succ levels ih =>
    have hdepth : depth ≤ maxDepth := by omega
    have hnext : ∀ around, shapeAt checker around (depth + 1) = shapeWithin checker levels around :=
      fun around => funext fun type => ih (by omega) type
    cases type with
    | union members => rw [shapeAt_union hdepth, hnext, shapeWithin]
    | array element => rw [shapeAt_array hdepth, hnext, shapeWithin]
    | object node env =>
      rw [shapeAt_object hdepth ⟨node, env⟩, hnext, shapeWithin]
    | _ => rw [shapeAt, if_neg (Nat.not_lt.2 hdepth), shapeWithin]

theorem encodeAt_gives (bound : Nat) {levels : Nat} (hlevels : levels + depth = maxDepth + 1)
    (type : CheckedType) :
    Gives (encodeAt checker bound levels type) around (shapeAt checker around depth type) := by
  rw [shapeAt_eq_shapeWithin hlevels]
  exact encodeAt_gives_within bound levels around type

/-! ## Calls in a row -/

/-- A call of an encoder: for a type, or for what is written at a node. -/
inductive EncodeCall where
  | ofType (type : CheckedType)
  | atNode (id : NodeId) (env : Env)

namespace EncodeCall

variable (checker)

def steps : EncodeCall → Encoding Shape
  | .ofType type => encode checker type
  | .atNode id env => encodeNode checker id env

/-- The shape that a call gives by the recursion, with no object type around. -/
def shape : EncodeCall → Shape
  | .ofType type => shapeAt checker [] 0 type
  | .atNode id env => nodeShape checker (shapeAt checker [] 0) id env

theorem steps_yields (call : EncodeCall) : Yields (call.steps checker) [] (call.shape checker) := by
  have hencode : ∀ type, Gives (encodeAt checker maxDepth (maxDepth + 1) type) []
      (shapeAt checker [] 0 type) :=
    encodeAt_gives maxDepth rfl
  cases call with
  | ofType type => exact (hencode type).degrade
  | atNode id env => exact nodeWith_yields hencode id env

end EncodeCall

variable (checker)

/-- **An encoder keeps nothing between its calls, and each call is a recursion without state.** Calls in
a row give what each of them gives by itself, which is the shape of the recursion, and no object type is
left around; on the way each type's steps leave the object types around as they were, also where they
fail. In the recursion an object type is unknown exactly if it stands too deep or is the same as one
around it, or if the checker does not know its members. Otherwise its fields are those members, in order,
that are properties, with their flags, and it is around the types of them all. Unions keep all members,
and arrays their element. -/
theorem encodeCalls_eq :
    (∀ calls : List EncodeCall, (calls.mapM (EncodeCall.steps checker)).run.run [] =
      (.ok (calls.map fun call => result (call.steps checker)), [])) ∧
    (∀ call : EncodeCall, result (call.steps checker) = call.shape checker) ∧
    (∀ around depth levels type, levels + depth = maxDepth + 1 →
      Gives (encodeAt checker maxDepth levels type) around (shapeAt checker around depth type)) ∧
    (∀ around depth object,
      shapeAt checker around depth (.object object.node object.env) = .unknown ↔
        maxDepth < depth ∨ around.any object.same = true ∨
          ∃ e, checker.members object = .error e) ∧
    ∀ around depth, depth ≤ maxDepth →
      (∀ object members, around.any object.same = false → checker.members object = .ok members →
        shapeAt checker around depth (.object object.node object.env) =
          .object (members.filterMap fun member => (propertyFlag? checker member).map fun optional =>
            { name := member.name, optional
              type := match checker.typeAt member.node member.env with
                | .ok type => shapeAt checker (object :: around) (depth + 1) type
                | .error _ => .unknown })) ∧
      (∀ members, shapeAt checker around depth (.union members) =
        .union (members.map (shapeAt checker around (depth + 1)))) ∧
      ∀ element, shapeAt checker around depth (.array element) =
        .array (shapeAt checker around (depth + 1) element) := by
  have hresult : ∀ call : EncodeCall, result (call.steps checker) = call.shape checker :=
    fun call => (call.steps_yields checker).result_eq
  refine ⟨fun calls => ?_, hresult, fun _ _ _ type hlevels => encodeAt_gives maxDepth hlevels type,
    fun _ _ object => shapeAt_object_eq_unknown_iff object, ?_⟩
  · simp only [hresult]
    exact Yields.mapM (EncodeCall.steps_yields checker) calls
  · refine fun around depth hdepth => ⟨fun object members hwithin hmembers => ?_,
      shapeAt_union hdepth, shapeAt_array hdepth⟩
    rw [shapeAt_object hdepth, hwithin, hmembers]
    rfl

/-- A checker that knows one object type, with a text and, unless it is missing, another object of that
type. -/
def listChecker : Checker where
  node id := .ok { parent := none, kind := .property "" (id.index == 2) none }
  typeAt id _ := .ok (if id.index == 1 then .keyword .string else .object ⟨0⟩ [])
  members _ := .ok [⟨"name", ⟨1⟩, []⟩, ⟨"next", ⟨2⟩, []⟩]
  defaultExport _ := none
  symbol _ _ _ := none
  callSignature _ _ := none
  importOrigin _ := none

/-- The object type within itself, one level down, and two calls for it. -/
theorem encodeCalls_eq_list :
    let list : CheckedType := .object ⟨0⟩ []
    let shape : Shape := .object [⟨"name", .primitive .string, false⟩, ⟨"next", .unknown, true⟩]
    Gives (encodeAt listChecker maxDepth maxDepth list) [⟨⟨0⟩, []⟩] .unknown ∧
      ([.ofType list, .ofType list].mapM (EncodeCall.steps listChecker)).run.run [] =
        (.ok [shape, shape], []) := by
  intro list shape
  obtain ⟨hcalls, hcall, hgives, hunknown, hlevel⟩ := encodeCalls_eq listChecker
  have hwithin : shapeAt listChecker [⟨⟨0⟩, []⟩] 1 list = .unknown :=
    (hunknown [⟨⟨0⟩, []⟩] 1 ⟨⟨0⟩, []⟩).2 (.inr (.inl (by decide)))
  have htext : shapeAt listChecker [⟨⟨0⟩, []⟩] 1 (.keyword .string) = .primitive .string := by
    rw [shapeAt]
    rfl
  have hlist : shapeAt listChecker [] 0 list = shape := by
    rw [(hlevel [] 0 (Nat.zero_le _)).1 ⟨⟨0⟩, []⟩ _ rfl rfl]
    show Shape.object [⟨"name", shapeAt listChecker [⟨⟨0⟩, []⟩] 1 (.keyword .string), false⟩,
      ⟨"next", shapeAt listChecker [⟨⟨0⟩, []⟩] 1 list, true⟩] = shape
    rw [hwithin, htext]
  refine ⟨?_, ?_⟩
  · rw [← hwithin]
    exact hgives _ 1 maxDepth list rfl
  · rw [hcalls]
    simp only [List.map_cons, List.map_nil, hcall, EncodeCall.shape, hlist]

end ApiShapes
