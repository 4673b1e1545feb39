import ApiShapes.Faults
import ApiShapes.Proofs.Shape.Pure

/-!
# What is asked on the way to a shape

* `Query`, `Checker.refusing` : the questions of an encoding, and a checker that gives no answer to some;
* `Transcript` : what was asked for a type, part by part, and what came of it;
* `transcribe` : the transcript of a type's encoding;
* `Transcript.shapeUnder refuse` : the shape that is left of it if some questions are refused, which is
  the shape that a checker gives that refuses them (`shapeAt_refusing`).
-/

namespace ApiShapes

open Encoding

/-! ## Checkers that refuse some questions -/

/-- A question that an encoding asks a checker. -/
inductive Query where
  | node (id : NodeId)
  | typeAt (id : NodeId) (env : Env)
  | members (object : Instance)

def answerUnless {α : Type} (refusal : Option CheckError) (answer : Except CheckError α) :
    Except CheckError α :=
  match refusal with
  | some e => .error e
  | none => answer

/-- The checker that refuses some questions, each with some error. -/
def Checker.refusing (checker : Checker) (refuse : Query → Option CheckError) : Checker :=
  { checker with
    node := fun id => answerUnless (refuse (.node id)) (checker.node id)
    typeAt := fun id env => answerUnless (refuse (.typeAt id env)) (checker.typeAt id env)
    members := fun object => answerUnless (refuse (.members object)) (checker.members object) }

section

variable (checker : Checker) (refuse : Query → Option CheckError)

theorem refusing_node (id : NodeId) :
    (checker.refusing refuse).node id = answerUnless (refuse (.node id)) (checker.node id) := rfl

theorem refusing_typeAt (id : NodeId) (env : Env) : (checker.refusing refuse).typeAt id env =
    answerUnless (refuse (.typeAt id env)) (checker.typeAt id env) := rfl

theorem refusing_members (object : Instance) : (checker.refusing refuse).members object =
    answerUnless (refuse (.members object)) (checker.members object) := rfl

theorem refusing_none : checker.refusing (fun _ => none) = checker := rfl

end

/-- The questions that are to have no answer, with their errors. -/
def Faults.refusal (faults : Faults) : Query → Option CheckError
  | .node id => if faults.nodes id then some (.unknownNode id) else none
  | .typeAt id env => if faults.types id env then some (.untyped id) else none
  | .members object => if faults.members object then some (.notAnObject object.node) else none

theorem withFaults_eq_refusing (checker : Checker) (faults : Faults) :
    checker.withFaults faults = checker.refusing faults.refusal := by
  unfold Checker.withFaults Checker.refusing Faults.refusal
  congr 1
  · funext id
    cases h : faults.nodes id <;> simp [answerUnless, h]
  · funext id env
    cases h : faults.types id env <;> simp [answerUnless, h]
  · funext object
    cases h : faults.members object <;> simp [answerUnless, h]

/-! ## Transcripts -/

/-- A member that is a property, with what is known of its type. -/
structure PropertyOfMember (α : Type) where
  member : Member
  optional : Bool
  type : α

/-- What was asked for a type, and what came of it. -/
inductive Transcript where
  /-- nothing had to be asked -/
  | plain (shape : Shape)
  /-- a question without an answer -/
  | unanswered (query : Query)
  | union (members : List Transcript)
  | array (element : Transcript)
  /-- the type that is written at a node -/
  | node (id : NodeId) (env : Env) (type : Transcript)
  /-- an object type, its members that are no properties, and its properties -/
  | object (self : Instance) (others : List Member)
      (properties : List (PropertyOfMember Transcript))

namespace Transcript

variable (refuse : Query → Option CheckError)

def Refused (query : Query) : Prop := refuse query ≠ none

instance (query : Query) : Decidable (Refused refuse query) :=
  inferInstanceAs (Decidable (refuse query ≠ none))

mutual

/-- The shape that is left if some questions are refused. -/
def shapeUnder : Transcript → Shape
  | plain shape => shape
  | unanswered _ => .unknown
  | union members => .union (shapesUnder members)
  | array element => .array element.shapeUnder
  | node id env type => if Refused refuse (.typeAt id env) then .unknown else type.shapeUnder
  | object self _ properties =>
    if Refused refuse (.members self) then .unknown else .object (fieldsUnder properties)

def shapesUnder : List Transcript → List Shape
  | [] => []
  | member :: rest => member.shapeUnder :: shapesUnder rest

/-- The fields that are left of properties. A property whose node is refused leaves none. -/
def fieldsUnder : List (PropertyOfMember Transcript) → List Field
  | [] => []
  | ⟨member, optional, type⟩ :: rest =>
    if Refused refuse (.node member.node) then fieldsUnder rest
    else ⟨member.name, type.shapeUnder, optional⟩ :: fieldsUnder rest

end

def shape (t : Transcript) : Shape := t.shapeUnder fun _ => none

mutual

def asked : Transcript → List Query
  | plain _ => []
  | unanswered query => [query]
  | union members => askedAll members
  | array element => element.asked
  | node id env type => .typeAt id env :: type.asked
  | object self others properties =>
    .members self :: others.map (.node ·.node) ++ askedForProperties properties

def askedAll : List Transcript → List Query
  | [] => []
  | member :: rest => member.asked ++ askedAll rest

def askedForProperties : List (PropertyOfMember Transcript) → List Query
  | [] => []
  | ⟨member, _, type⟩ :: rest => .node member.node :: type.asked ++ askedForProperties rest

end

end Transcript

/-! ## The transcript of an encoding -/

section

variable (checker : Checker)

def transcribeNode (transcript : CheckedType → Transcript) (id : NodeId) (env : Env) : Transcript :=
  match checker.typeAt id env with
  | .ok type => .node id env (transcript type)
  | .error _ => .unanswered (.typeAt id env)

def transcribeProperties (transcript : CheckedType → Transcript) (members : List Member) :
    List (PropertyOfMember Transcript) :=
  members.filterMap fun member => (propertyFlag? checker member).map fun optional =>
    { member, optional, type := transcribeNode checker transcript member.node member.env }

/-- The transcript of the encoding of a type that stands `depth` levels down, inside of the object types
`around`. -/
def transcribe (around : List Instance) (depth : Nat) (type : CheckedType) : Transcript :=
  if maxDepth < depth then .plain .unknown
  else match type with
    | .keyword word => .plain word.shape
    | .literal value => .plain (.literal value)
    | .union members => .union (members.map (transcribe around (depth + 1)))
    | .array element => .array (transcribe around (depth + 1) element)
    | .object node env =>
      if around.any (Instance.same ⟨node, env⟩) then .plain .unknown
      else match checker.members ⟨node, env⟩ with
        | .ok members =>
          .object ⟨node, env⟩ (members.filter fun member => (propertyFlag? checker member).isNone)
            (transcribeProperties checker (transcribe (⟨node, env⟩ :: around) (depth + 1)) members)
        | .error _ => .unanswered (.members ⟨node, env⟩)
    | .external .. => .plain .unknown
    | .unresolved .. => .plain .unknown
    | .intersection _ => .plain .unknown
    | .function => .plain .unknown
    | .unsupported _ => .plain .unknown
termination_by maxDepth + 1 - depth

end

variable {checker : Checker} {refuse : Query → Option CheckError} {around : List Instance} {depth : Nat}

open Transcript

theorem shapesUnder_map {α : Type} (transcript : α → Transcript) (as : List α) :
    shapesUnder refuse (as.map transcript) = as.map fun a => (transcript a).shapeUnder refuse := by
  induction as with
  | nil => rfl
  | cons a rest ih => rw [List.map_cons, List.map_cons, shapesUnder, ih]

section

variable {shapeOf : CheckedType → Shape} {transcript : CheckedType → Transcript}

theorem nodeShape_refusing (h : ∀ type, shapeOf type = (transcript type).shapeUnder refuse)
    (id : NodeId) (env : Env) :
    nodeShape (checker.refusing refuse) shapeOf id env =
      (transcribeNode checker transcript id env).shapeUnder refuse := by
  unfold nodeShape transcribeNode
  rw [refusing_typeAt]
  cases hrefuse : refuse (.typeAt id env) <;> cases checker.typeAt id env <;>
    simp [answerUnless, shapeUnder, Refused, hrefuse, h]

theorem propertyFlag?_refusing (member : Member) :
    propertyFlag? (checker.refusing refuse) member =
      if Refused refuse (.node member.node) then none else propertyFlag? checker member := by
  unfold propertyFlag?
  rw [refusing_node]
  cases hrefuse : refuse (.node member.node) <;> simp [answerUnless, Refused, hrefuse]

theorem propertyFields_refusing (h : ∀ type, shapeOf type = (transcript type).shapeUnder refuse)
    (members : List Member) :
    propertyFields (checker.refusing refuse) shapeOf members =
      fieldsUnder refuse (transcribeProperties checker transcript members) := by
  induction members with
  | nil => rfl
  | cons member rest ih =>
    unfold propertyFields transcribeProperties at ih ⊢
    rw [List.filterMap_cons, List.filterMap_cons, propertyFlag?_refusing]
    cases hflag : propertyFlag? checker member with
    | none => simpa using ih
    | some optional =>
      by_cases hrefused : Refused refuse (.node member.node)
      · simpa [hrefused, fieldsUnder] using ih
      · simpa [hrefused, fieldsUnder, nodeShape_refusing h] using ih

end

/-- **A checker that refuses questions gives what is left of the transcript.** -/
theorem shapeAt_refusing (around : List Instance) (depth : Nat) (type : CheckedType) :
    shapeAt (checker.refusing refuse) around depth type =
      (transcribe checker around depth type).shapeUnder refuse := by
  by_cases hdepth : maxDepth < depth
  · unfold shapeAt transcribe
    rw [if_pos hdepth, if_pos hdepth, shapeUnder]
  · have ih : ∀ around type, shapeAt (checker.refusing refuse) around (depth + 1) type =
        (transcribe checker around (depth + 1) type).shapeUnder refuse :=
      fun around type => shapeAt_refusing around (depth + 1) type
    unfold shapeAt transcribe
    rw [if_neg hdepth, if_neg hdepth]
    cases type with
    | union members =>
      simp only [shapeUnder, shapesUnder_map]
      exact congrArg Shape.union (List.map_congr_left fun member _ => ih around member)
    | array element => simp only [shapeUnder, ih]
    | object node env =>
      by_cases hwithin : around.any (Instance.same ⟨node, env⟩) = true
      · simp only [hwithin, if_true, shapeUnder]
      · simp only [hwithin, Bool.false_eq_true, if_false]
        rw [refusing_members]
        cases hrefuse : refuse (.members ⟨node, env⟩) <;> cases checker.members ⟨node, env⟩ <;>
          simp [answerUnless, shapeUnder, Refused, hrefuse, propertyFields_refusing (ih _)]
    | _ => simp only [shapeUnder]
termination_by maxDepth + 1 - depth

end ApiShapes
