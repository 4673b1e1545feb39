import ApiShapes.Proofs.Shape.Transcript
import Mathlib.Data.List.Forall2

/-!
# Refused questions cost only what they are about

* `Shape.Below` : the order of shapes by what is known: one is the other with less of it;
* `Transcript.Degraded refuse t shape` : `shape` is what came of `t`, but unknown where a type or the
  members of an object type are refused, and without the fields whose nodes are refused;
* `Transcript.Aligned refuse t shape part piece` : `piece` stands in `shape` where `part` stands in `t`;
* `encode_degraded` : a checker that refuses questions gives a degraded shape, in which every part that
  no refused question was asked for is as it was.
-/

namespace ApiShapes

open Encoding

/-! ## The order of shapes -/

/-- The fields have one name and one flag, and types that `R` relates. -/
inductive FieldOf.Rel (R : Shape → Shape → Prop) : Field → Field → Prop
  | intro (name : String) (optional : Bool) {type type' : Shape} (h : R type type') :
      Rel R ⟨name, type, optional⟩ ⟨name, type', optional⟩

/-- The first shape says no more than the second. An unknown one says nothing; unions have the same
members but for what these say, in the same order, and objects some of the same fields. -/
inductive Shape.Below : Shape → Shape → Prop
  | unknown (shape : Shape) : Below .unknown shape
  | primitive (kind : Primitive) : Below (.primitive kind) (.primitive kind)
  | literal (value : Literal) : Below (.literal value) (.literal value)
  | union {members members' : List Shape} (h : List.Forall₂ Below members members') :
      Below (.union members) (.union members')
  | array {element element' : Shape} (h : Below element element') :
      Below (.array element) (.array element')
  | object {fields some all : List Field} (h : List.Forall₂ (FieldOf.Rel Below) fields some)
      (hsome : some.Sublist all) : Below (.object fields) (.object all)

mutual

theorem Shape.Below.refl : ∀ shape : Shape, Below shape shape
  | .primitive kind => .primitive kind
  | .literal value => .literal value
  | .union members => .union (belowAll_refl members)
  | .array element => .array (Below.refl element)
  | .object fields => .object (fieldsBelow_refl fields) (List.Sublist.refl fields)
  | .unknown => .unknown .unknown

theorem Shape.belowAll_refl : ∀ shapes : List Shape, List.Forall₂ Below shapes shapes
  | [] => .nil
  | shape :: rest => .cons (Below.refl shape) (belowAll_refl rest)

theorem Shape.fieldsBelow_refl : ∀ fields : List Field,
    List.Forall₂ (FieldOf.Rel Below) fields fields
  | [] => .nil
  | ⟨name, type, optional⟩ :: rest =>
    .cons (.intro name optional (Below.refl type)) (fieldsBelow_refl rest)

end

/-! ## What is left of a transcript -/

namespace Transcript

variable (refuse : Query → Option CheckError)

def kept (properties : List (PropertyOfMember Transcript)) : List (PropertyOfMember Transcript) :=
  properties.filter fun property => !decide (Refused refuse (.node property.member.node))

/-- The field has the name and the flag of the property, and a type that `R` relates to its type. -/
inductive FieldOver (R : Transcript → Shape → Prop) : PropertyOfMember Transcript → Field → Prop
  | intro (member : Member) (optional : Bool) {type : Transcript} {shape : Shape} (h : R type shape) :
      FieldOver R ⟨member, optional, type⟩ ⟨member.name, shape, optional⟩

/-- The shape is what came of the transcript, as far as questions are not refused. It is unknown where
the type of a node or the members of an object type are refused. Primitives and literals are the same;
unions have a degraded shape for each member; objects have a field for each property in the same order,
with the same name and flag, but for those whose nodes are refused. -/
inductive Degraded : Transcript → Shape → Prop
  | plain (shape : Shape) : Degraded (.plain shape) shape
  | unanswered (query : Query) : Degraded (.unanswered query) .unknown
  | union {members : List Transcript} {shapes : List Shape}
      (h : List.Forall₂ Degraded members shapes) : Degraded (.union members) (.union shapes)
  | array {element : Transcript} {shape : Shape} (h : Degraded element shape) :
      Degraded (.array element) (.array shape)
  | node (id : NodeId) (env : Env) {type : Transcript} {shape : Shape} (h : Degraded type shape) :
      Degraded (.node id env type) shape
  | untyped {id : NodeId} {env : Env} (h : Refused refuse (.typeAt id env)) (type : Transcript) :
      Degraded (.node id env type) .unknown
  | object (self : Instance) (others : List Member)
      {properties : List (PropertyOfMember Transcript)} {fields : List Field}
      (h : List.Forall₂ (FieldOver Degraded) (kept refuse properties) fields) :
      Degraded (.object self others properties) (.object fields)
  | memberless {self : Instance} (h : Refused refuse (.members self)) (others : List Member)
      (properties : List (PropertyOfMember Transcript)) :
      Degraded (.object self others properties) .unknown

/-- In the shape that is left of `t`, `piece` stands where `part` stands in `t`. What lies below a refused
question stands nowhere. -/
inductive Aligned (t : Transcript) (shape : Shape) : Transcript → Shape → Prop
  | whole : Aligned t shape t shape
  | member {members : List Transcript} {shapes : List Shape} {part : Transcript} {piece : Shape}
      (h : Aligned t shape (.union members) (.union shapes)) (i : Nat)
      (hpart : members[i]? = some part) (hpiece : shapes[i]? = some piece) :
      Aligned t shape part piece
  | element {part : Transcript} {piece : Shape} (h : Aligned t shape (.array part) (.array piece)) :
      Aligned t shape part piece
  | node {id : NodeId} {env : Env} {part : Transcript} {piece : Shape}
      (h : Aligned t shape (.node id env part) piece) (hid : ¬ Refused refuse (.typeAt id env)) :
      Aligned t shape part piece
  | field {self : Instance} {others : List Member} {properties : List (PropertyOfMember Transcript)}
      {fields : List Field} {property : PropertyOfMember Transcript} {field : Field}
      (h : Aligned t shape (.object self others properties) (.object fields)) (i : Nat)
      (hproperty : (kept refuse properties)[i]? = some property) (hfield : fields[i]? = some field) :
      Aligned t shape property.type field.type

variable {refuse}

/-! ## What is left of a transcript is degraded -/

theorem shapesUnder_eq (ts : List Transcript) : shapesUnder refuse ts = ts.map (shapeUnder refuse) := by
  have h : shapesUnder refuse (ts.map id) = _ := shapesUnder_map id ts
  simpa using h

theorem fieldsUnder_eq (properties : List (PropertyOfMember Transcript)) :
    fieldsUnder refuse properties = (kept refuse properties).map fun property =>
      ⟨property.member.name, property.type.shapeUnder refuse, property.optional⟩ := by
  induction properties with
  | nil => rfl
  | cons property rest ih =>
    unfold kept at ih ⊢
    by_cases hrefused : Refused refuse (.node property.member.node)
    · simp [fieldsUnder, hrefused, ih]
    · simp [fieldsUnder, hrefused, ih]

variable (refuse)

mutual

theorem degraded_shapeUnder : ∀ t : Transcript, Degraded refuse t (t.shapeUnder refuse)
  | plain shape => by
    rw [shapeUnder]
    exact .plain shape
  | unanswered query => by
    rw [shapeUnder]
    exact .unanswered query
  | union members => by
    rw [shapeUnder]
    exact .union (degraded_shapesUnder members)
  | array element => by
    rw [shapeUnder]
    exact .array (degraded_shapeUnder element)
  | node id env type => by
    rw [shapeUnder]
    split
    · next hrefused => exact .untyped hrefused type
    · exact .node id env (degraded_shapeUnder type)
  | object self others properties => by
    rw [shapeUnder]
    split
    · next hrefused => exact .memberless hrefused others properties
    · exact .object self others (degraded_fieldsUnder properties)

theorem degraded_shapesUnder : ∀ ts : List Transcript,
    List.Forall₂ (Degraded refuse) ts (shapesUnder refuse ts)
  | [] => .nil
  | t :: rest => .cons (degraded_shapeUnder t) (degraded_shapesUnder rest)

theorem degraded_fieldsUnder : ∀ properties : List (PropertyOfMember Transcript),
    List.Forall₂ (FieldOver (Degraded refuse)) (kept refuse properties)
      (fieldsUnder refuse properties)
  | [] => .nil
  | ⟨member, optional, type⟩ :: rest => by
    have htype := FieldOver.intro member optional (degraded_shapeUnder type)
    have hrest := degraded_fieldsUnder rest
    unfold kept at hrest ⊢
    by_cases hrefused : Refused refuse (.node member.node)
    · simpa [fieldsUnder, hrefused] using hrest
    · simpa [fieldsUnder, hrefused] using And.intro htype hrest

end

/-! ## What is left says no more -/

theorem not_refused_none {query : Query} : ¬ Refused (fun _ => none) query := fun h => h rfl

mutual

theorem shapeUnder_below : ∀ t : Transcript, (t.shapeUnder refuse).Below t.shape
  | plain shape => by
    simp only [Transcript.shape, shapeUnder]
    exact .refl shape
  | unanswered _ => by
    simp only [shape, shapeUnder]
    exact .unknown .unknown
  | union members => by
    simp only [shape, shapeUnder]
    exact .union (shapesUnder_below members)
  | array element => by
    simp only [shape, shapeUnder]
    exact .array (shapeUnder_below element)
  | node id env type => by
    simp only [shape, shapeUnder, if_neg not_refused_none]
    split
    · exact .unknown _
    · exact shapeUnder_below type
  | object self others properties => by
    simp only [shape, shapeUnder, if_neg not_refused_none]
    split
    · exact .unknown _
    · obtain ⟨some, hsome, hfields⟩ := fieldsUnder_below properties
      exact .object hfields hsome

theorem shapesUnder_below : ∀ ts : List Transcript,
    List.Forall₂ Shape.Below (shapesUnder refuse ts) (shapesUnder (fun _ => none) ts)
  | [] => .nil
  | t :: rest => .cons (shapeUnder_below t) (shapesUnder_below rest)

theorem fieldsUnder_below : ∀ properties : List (PropertyOfMember Transcript),
    ∃ some, some.Sublist (fieldsUnder (fun _ => none) properties) ∧
      List.Forall₂ (FieldOf.Rel Shape.Below) (fieldsUnder refuse properties) some
  | [] => ⟨[], .slnil, .nil⟩
  | ⟨member, optional, type⟩ :: rest => by
    obtain ⟨some, hsome, hfields⟩ := fieldsUnder_below rest
    have htype : (type.shapeUnder refuse).Below (type.shapeUnder fun _ => none) :=
      shapeUnder_below type
    simp only [fieldsUnder, if_neg not_refused_none]
    split
    · exact ⟨some, hsome.cons _, hfields⟩
    · exact ⟨_, hsome.cons_cons _, .cons (.intro member.name optional htype) hfields⟩

end

/-! ## Parts that are not concerned -/

mutual

/-- If no question was refused, all is as it was. -/
theorem shapeUnder_eq_shape : ∀ t : Transcript, (∀ query ∈ t.asked, ¬ Refused refuse query) →
    t.shapeUnder refuse = t.shape
  | plain _, _ => by simp only [shape, shapeUnder]
  | unanswered _, _ => by simp only [shape, shapeUnder]
  | union members, h => by
    rw [asked] at h
    simp only [shape, shapeUnder, shapesUnder_eq_shapes members h]
  | array element, h => by
    rw [asked] at h
    simp only [shape, shapeUnder, shapeUnder_eq_shape element h]
  | node id env type, h => by
    rw [asked, List.forall_mem_cons] at h
    simp only [shape, shapeUnder, if_neg h.1, if_neg not_refused_none, shapeUnder_eq_shape type h.2]
  | object self others properties, h => by
    rw [asked, List.cons_append, List.forall_mem_cons, List.forall_mem_append] at h
    simp only [shape, shapeUnder, if_neg h.1, if_neg not_refused_none,
      fieldsUnder_eq_fields properties h.2.2]

theorem shapesUnder_eq_shapes : ∀ ts : List Transcript,
    (∀ query ∈ askedAll ts, ¬ Refused refuse query) →
      shapesUnder refuse ts = shapesUnder (fun _ => none) ts
  | [], _ => rfl
  | t :: rest, h => by
    rw [askedAll, List.forall_mem_append] at h
    have ht : t.shapeUnder refuse = t.shapeUnder fun _ => none := shapeUnder_eq_shape t h.1
    rw [shapesUnder, shapesUnder, ht, shapesUnder_eq_shapes rest h.2]

theorem fieldsUnder_eq_fields : ∀ properties : List (PropertyOfMember Transcript),
    (∀ query ∈ askedForProperties properties, ¬ Refused refuse query) →
      fieldsUnder refuse properties = fieldsUnder (fun _ => none) properties
  | [], _ => rfl
  | ⟨member, optional, type⟩ :: rest, h => by
    rw [askedForProperties, List.cons_append, List.forall_mem_cons, List.forall_mem_append] at h
    have htype : type.shapeUnder refuse = type.shapeUnder fun _ => none :=
      shapeUnder_eq_shape type h.2.1
    simp only [fieldsUnder, if_neg h.1, if_neg not_refused_none, htype,
      fieldsUnder_eq_fields rest h.2.2]

end

variable {refuse}

/-- Where a part of the transcript stands, there stands what is left of it. -/
theorem Aligned.eq_shapeUnder {t part : Transcript} {piece : Shape}
    (h : Aligned refuse t (t.shapeUnder refuse) part piece) : piece = part.shapeUnder refuse := by
  induction h with
  | whole => rfl
  | member _ i hpart hpiece ih =>
    simp only [shapeUnder, shapesUnder_eq, Shape.union.injEq] at ih
    rw [ih, List.getElem?_map, hpart] at hpiece
    exact (Option.some.inj hpiece).symm
  | element _ ih =>
    simp only [shapeUnder, Shape.array.injEq] at ih
    exact ih
  | node _ hid ih =>
    rw [shapeUnder, if_neg hid] at ih
    exact ih
  | @field self others properties fields property field _ i hproperty hfield ih =>
    rw [shapeUnder] at ih
    split at ih
    · cases ih
    · rw [Shape.object.injEq] at ih
      rw [ih, fieldsUnder_eq, List.getElem?_map, hproperty] at hfield
      exact congrArg FieldOf.type (Option.some.inj hfield).symm

end Transcript

/-! ## Encodings -/

open Transcript

def EncodeCall.transcript (checker : Checker) : EncodeCall → Transcript
  | .ofType type => transcribe checker [] 0 type
  | .atNode id env => transcribeNode checker (transcribe checker [] 0) id env

theorem EncodeCall.shape_refusing (checker : Checker) (refuse : Query → Option CheckError)
    (call : EncodeCall) :
    call.shape (checker.refusing refuse) = (call.transcript checker).shapeUnder refuse := by
  cases call with
  | ofType type => exact shapeAt_refusing [] 0 type
  | atNode id env => exact nodeShape_refusing (shapeAt_refusing [] 0) id env

/-- **Failures stay where they are.** A checker that refuses some of the questions gives a shape that says
no more. The call's transcript, which gives the whole shape, tells where: the shape is unknown where the
type of a node or the members of an object type are refused, it lacks the fields of the members whose
nodes are refused, and is the same otherwise. So each part for which no refused question was asked is as
it was. -/
theorem encode_degraded (checker : Checker) (refuse : Query → Option CheckError) (call : EncodeCall) :
    let whole := result (call.steps checker)
    let left := result (call.steps (checker.refusing refuse))
    left.Below whole ∧ (call.transcript checker).shape = whole ∧
      Degraded refuse (call.transcript checker) left ∧
      ∀ part piece, Aligned refuse (call.transcript checker) left part piece →
        (∀ query ∈ part.asked, ¬ Refused refuse query) → piece = part.shape := by
  intro whole left
  have hwhole : whole = (call.transcript checker).shape := by
    rw [shape, ← call.shape_refusing, refusing_none]
    exact (call.steps_yields checker).result_eq
  have hleft : left = (call.transcript checker).shapeUnder refuse := by
    rw [← call.shape_refusing]
    exact (call.steps_yields _).result_eq
  refine ⟨?_, hwhole.symm, hleft ▸ degraded_shapeUnder refuse _,
    fun part piece haligned hasked => ?_⟩
  · rw [hwhole, hleft]
    exact shapeUnder_below refuse _
  rw [hleft] at haligned
  rw [haligned.eq_shapeUnder, shapeUnder_eq_shape refuse part hasked]

/-- The node of the second member is refused, and the first member's type is as it was. -/
theorem encode_degraded_list :
    let refuse : Query → Option CheckError := fun
      | .node id => if id.index = 2 then some (.unknownNode id) else none
      | _ => none
    let call := EncodeCall.ofType (.object ⟨0⟩ [])
    let text : Transcript := .node ⟨1⟩ [] (.plain (.primitive .string))
    let left := result (call.steps (listChecker.refusing refuse))
    left = .object [⟨"name", .primitive .string, false⟩] ∧
      left.Below (result (call.steps listChecker)) ∧
      Aligned refuse (call.transcript listChecker) left text (.primitive .string) ∧
      .primitive .string = text.shape := by
  intro refuse call text left
  have htext : transcribe listChecker [⟨⟨0⟩, []⟩] 1 (.keyword .string) =
      .plain (.primitive .string) := by
    rw [transcribe]
    rfl
  have hwithin : transcribe listChecker [⟨⟨0⟩, []⟩] 1 (.object ⟨0⟩ []) = .plain .unknown := by
    rw [transcribe]
    rfl
  have htranscript : call.transcript listChecker = .object ⟨⟨0⟩, []⟩ []
      [⟨⟨"name", ⟨1⟩, []⟩, false, text⟩, ⟨⟨"next", ⟨2⟩, []⟩, true, .node ⟨2⟩ [] (.plain .unknown)⟩] := by
    show transcribe listChecker [] 0 (.object ⟨0⟩ []) = _
    rw [transcribe]
    show Transcript.object _ []
      [⟨_, false, .node ⟨1⟩ [] (transcribe listChecker [⟨⟨0⟩, []⟩] 1 (.keyword .string))⟩,
        ⟨_, true, .node ⟨2⟩ [] (transcribe listChecker [⟨⟨0⟩, []⟩] 1 (.object ⟨0⟩ []))⟩] = _
    rw [htext, hwithin]
  have hleft : left = .object [⟨"name", .primitive .string, false⟩] := by
    rw [show left = _ from (call.steps_yields _).result_eq, call.shape_refusing, htranscript]
    simp [shapeUnder, fieldsUnder, Refused, refuse, text]
  obtain ⟨hbelow, -, -, hparts⟩ := encode_degraded listChecker refuse call
  have haligned : Aligned refuse (call.transcript listChecker) left text (.primitive .string) := by
    rw [htranscript, hleft]
    have hkept : (kept refuse [⟨⟨"name", ⟨1⟩, []⟩, false, text⟩,
        ⟨⟨"next", ⟨2⟩, []⟩, true, .node ⟨2⟩ [] (.plain .unknown)⟩])[0]? =
          some ⟨⟨"name", ⟨1⟩, []⟩, false, text⟩ := by
      simp [kept, Refused, refuse]
    have hfield : [(⟨"name", .primitive .string, false⟩ : Field)][0]? =
        some ⟨"name", .primitive .string, false⟩ := rfl
    exact .field .whole 0 hkept hfield
  exact ⟨hleft, hbelow, haligned, hparts text _ haligned (by simp [text, asked, Refused, refuse])⟩

end ApiShapes
