import ApiShapes.Proofs.Alike.Types
import ApiShapes.Proofs.Shape.Steps

/-!
# Checkers that answer alike give the same shapes

* `Checker.Alike r c c'` : related questions have related answers;
* `Encoding.Alike r R m m'` : from object types that are alike the steps come to results that `R`
  relates, with object types that are alike, or both fail;
* `encodeAt_alike`, `encode_alike`, `encodeNode_alike` : types that are alike have the same shape.
-/

namespace ApiShapes

/-- The checkers give related answers to related questions. Their errors may differ. -/
structure Checker.Alike (r : NodeId → NodeId → Prop) (checker checker' : Checker) : Prop where
  oneToOne : OneToOne r
  node : ∀ {id id'}, r id id' → ExceptRel (Node.Alike r) (checker.node id) (checker'.node id')
  typeAt : ∀ {id id' env env'}, r id id' → Env.Alike r env env' →
    ExceptRel (CheckedType.Alike r) (checker.typeAt id env) (checker'.typeAt id' env')
  symbol : ∀ {id id'} (name : String) (space : Space), r id id' →
    Option.Rel r (checker.symbol id name space) (checker'.symbol id' name space)
  members : ∀ {object object'}, Instance.Alike r object object' →
    ExceptRel (List.Forall₂ (Member.Alike r)) (checker.members object) (checker'.members object')
  callSignature : ∀ {id id' call call'}, r id id' → Expr.Alike r call call' →
    Option.Rel (CallSignature.Alike r) (checker.callSignature id call)
      (checker'.callSignature id' call')
  importOrigin : ∀ {id id'}, r id id' → checker.importOrigin id = checker'.importOrigin id'

namespace Encoding

variable {r : NodeId → NodeId → Prop} {α α' β β' : Type} {R : α → α' → Prop} {S : β → β' → Prop}

/-- Around types that are alike, the steps come to related results or fail alike. -/
def Alike (r : NodeId → NodeId → Prop) (R : α → α' → Prop) (m : Encoding α) (m' : Encoding α') :
    Prop :=
  ∀ around around', List.Forall₂ (Instance.Alike r) around around' →
    ExceptRel R (m.run.run around).1 (m'.run.run around').1 ∧
      List.Forall₂ (Instance.Alike r) (m.run.run around).2 (m'.run.run around').2

theorem Alike.pure {a : α} {a' : α'} (h : R a a') : Alike r R (pure a) (pure a') :=
  fun _ _ haround => ⟨.ok h, haround⟩

theorem Alike.throw (e e' : EncodeError) : Alike r R (throw e) (throw e') :=
  fun _ _ haround => ⟨.error, haround⟩

theorem Alike.bind {m : Encoding α} {m' : Encoding α'} {f : α → Encoding β} {f' : α' → Encoding β'}
    (h : Alike r R m m') (hf : ∀ a a', R a a' → Alike r S (f a) (f' a')) :
    Alike r S (m >>= f) (m' >>= f') := by
  intro around around' haround
  obtain ⟨hresult, hafter⟩ := h around around' haround
  rw [run_bind, run_bind]
  rcases hm : m.run.run around with ⟨x, after⟩
  rcases hm' : m'.run.run around' with ⟨x', after'⟩
  rw [hm, hm'] at hresult hafter
  cases hresult with
  | ok ha => exact hf _ _ ha after after' hafter
  | error => exact ⟨.error, hafter⟩

theorem Alike.degrade {shape shape' : Encoding Shape} (h : Alike r Eq shape shape') :
    Alike r Eq (degrade shape) (degrade shape') := by
  intro around around' haround
  obtain ⟨hresult, hafter⟩ := h around around' haround
  rw [run_degrade, run_degrade]
  rcases hm : shape.run.run around with ⟨x, after⟩
  rcases hm' : shape'.run.run around' with ⟨x', after'⟩
  rw [hm, hm'] at hresult hafter
  cases hresult with
  | ok hshape => exact ⟨.ok hshape, hafter⟩
  | error => exact ⟨.ok rfl, hafter⟩

theorem Alike.ask {answer : Except CheckError α} {answer' : Except CheckError α'}
    (h : ExceptRel R answer answer') : Alike r R (ask answer) (ask answer') := by
  cases h with
  | ok h => exact .pure h
  | error => exact .throw _ _

theorem Alike.get : Alike r (List.Forall₂ (Instance.Alike r)) (get : Encoding _) get :=
  fun _ _ haround => ⟨.ok haround, haround⟩

theorem Alike.modify {f f' : List Instance → List Instance}
    (hf : ∀ around around', List.Forall₂ (Instance.Alike r) around around' →
      List.Forall₂ (Instance.Alike r) (f around) (f' around')) :
    Alike r Eq (modify f : Encoding Unit) (modify f') :=
  fun around around' haround => ⟨.ok rfl, hf around around' haround⟩

theorem Alike.mapM {f : α → Encoding β} {f' : α' → Encoding β}
    (hf : ∀ a a', R a a' → Alike r Eq (f a) (f' a')) {as : List α} {as' : List α'}
    (h : List.Forall₂ R as as') : Alike r Eq (as.mapM f) (as'.mapM f') := by
  induction h with
  | nil => exact .pure rfl
  | cons ha _ ih =>
    rw [List.mapM_cons, List.mapM_cons]
    apply (hf _ _ ha).bind
    rintro b _ rfl
    apply ih.bind
    rintro bs _ rfl
    exact .pure rfl

theorem Alike.filterMapM {f : α → Encoding (Option β)} {f' : α' → Encoding (Option β)}
    (hf : ∀ a a', R a a' → Alike r Eq (f a) (f' a')) {as : List α} {as' : List α'}
    (h : List.Forall₂ R as as') : Alike r Eq (as.filterMapM f) (as'.filterMapM f') := by
  induction h with
  | nil => exact .pure rfl
  | cons ha _ ih =>
    rw [List.filterMapM_cons, List.filterMapM_cons]
    apply (hf _ _ ha).bind
    rintro b _ rfl
    cases b with
    | none => exact ih
    | some b =>
      apply ih.bind
      rintro bs _ rfl
      exact .pure rfl

/-! ## Shapes -/

theorem encodeKeyword_alike (word : Keyword) :
    Alike r Eq (encodeKeyword word) (encodeKeyword word) := by
  cases word <;> first | exact .pure rfl | exact .throw _ _

section

variable {checker checker' : Checker} {encodeType encodeType' : CheckedType → Encoding Shape}

def EncodeAlike (r : NodeId → NodeId → Prop) (encodeType encodeType' : CheckedType → Encoding Shape) :
    Prop :=
  ∀ type type', CheckedType.Alike r type type' → Alike r Eq (encodeType type) (encodeType' type')

theorem nodeWith_alike (h : Checker.Alike r checker checker')
    (hencode : EncodeAlike r encodeType encodeType') {id id' : NodeId} {env env' : Env}
    (hid : r id id') (henv : Env.Alike r env env') :
    Alike r Eq (nodeWith checker encodeType id env) (nodeWith checker' encodeType' id' env') :=
  .degrade ((Alike.ask (h.typeAt hid henv)).bind hencode)

theorem encodeMember_alike (h : Checker.Alike r checker checker')
    (hencode : EncodeAlike r encodeType encodeType') {member member' : Member}
    (hmember : Member.Alike r member member') :
    Alike r Eq (encodeMember checker encodeType member)
      (encodeMember checker' encodeType' member') := by
  unfold encodeMember
  have hnode := h.node hmember.node
  generalize checker.node member.node = node, checker'.node member'.node = node' at hnode
  cases hnode with
  | error => exact .pure rfl
  | @ok node node' hnode =>
    obtain ⟨parent, kind⟩ := node
    obtain ⟨parent', kind'⟩ := node'
    obtain ⟨-, hkind⟩ := hnode
    cases hkind with
    | property name optional htype =>
      apply (nodeWith_alike h hencode hmember.node hmember.env).bind
      rintro type _ rfl
      rw [hmember.name]
      exact .pure rfl
    | _ => exact .pure rfl

theorem encodeObject_alike (h : Checker.Alike r checker checker')
    (hencode : EncodeAlike r encodeType encodeType') {object object' : Instance}
    (hobject : Instance.Alike r object object') :
    Alike r Eq (encodeObject checker encodeType object)
      (encodeObject checker' encodeType' object') := by
  unfold encodeObject
  apply Alike.get.bind
  intro around around' haround
  have hwithin : around.any object.same = around'.any object'.same :=
    any_eq haround fun _ _ hother => hobject.same_eq h.oneToOne hother
  rw [hwithin]
  split
  · exact .throw _ _
  · apply (Alike.ask (h.members hobject)).bind
    intro members members' hmembers
    apply (Alike.modify fun _ _ haround => .cons hobject haround).bind
    intro _ _ _
    apply (Alike.filterMapM (fun _ _ hmember => encodeMember_alike h hencode hmember) hmembers).bind
    rintro fields _ rfl
    apply (Alike.modify fun _ _ haround => List.forall₂_drop 1 haround).bind
    intro _ _ _
    exact .pure rfl

end

variable {checker checker' : Checker}

/-- Types that are alike have the same shape, so many levels deep. -/
theorem encodeAt_alike (h : Checker.Alike r checker checker') (bound levels : Nat) :
    EncodeAlike r (encodeAt checker bound levels) (encodeAt checker' bound levels) := by
  induction levels with
  | zero => exact fun _ _ _ => .throw _ _
  | succ levels ih =>
    have hdegrade : ∀ type type', CheckedType.Alike r type type' →
        Alike r Eq (degrade (encodeAt checker bound levels type))
          (degrade (encodeAt checker' bound levels type')) :=
      fun type type' htype => .degrade (ih type type' htype)
    intro type type' htype
    cases htype with
    | keyword word => exact encodeKeyword_alike word
    | literal value => exact .pure rfl
    | union hmembers =>
      apply (Alike.mapM hdegrade hmembers).bind
      rintro members _ rfl
      exact .pure rfl
    | array helement =>
      apply (hdegrade _ _ helement).bind
      rintro element _ rfl
      exact .pure rfl
    | object hnode henv => exact encodeObject_alike h ih ⟨hnode, henv⟩
    | _ => exact .throw _ _

theorem encode_alike (h : Checker.Alike r checker checker') {type type' : CheckedType}
    (htype : CheckedType.Alike r type type') :
    Alike r Eq (encode checker type) (encode checker' type') :=
  .degrade (encodeAt_alike h _ _ type type' htype)

theorem encodeNode_alike (h : Checker.Alike r checker checker') {id id' : NodeId} {env env' : Env}
    (hid : r id id') (henv : Env.Alike r env env') :
    Alike r Eq (encodeNode checker id env) (encodeNode checker' id' env') :=
  nodeWith_alike h (encodeAt_alike h _ _) hid henv

theorem result_eq {shape shape' : Encoding Shape} (h : Alike r Eq shape shape') :
    result shape = result shape' := by
  obtain ⟨hresult, -⟩ := h [] [] .nil
  unfold result
  generalize (shape.run.run []).1 = x, (shape'.run.run []).1 = x' at hresult
  cases hresult with
  | ok hshape => exact hshape
  | error => rfl

end Encoding

end ApiShapes
