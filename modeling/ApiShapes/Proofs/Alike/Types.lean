import ApiShapes.Checker
import ApiShapes.Proofs.Alike.Arena

/-!
# Types that differ in their nodes' places only

* `CheckedType.Alike r`, `Env.Alike r` : the types name related nodes and are the same otherwise;
* `Instance.Alike r`, `Member.Alike r`, `CallSignature.Alike r` : the same for what is made of them;
* `CheckedType.Alike.same_eq`, `Instance.Alike.same_eq` : if `r` never relates one node to two, then what
  is the same on one side is so on the other.
-/

namespace ApiShapes

/-- The types name related nodes and are the same otherwise. -/
inductive CheckedType.Alike (r : NodeId → NodeId → Prop) : CheckedType → CheckedType → Prop
  | keyword (word : Keyword) : Alike r (.keyword word) (.keyword word)
  | literal (value : Literal) : Alike r (.literal value) (.literal value)
  | union {members members' : List CheckedType} (h : List.Forall₂ (Alike r) members members') :
      Alike r (.union members) (.union members')
  | intersection {members members' : List CheckedType}
      (h : List.Forall₂ (Alike r) members members') :
      Alike r (.intersection members) (.intersection members')
  | array {element element' : CheckedType} (h : Alike r element element') :
      Alike r (.array element) (.array element')
  | object {node node' : NodeId} {env env' : List (String × CheckedType)} (hnode : r node node')
      (henv : List.Forall₂ (EntryRel (Alike r)) env env') :
      Alike r (.object node env) (.object node' env')
  | external {origin origin' : NodeId} (name : String) {args args' : List CheckedType}
      (horigin : r origin origin') (hargs : List.Forall₂ (Alike r) args args') :
      Alike r (.external origin name args) (.external origin' name args')
  | unresolved (name : String) {args args' : List CheckedType}
      (h : List.Forall₂ (Alike r) args args') : Alike r (.unresolved name args) (.unresolved name args')
  | function : Alike r .function .function
  | unsupported (form : String) : Alike r (.unsupported form) (.unsupported form)

/-- Type parameters of the same names stand for types that are alike. -/
def Env.Alike (r : NodeId → NodeId → Prop) (env env' : Env) : Prop :=
  List.Forall₂ (EntryRel (CheckedType.Alike r)) env env'

structure Instance.Alike (r : NodeId → NodeId → Prop) (object object' : Instance) : Prop where
  node : r object.node object'.node
  env : Env.Alike r object.env object'.env

structure Member.Alike (r : NodeId → NodeId → Prop) (member member' : Member) : Prop where
  name : member.name = member'.name
  node : r member.node member'.node
  env : Env.Alike r member.env member'.env

structure CallSignature.Alike (r : NodeId → NodeId → Prop) (signature signature' : CallSignature) :
    Prop where
  node : r signature.node signature'.node
  params : List.Forall₂ r signature.params signature'.params

/-- `r` relates no node to two, in either direction. -/
def OneToOne (r : NodeId → NodeId → Prop) : Prop :=
  ∀ ⦃x x' y y'⦄, r x x' → r y y' → (x = y ↔ x' = y')

variable {r : NodeId → NodeId → Prop}

theorem OneToOne.beq_eq (hr : OneToOne r) {x x' y y' : NodeId} (hx : r x x') (hy : r y y') :
    (x == y) = (x' == y') := by
  rw [Bool.eq_iff_iff, beq_iff_eq, beq_iff_eq]
  exact hr hx hy

mutual

theorem CheckedType.Alike.same_eq (hr : OneToOne r) : ∀ {type type' : CheckedType},
    CheckedType.Alike r type type' → ∀ {other other' : CheckedType},
    CheckedType.Alike r other other' → type.same other = type'.same other'
  | _, _, .keyword _, _, _, h => by cases h <;> rfl
  | _, _, .literal _, _, _, h => by cases h <;> rfl
  | _, _, .union hmembers, _, _, h => by
    cases h with
    | union h => exact sameTypes_eq hr hmembers h
    | _ => rfl
  | _, _, .intersection hmembers, _, _, h => by
    cases h with
    | intersection h => exact sameTypes_eq hr hmembers h
    | _ => rfl
  | _, _, .array helement, _, _, h => by
    cases h with
    | array h => exact helement.same_eq hr h
    | _ => rfl
  | _, _, .object hnode henv, _, _, h => by
    cases h with
    | object hnode' henv' =>
      simp only [CheckedType.same, hr.beq_eq hnode hnode', sameEnvs_eq hr henv henv']
    | _ => rfl
  | _, _, .external _ horigin hargs, _, _, h => by
    cases h with
    | external _ horigin' hargs' =>
      simp only [CheckedType.same, hr.beq_eq horigin horigin', sameTypes_eq hr hargs hargs']
    | _ => rfl
  | _, _, .unresolved _ hargs, _, _, h => by
    cases h with
    | unresolved _ hargs' => simp only [CheckedType.same, sameTypes_eq hr hargs hargs']
    | _ => rfl
  | _, _, .function, _, _, h => by cases h <;> rfl
  | _, _, .unsupported _, _, _, h => by cases h <;> rfl

theorem sameTypes_eq (hr : OneToOne r) : ∀ {types types' : List CheckedType},
    List.Forall₂ (CheckedType.Alike r) types types' → ∀ {others others' : List CheckedType},
    List.Forall₂ (CheckedType.Alike r) others others' →
      sameTypes types others = sameTypes types' others'
  | _, _, .nil, _, _, h => by cases h <;> rfl
  | _, _, .cons htype hrest, _, _, h => by
    cases h with
    | nil => rfl
    | cons hother h => simp only [sameTypes, htype.same_eq hr hother, sameTypes_eq hr hrest h]

theorem sameEnvs_eq (hr : OneToOne r) : ∀ {env env' : List (String × CheckedType)},
    List.Forall₂ (EntryRel (CheckedType.Alike r)) env env' →
    ∀ {others others' : List (String × CheckedType)},
    List.Forall₂ (EntryRel (CheckedType.Alike r)) others others' →
      sameEnvs env others = sameEnvs env' others'
  | _, _, .nil, _, _, h => by cases h <;> rfl
  | _, _, .cons (.intro name htype) hrest, _, _, h => by
    cases h with
    | nil => rfl
    | cons hother h =>
      obtain ⟨_, hother⟩ := hother
      simp only [sameEnvs, htype.same_eq hr hother, sameEnvs_eq hr hrest h]

end

theorem Instance.Alike.same_eq (hr : OneToOne r) {object object' other other' : Instance}
    (h : Instance.Alike r object object') (h' : Instance.Alike r other other') :
    object.same other = object'.same other' := by
  unfold Instance.same
  rw [hr.beq_eq h.node h'.node, sameEnvs_eq hr h.env h'.env]

end ApiShapes
