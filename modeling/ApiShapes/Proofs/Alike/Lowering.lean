import ApiShapes.Proofs.Alike.Arena
import ApiShapes.Proofs.Arena.Lowering

/-!
# One text lowered at two places

The same text is lowered behind two arenas, of `n` and of `n'` nodes.

* `Arena.Shifted n n' k` : the same one of the first `k` new nodes on both sides;
* `Arena.AlikeFrom n n' k` : the first `k` new nodes are alike;
* `Lowering.AlikeFrom n n' k R` : steps that keep this so, with results that `R` relates;
* `Arena.addModule_alike` : the modules of one text are alike node by node.
-/

namespace ApiShapes

/-! ## Two arenas -/

namespace Arena

/-- The places are that of the same node, counted from `n` and from `n'`, below the `k`-th. -/
def Shifted (n n' k : Nat) (id id' : NodeId) : Prop :=
  ∃ i < k, id = ⟨n + i⟩ ∧ id' = ⟨n' + i⟩

variable {n n' k k' : Nat} {a a' : Arena}

theorem Shifted.mono {id id' : NodeId} (h : Shifted n n' k id id') (hk : k ≤ k') :
    Shifted n n' k' id id' :=
  have ⟨i, hi, hid⟩ := h
  ⟨i, Nat.lt_of_lt_of_le hi hk, hid⟩

/-- The arenas end with `k` nodes each that are alike. -/
structure AlikeFrom (n n' k : Nat) (a a' : Arena) : Prop where
  size : a.size = n + k
  size' : a'.size = n' + k
  nodes : ∀ id id', Shifted n n' k id id' → ∃ node node', a.get? id = some node ∧
    a'.get? id' = some node' ∧ Node.Alike (Shifted n n' k) node node'

theorem AlikeFrom.refl (a a' : Arena) : AlikeFrom a.size a'.size 0 a a' :=
  ⟨rfl, rfl, fun _ _ ⟨_, hi, _⟩ => absurd hi (Nat.not_lt_zero _)⟩

/-- The nodes that come next are the same ones on both sides. -/
theorem AlikeFrom.next (h : AlikeFrom n n' k a a') (hk : k < k') :
    Shifted n n' k' a.next a'.next :=
  ⟨k, hk, congrArg NodeId.mk h.size, congrArg NodeId.mk h.size'⟩

theorem AlikeFrom.push (h : AlikeFrom n n' k a a') {node node' : Node}
    (hnode : Node.Alike (Shifted n n' (k + 1)) node node') :
    AlikeFrom n n' (k + 1) (a.push node) (a'.push node') := by
  refine ⟨by rw [size_push, h.size, Nat.add_assoc], by rw [size_push, h.size', Nat.add_assoc], ?_⟩
  rintro id id' ⟨i, hi, rfl, rfl⟩
  by_cases hold : i < k
  · obtain ⟨old, old', hget, hget', halike⟩ := h.nodes _ _ ⟨i, hold, rfl, rfl⟩
    refine ⟨old, old', (grows_push a node).get? hget, (grows_push a' node').get? hget', ?_⟩
    exact halike.mono fun _ _ hid => hid.mono (Nat.le_succ k)
  · obtain rfl : i = k := by omega
    refine ⟨node, node', ?_, ?_, hnode⟩
    · rw [← h.size]
      exact get?_push_next a node
    · rw [← h.size']
      exact get?_push_next a' node'

theorem AlikeFrom.fill (h : AlikeFrom n n' k a a') {id id' : NodeId} {kind kind' : NodeKind}
    (hid : Shifted n n' k id id') (hkind : NodeKind.Alike (Shifted n n' k) kind kind') :
    AlikeFrom n n' k (a.fill id kind) (a'.fill id' kind') := by
  refine ⟨by rw [size_fill, h.size], by rw [size_fill, h.size'], ?_⟩
  rintro other other' hother
  obtain ⟨node, node', hget, hget', halike⟩ := h.nodes other other' hother
  obtain ⟨i, -, rfl, rfl⟩ := hid
  obtain ⟨j, -, rfl, rfl⟩ := hother
  by_cases hij : j = i
  · subst hij
    refine ⟨{ node with kind }, { node' with kind := kind' }, ?_, ?_, halike.parent, hkind⟩
    · rw [get?_fill_self, hget]
      rfl
    · rw [get?_fill_self, hget']
      rfl
  · have hne : ∀ m, (⟨m + j⟩ : NodeId) ≠ ⟨m + i⟩ := fun m h => hij (by injection h; omega)
    exact ⟨node, node', by rw [get?_fill_of_ne kind (hne n), hget],
      by rw [get?_fill_of_ne kind' (hne n'), hget'], halike⟩

end Arena

/-! ## Two lowerings -/

open Arena (Shifted)

/-- `R` relates the two as soon as `k` nodes are there. -/
def RelatedFrom {α : Type} (n n' k : Nat) (R : (NodeId → NodeId → Prop) → α → α → Prop)
    (x x' : α) : Prop :=
  ∀ k', k ≤ k' → R (Shifted n n' k') x x'

theorem RelatedFrom.mono {α : Type} {n n' k k' : Nat} {R : (NodeId → NodeId → Prop) → α → α → Prop}
    {x x' : α} (h : RelatedFrom n n' k R x x') (hk : k ≤ k') : RelatedFrom n n' k' R x x' :=
  fun m hm => h m (Nat.le_trans hk hm)

namespace Lowering

variable {α β : Type} {n n' k : Nat} {R : (NodeId → NodeId → Prop) → α → α → Prop}
  {S : (NodeId → NodeId → Prop) → β → β → Prop}

/-- From `k` nodes on that are alike, the steps add nodes that are alike, and `R` relates their
results. -/
def AlikeFrom (n n' k : Nat) (R : (NodeId → NodeId → Prop) → α → α → Prop)
    (m m' : Lowering α) : Prop :=
  ∀ k₁, k ≤ k₁ → ∀ a a', Arena.AlikeFrom n n' k₁ a a' → ∃ k₂, k₁ ≤ k₂ ∧
    Arena.AlikeFrom n n' k₂ (m.run a).2 (m'.run a').2 ∧
      RelatedFrom n n' k₂ R (m.run a).1 (m'.run a').1

theorem AlikeFrom.pure {x x' : α} (h : RelatedFrom n n' k R x x') :
    AlikeFrom n n' k R (pure x) (pure x') :=
  fun k₁ hk₁ _ _ ha => ⟨k₁, Nat.le_refl _, ha, fun k' hk' => h k' (Nat.le_trans hk₁ hk')⟩

theorem AlikeFrom.bind {m m' : Lowering α} {f f' : α → Lowering β} (h : AlikeFrom n n' k R m m')
    (hf : ∀ k₁, k ≤ k₁ → ∀ x x', RelatedFrom n n' k₁ R x x' → AlikeFrom n n' k₁ S (f x) (f' x')) :
    AlikeFrom n n' k S (m >>= f) (m' >>= f') := by
  intro k₁ hk₁ a a' ha
  obtain ⟨k₂, hk₂, ha₂, hx⟩ := h k₁ hk₁ a a' ha
  obtain ⟨k₃, hk₃, ha₃, hy⟩ := hf k₂ (Nat.le_trans hk₁ hk₂) _ _ hx k₂ (Nat.le_refl _) _ _ ha₂
  exact ⟨k₃, Nat.le_trans hk₂ hk₃, ha₃, hy⟩

theorem AlikeFrom.mono {k' : Nat} {m m' : Lowering α} (h : AlikeFrom n n' k R m m') (hk : k ≤ k') :
    AlikeFrom n n' k' R m m' :=
  fun k₁ hk₁ => h k₁ (Nat.le_trans hk hk₁)

theorem AlikeFrom.push {parent parent' : Option NodeId} {kind kind' : NodeKind}
    (hparent : RelatedFrom n n' k (Option.Rel ·) parent parent')
    (hkind : RelatedFrom n n' k NodeKind.Alike kind kind') :
    AlikeFrom n n' k (·) (push parent kind) (push parent' kind') := by
  intro k₁ hk₁ a a' ha
  have hle : k ≤ k₁ + 1 := Nat.le_succ_of_le hk₁
  exact ⟨k₁ + 1, Nat.le_succ k₁, ha.push ⟨hparent _ hle, hkind _ hle⟩, fun k' hk' => ha.next hk'⟩

/-- Filling in nodes that are alike in the same way, at the end. -/
theorem AlikeFrom.fill {id id' : NodeId} {kind kind' : NodeKind} {x x' : α}
    (hid : RelatedFrom n n' k (·) id id') (hkind : RelatedFrom n n' k NodeKind.Alike kind kind')
    (hx : RelatedFrom n n' k R x x') :
    AlikeFrom n n' k R (fill id kind >>= fun _ => Pure.pure x)
      (fill id' kind' >>= fun _ => Pure.pure x') :=
  fun k₁ hk₁ _ _ ha => ⟨k₁, Nat.le_refl _, ha.fill (hid k₁ hk₁) (hkind k₁ hk₁),
    fun k' hk' => hx k' (Nat.le_trans hk₁ hk')⟩

theorem AlikeFrom.mapM {γ : Type} {f f' : γ → Lowering α}
    (hf : ∀ x, AlikeFrom n n' k R (f x) (f' x)) (xs : List γ) :
    AlikeFrom n n' k (fun r => List.Forall₂ (R r)) (xs.mapM f) (xs.mapM f') := by
  induction xs with
  | nil => exact .pure fun _ _ => .nil
  | cons x rest ih =>
    rw [List.mapM_cons, List.mapM_cons]
    apply (hf x).bind
    intro k₁ hk₁ y y' hy
    apply (ih.mono hk₁).bind
    intro k₂ hk₂ ys ys' hys
    exact .pure fun k' hk' => .cons (hy k' (Nat.le_trans hk₂ hk')) (hys k' hk')

/-- A node that is reserved below alike ones, and filled in last. -/
theorem AlikeFrom.reserve {owner owner' : NodeId} {f f' : NodeId → Lowering α}
    (howner : RelatedFrom n n' k (·) owner owner')
    (hf : ∀ k₁, k ≤ k₁ → ∀ id id', RelatedFrom n n' k₁ (·) id id' →
      AlikeFrom n n' k₁ R (f id) (f' id')) :
    AlikeFrom n n' k R (reserve owner >>= f) (reserve owner' >>= f') :=
  (AlikeFrom.push (fun k' hk' => .some (howner k' hk')) fun _ _ => .otherMember).bind hf

end Lowering

open Lowering

/-! ## Types -/

variable {n n' k : Nat}

mutual

theorem lowerType_alike {k : Nat} {owner owner' : NodeId}
    (howner : RelatedFrom n n' k (·) owner owner') : ∀ type : TypeTree,
    AlikeFrom n n' k TypeExpr.Alike (lowerType owner type) (lowerType owner' type)
  | .keyword word => .pure fun _ _ => .keyword word
  | .literal value => .pure fun _ _ => .literal value
  | .reference name args =>
    (lowerTypes_alike howner args).bind fun _ _ _ _ h => .pure fun k' hk' => .reference name (h k' hk')
  | .array element =>
    (lowerType_alike howner element).bind fun _ _ _ _ h => .pure fun k' hk' => .array (h k' hk')
  | .union members =>
    (lowerTypes_alike howner members).bind fun _ _ _ _ h => .pure fun k' hk' => .union (h k' hk')
  | .intersection members =>
    (lowerTypes_alike howner members).bind fun _ _ _ _ h =>
      .pure fun k' hk' => .intersection (h k' hk')
  | .object members =>
    .reserve howner fun _ _ _ _ hid =>
      (lowerMembers_alike hid members).bind fun _ hk _ _ hids =>
        .fill (hid.mono hk) (fun k' hk' => .typeLiteral (hids k' hk'))
          fun k' hk' => .object (hid k' (Nat.le_trans hk hk'))
  | .function => .pure fun _ _ => .function
  | .unsupported form => .pure fun _ _ => .unsupported form

theorem lowerTypes_alike {k : Nat} {owner owner' : NodeId}
    (howner : RelatedFrom n n' k (·) owner owner') : ∀ types : List TypeTree,
    AlikeFrom n n' k (fun r => List.Forall₂ (TypeExpr.Alike r)) (lowerTypes owner types)
      (lowerTypes owner' types)
  | [] => .pure fun _ _ => .nil
  | type :: rest =>
    (lowerType_alike howner type).bind fun _ hk _ _ htype =>
      (lowerTypes_alike (howner.mono hk) rest).bind fun _ hk' _ _ hrest =>
        .pure fun m hm => .cons (htype m (Nat.le_trans hk' hm)) (hrest m hm)

theorem lowerType?_alike {k : Nat} {owner owner' : NodeId}
    (howner : RelatedFrom n n' k (·) owner owner') : ∀ type : Option TypeTree,
    AlikeFrom n n' k (fun r => Option.Rel (TypeExpr.Alike r)) (lowerType? owner type)
      (lowerType? owner' type)
  | none => .pure fun _ _ => .none
  | some type =>
    (lowerType_alike howner type).bind fun _ _ _ _ h => .pure fun k' hk' => .some (h k' hk')

theorem lowerMember_alike {k : Nat} {owner owner' : NodeId}
    (howner : RelatedFrom n n' k (·) owner owner') : ∀ member : MemberTree,
    AlikeFrom n n' k (·) (lowerMember owner member) (lowerMember owner' member)
  | .property name optional type =>
    .reserve howner fun _ _ _ _ hid =>
      (lowerType?_alike hid type).bind fun _ hk _ _ htype =>
        .fill (hid.mono hk) (fun k' hk' => .property name optional (htype k' hk')) (hid.mono hk)
  | .method name => .push (fun k' hk' => .some (howner k' hk')) fun _ _ => .method name
  | .other => .push (fun k' hk' => .some (howner k' hk')) fun _ _ => .otherMember

theorem lowerMembers_alike {k : Nat} {owner owner' : NodeId}
    (howner : RelatedFrom n n' k (·) owner owner') : ∀ members : List MemberTree,
    AlikeFrom n n' k (fun r => List.Forall₂ r) (lowerMembers owner members)
      (lowerMembers owner' members)
  | [] => .pure fun _ _ => .nil
  | member :: rest =>
    (lowerMember_alike howner member).bind fun _ hk _ _ hid =>
      (lowerMembers_alike (howner.mono hk) rest).bind fun _ hk' _ _ hrest =>
        .pure fun m hm => .cons (hid m (Nat.le_trans hk' hm)) (hrest m hm)

end

variable {owner owner' : NodeId}

theorem lowerTypeParams_alike (howner : RelatedFrom n n' k (·) owner owner')
    (params : List (TypeParamOf TypeTree)) :
    AlikeFrom n n' k (fun r => List.Forall₂ (TypeParamOf.Alike (TypeExpr.Alike r)))
      (lowerTypeParams owner params) (lowerTypeParams owner' params) :=
  AlikeFrom.mapM (fun param => (lowerType?_alike howner param.default).bind fun _ _ _ _ h =>
    .pure fun k' hk' => .intro param.name (h k' hk')) params

theorem lowerBases_alike (howner : RelatedFrom n n' k (·) owner owner')
    (bases : List (String × List TypeTree)) :
    AlikeFrom n n' k (fun r => List.Forall₂ (TypeExpr.Alike r)) (lowerBases owner bases)
      (lowerBases owner' bases) :=
  AlikeFrom.mapM (fun base => (lowerTypes_alike howner base.2).bind fun _ _ _ _ h =>
    .pure fun k' hk' => .reference base.1 (h k' hk')) bases

/-! ## Functions and expressions -/

theorem lowerParam_alike (howner : RelatedFrom n n' k (·) owner owner') (param : ParamTree) :
    AlikeFrom n n' k (·) (lowerParam owner param) (lowerParam owner' param) :=
  .reserve howner fun _ _ _ _ hid =>
    (lowerType?_alike hid param.type).bind fun _ hk _ _ htype =>
      .fill (hid.mono hk) (fun k' hk' => .parameter param.name (htype k' hk')) (hid.mono hk)

theorem lowerFunction_alike (howner : RelatedFrom n n' k (·) owner owner') (name : Option String)
    (params : List ParamTree) (exported : Bool) :
    AlikeFrom n n' k (·) (lowerFunction owner name params exported)
      (lowerFunction owner' name params exported) :=
  .reserve howner fun _ _ _ _ hid =>
    (AlikeFrom.mapM (fun param => lowerParam_alike hid param) params).bind fun _ hk _ _ hids =>
      .fill (hid.mono hk) (fun k' hk' => .function name exported (hids k' hk')) (hid.mono hk)

mutual

theorem lowerExpr_alike {k : Nat} {owner owner' : NodeId}
    (howner : RelatedFrom n n' k (·) owner owner') : ∀ value : ExprTree,
    AlikeFrom n n' k Expr.Alike (lowerExpr owner value) (lowerExpr owner' value)
  | .ident name => .pure fun _ _ => .ident name
  | .call callee args =>
    (lowerExpr_alike howner callee).bind fun _ hk _ _ hcallee =>
      (lowerExprs_alike (howner.mono hk) args).bind fun _ hk' _ _ hargs =>
        .pure fun m hm => .call (hcallee m (Nat.le_trans hk' hm)) (hargs m hm)
  | .object properties =>
    (lowerProperties_alike howner properties).bind fun _ _ _ _ h =>
      .pure fun k' hk' => .object (h k' hk')
  | .function name params =>
    (lowerFunction_alike howner name params false).bind fun _ _ _ _ h =>
      .pure fun k' hk' => .function (h k' hk')
  | .other => .pure fun _ _ => .other

theorem lowerExprs_alike {k : Nat} {owner owner' : NodeId}
    (howner : RelatedFrom n n' k (·) owner owner') : ∀ values : List ExprTree,
    AlikeFrom n n' k (fun r => List.Forall₂ (Expr.Alike r)) (lowerExprs owner values)
      (lowerExprs owner' values)
  | [] => .pure fun _ _ => .nil
  | value :: rest =>
    (lowerExpr_alike howner value).bind fun _ hk _ _ hvalue =>
      (lowerExprs_alike (howner.mono hk) rest).bind fun _ hk' _ _ hrest =>
        .pure fun m hm => .cons (hvalue m (Nat.le_trans hk' hm)) (hrest m hm)

theorem lowerProperties_alike {k : Nat} {owner owner' : NodeId}
    (howner : RelatedFrom n n' k (·) owner owner') : ∀ properties : List (PropertyOf ExprTree),
    AlikeFrom n n' k (fun r => List.Forall₂ (PropertyOf.Alike (Expr.Alike r)))
      (lowerProperties owner properties) (lowerProperties owner' properties)
  | [] => .pure fun _ _ => .nil
  | ⟨key, value⟩ :: rest =>
    (lowerExpr_alike howner value).bind fun _ hk _ _ hvalue =>
      (lowerProperties_alike (howner.mono hk) rest).bind fun _ hk' _ _ hrest =>
        .pure fun m hm => .cons (.intro key (hvalue m (Nat.le_trans hk' hm))) (hrest m hm)

end

/-! ## Statements and modules -/

theorem lowerVariable_alike (howner : RelatedFrom n n' k (·) owner owner') (exported : Bool)
    (declared : VariableTree) :
    AlikeFrom n n' k (·) (lowerVariable owner exported declared)
      (lowerVariable owner' exported declared) := by
  obtain ⟨name, type, value⟩ := declared
  refine .reserve howner fun _ _ id id' hid => ?_
  refine (lowerType?_alike hid type).bind fun k₁ hk _ _ htype => ?_
  cases value with
  | none =>
    have hnone : AlikeFrom n n' k₁ (fun r => Option.Rel (Expr.Alike r)) (pure none) (pure none) :=
      .pure fun _ _ => .none
    apply hnone.bind
    intro _ hk' _ _ hvalue
    have hid' := hid.mono (Nat.le_trans hk hk')
    exact .fill hid' (fun m hm => .var name exported (htype m (Nat.le_trans hk' hm)) (hvalue m hm)) hid'
  | some value =>
    have hsome : AlikeFrom n n' k₁ (fun r => Option.Rel (Expr.Alike r))
        (some <$> lowerExpr id value) (some <$> lowerExpr id' value) :=
      (lowerExpr_alike (hid.mono hk) value).bind fun _ _ _ _ hvalue =>
        .pure fun m hm => .some (hvalue m hm)
    apply hsome.bind
    intro _ hk' _ _ hvalue
    have hid' := hid.mono (Nat.le_trans hk hk')
    exact .fill hid' (fun m hm => .var name exported (htype m (Nat.le_trans hk' hm)) (hvalue m hm)) hid'

theorem lowerStatement_alike (howner : RelatedFrom n n' k (·) owner owner')
    (statement : StatementTree) :
    AlikeFrom n n' k (fun r => List.Forall₂ r) (lowerStatement owner statement)
      (lowerStatement owner' statement) := by
  have hparent : RelatedFrom n n' k (Option.Rel ·) (some owner) (some owner') :=
    fun m hm => .some (howner m hm)
  cases statement with
  | imports specifier bindings =>
    apply (AlikeFrom.push hparent fun _ _ => .imports specifier).bind
    intro _ hk id id' hid
    exact .mapM (fun binding => .push (fun m hm => .some (hid m hm))
      fun _ _ => .binding binding.1 binding.2) bindings
  | exports specifier names =>
    exact .mapM (fun name => .push hparent fun _ _ => .reExport specifier name.1 name.2) names
  | exportAll specifier =>
    apply (AlikeFrom.push hparent fun _ _ => .exportAll specifier).bind
    intro _ _ _ _ hid
    exact .pure fun m hm => .cons (hid m hm) .nil
  | exportDefault value =>
    refine .reserve howner fun _ _ _ _ hid => ?_
    apply (lowerExpr_alike hid value).bind
    intro _ hk _ _ hvalue
    exact .fill (hid.mono hk) (fun m hm => .exportDefault (hvalue m hm))
      fun m hm => .cons (hid m (Nat.le_trans hk hm)) .nil
  | vars exported declared =>
    exact .mapM (fun item => lowerVariable_alike howner exported item) declared
  | function exported name params =>
    apply (lowerFunction_alike howner name params exported).bind
    intro _ _ _ _ hid
    exact .pure fun m hm => .cons (hid m hm) .nil
  | typeAlias exported name params type =>
    refine .reserve howner fun _ _ _ _ hid => ?_
    apply (lowerTypeParams_alike hid params).bind
    intro _ hk _ _ hparams
    apply (lowerType_alike (hid.mono hk) type).bind
    intro _ hk' _ _ htype
    have hid' := hid.mono (Nat.le_trans hk hk')
    exact .fill hid' (fun m hm => .typeAlias name exported (hparams m (Nat.le_trans hk' hm)) (htype m hm))
      fun m hm => .cons (hid' m hm) .nil
  | interface exported name params bases members =>
    refine .reserve howner fun _ _ _ _ hid => ?_
    apply (lowerTypeParams_alike hid params).bind
    intro _ hk _ _ hparams
    apply (lowerBases_alike (hid.mono hk) bases).bind
    intro _ hk' _ _ hbases
    have hid' := hid.mono (Nat.le_trans hk hk')
    apply (lowerMembers_alike hid' members).bind
    intro _ hk'' _ _ hmembers
    refine .fill (hid'.mono hk'') (fun m hm => .interface name exported ?_ ?_ (hmembers m hm))
      fun m hm => .cons (hid' m (Nat.le_trans hk'' hm)) .nil
    · exact hparams m (Nat.le_trans hk' (Nat.le_trans hk'' hm))
    · exact hbases m (Nat.le_trans hk'' hm)

theorem lowerModule_alike (path : Path) (body : List StatementTree) :
    AlikeFrom n n' k (·) (lowerModule path body) (lowerModule path body) := by
  refine (AlikeFrom.push (fun _ _ => .none) fun _ _ => .sourceFile path .nil).bind
    fun _ _ file file' hfile => ?_
  refine (AlikeFrom.mapM (fun statement => lowerStatement_alike hfile statement) body).bind
    fun _ hk _ _ hids => ?_
  exact .fill (hfile.mono hk) (fun m hm => .sourceFile path (List.rel_flatten (hids m hm)))
    (hfile.mono hk)

/-- **The modules of one text are alike**, wherever they are put. -/
theorem Arena.addModule_alike (a a' : Arena) (path : Path) (body : List StatementTree) :
    ∃ k, Arena.AlikeFrom a.size a'.size k (a.addModule path body).2 (a'.addModule path body).2 := by
  obtain ⟨k, -, halike, -⟩ :=
    lowerModule_alike path body 0 (Nat.le_refl 0) a a' (Arena.AlikeFrom.refl a a')
  exact ⟨k, halike⟩

end ApiShapes
