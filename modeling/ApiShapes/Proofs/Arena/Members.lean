import ApiShapes.Proofs.Arena.WellFormed

/-!
# Object types list each member once

* `NodeKind.memberNodes` : the members that a declaration lists;
* `Arena.Orderly` : all object types list their members in the order of their places;
* `Arena.orderly_ofModules` : so they do in the arena of modules, and none is listed twice.
-/

namespace ApiShapes

def NodeKind.memberNodes : NodeKind → List NodeId
  | .interface _ _ _ members _ => members
  | .typeLiteral members => members
  | _ => []

/-- Each node stands before those behind it in the list. -/
def NodeId.Ascending (ids : List NodeId) : Prop := ids.Pairwise (·.index < ·.index)

namespace Arena

variable {a : Arena} {id : NodeId} {kind : NodeKind}

/-- All object types list their members in the order of their places. -/
def Orderly (a : Arena) : Prop :=
  ∀ id kind, a.kind? id = some kind → NodeId.Ascending kind.memberNodes

theorem orderly_empty : Orderly {} := by
  intro id kind h
  simp [kind?, get?] at h

theorem Orderly.push (h : a.Orderly) {parent : Option NodeId} (hleaf : kind.memberNodes = []) :
    (a.push ⟨parent, kind⟩).Orderly := by
  intro id found hid
  by_cases hlt : id.index < a.size
  · rw [(a.grows_push _).kind?_eq hlt] at hid
    exact h id found hid
  · obtain rfl : id = a.next := by
      have hsize := lt_size_of_kind? hid
      rw [size_push] at hsize
      exact congrArg NodeId.mk (show id.index = a.size by omega)
    rw [kind?_push_next] at hid
    obtain rfl := Option.some.inj hid
    rw [hleaf]
    exact .nil

theorem Orderly.fill (h : a.Orderly) (id : NodeId) (hkind : NodeId.Ascending kind.memberNodes) :
    (a.fill id kind).Orderly := by
  intro other found hfound
  by_cases heq : other = id
  · rw [heq, kind?, get?_fill_self, Option.map_map] at hfound
    obtain ⟨node, -, rfl⟩ := Option.map_eq_some_iff.1 hfound
    exact hkind
  · rw [kind?, get?_fill_of_ne kind heq] at hfound
    exact h other found hfound

end Arena

namespace Lowering

variable {α β : Type} {kind : NodeKind} {owner : NodeId}

/-- The steps add nodes and keep an arena orderly, and `post` holds of the number of nodes before, the
result and the number of nodes afterwards. -/
def Keeps (post : Nat → α → Nat → Prop) (m : Lowering α) : Prop :=
  ∀ a : Arena, a.Orderly →
    (m.run a).2.Orderly ∧ a.size ≤ (m.run a).2.size ∧ post a.size (m.run a).1 (m.run a).2.size

/-- Nothing is said about the result. -/
abbrev KeepsOrder (m : Lowering α) : Prop := Keeps (fun _ _ _ => True) m

/-- The result is a node that the steps have added. -/
abbrev AddsNode (m : Lowering NodeId) : Prop :=
  Keeps (fun before id after => before ≤ id.index ∧ id.index < after) m

/-- The results are nodes that the steps have added, in order. -/
abbrev AddsNodes (m : Lowering (List NodeId)) : Prop :=
  Keeps (fun before ids after => NodeId.Ascending ids ∧
    ∀ id ∈ ids, before ≤ id.index ∧ id.index < after) m

theorem Keeps.order {post : Nat → α → Nat → Prop} {m : Lowering α} (h : Keeps post m) :
    KeepsOrder m := by
  intro a ha
  obtain ⟨horderly, hsize, -⟩ := h a ha
  exact ⟨horderly, hsize, trivial⟩

theorem KeepsOrder.pure (x : α) : KeepsOrder (pure x) := fun _ ha => ⟨ha, Nat.le_refl _, trivial⟩

theorem KeepsOrder.bind {m : Lowering α} {f : α → Lowering β} (h : KeepsOrder m)
    (hf : ∀ x, KeepsOrder (f x)) : KeepsOrder (m >>= f) := by
  intro a ha
  obtain ⟨horderly, hsize, -⟩ := h a ha
  obtain ⟨horderly', hsize', -⟩ := hf (m.run a).1 (m.run a).2 horderly
  exact ⟨horderly', Nat.le_trans hsize hsize', trivial⟩

theorem KeepsOrder.mapM {f : β → Lowering α} (hf : ∀ x, KeepsOrder (f x)) (xs : List β) :
    KeepsOrder (xs.mapM f) := by
  induction xs with
  | nil =>
    rw [List.mapM_nil]
    exact .pure _
  | cons x xs ih =>
    rw [List.mapM_cons]
    exact (hf x).bind fun _ => ih.bind fun _ => .pure _

theorem KeepsOrder.fill {id : NodeId} {ids : List NodeId} {x : α} (hnodes : kind.memberNodes = ids)
    (hids : NodeId.Ascending ids) : KeepsOrder (Lowering.fill id kind >>= fun _ => Pure.pure x) := by
  intro a ha
  have hsize : (a.fill id kind).size = a.size := by simp
  exact ⟨ha.fill id (hnodes ▸ hids), Nat.le_of_eq hsize.symm, trivial⟩

theorem AddsNode.push {parent : Option NodeId} (hleaf : kind.memberNodes = []) :
    AddsNode (push parent kind) :=
  fun _ ha => ⟨ha.push hleaf, by simp, Nat.le_refl _, by simp [Arena.next]⟩

theorem KeepsOrder.push {parent : Option NodeId} (hleaf : kind.memberNodes = []) :
    KeepsOrder (Lowering.push parent kind) :=
  (AddsNode.push hleaf).order

theorem KeepsOrder.reserve {f : NodeId → Lowering β} (hf : ∀ id, KeepsOrder (f id)) :
    KeepsOrder (Lowering.reserve owner >>= f) :=
  (KeepsOrder.push rfl).bind hf

/-- A node that is reserved stands behind all that were there, whatever is added then. -/
theorem AddsNode.reserve {f : NodeId → Lowering NodeId} (hf : ∀ id, KeepsOrder (f id))
    (hresult : ∀ id a, ((f id).run a).1 = id) : AddsNode (reserve owner >>= f) := by
  intro a ha
  obtain ⟨horderly, hsize, -⟩ := hf a.next (a.push ⟨some owner, .otherMember⟩) (ha.push rfl)
  rw [Arena.size_push] at hsize
  refine ⟨horderly, Nat.le_of_succ_le hsize, ?_⟩
  show a.size ≤ ((f a.next).run _).1.index ∧ ((f a.next).run _).1.index < _
  rw [hresult]
  exact ⟨Nat.le_refl _, hsize⟩

theorem AddsNodes.nil : AddsNodes (Pure.pure []) :=
  fun _ ha => ⟨ha, Nat.le_refl _, .nil, List.forall_mem_nil _⟩

theorem AddsNodes.cons {m : Lowering NodeId} {rest : Lowering (List NodeId)} (h : AddsNode m)
    (hrest : AddsNodes rest) : AddsNodes (do return (← m) :: (← rest)) := by
  intro a ha
  obtain ⟨horderly, hsize, hle, hlt⟩ := h a ha
  obtain ⟨horderly', hsize', hascending, hadded⟩ := hrest (m.run a).2 horderly
  refine ⟨horderly', Nat.le_trans hsize hsize', List.pairwise_cons.2 ⟨fun id hid => ?_, hascending⟩, ?_⟩
  · exact Nat.lt_of_lt_of_le hlt (hadded id hid).1
  · refine List.forall_mem_cons.2 ⟨⟨hle, Nat.lt_of_lt_of_le hlt hsize'⟩, fun id hid => ?_⟩
    exact ⟨Nat.le_trans hsize (hadded id hid).1, (hadded id hid).2⟩

/-- What was added in order may be listed. -/
theorem AddsNodes.bind {m : Lowering (List NodeId)} {f : List NodeId → Lowering β} (h : AddsNodes m)
    (hf : ∀ ids, NodeId.Ascending ids → KeepsOrder (f ids)) : KeepsOrder (m >>= f) := by
  intro a ha
  obtain ⟨horderly, hsize, hascending, -⟩ := h a ha
  obtain ⟨horderly', hsize', -⟩ := hf (m.run a).1 hascending (m.run a).2 horderly
  exact ⟨horderly', Nat.le_trans hsize hsize', trivial⟩

end Lowering

open Lowering

/-! ## Phrases -/

mutual

theorem lowerType_keepsOrder (owner : NodeId) : ∀ type : TypeTree, KeepsOrder (lowerType owner type)
  | .keyword _ => .pure _
  | .literal _ => .pure _
  | .reference _ args => (lowerTypes_keepsOrder owner args).bind fun _ => .pure _
  | .array element => (lowerType_keepsOrder owner element).bind fun _ => .pure _
  | .union members => (lowerTypes_keepsOrder owner members).bind fun _ => .pure _
  | .intersection members => (lowerTypes_keepsOrder owner members).bind fun _ => .pure _
  | .object members =>
    .reserve fun id => (lowerMembers_addsNodes id members).bind fun _ hids =>
      .fill rfl hids
  | .function => .pure _
  | .unsupported _ => .pure _

theorem lowerTypes_keepsOrder (owner : NodeId) : ∀ types : List TypeTree,
    KeepsOrder (lowerTypes owner types)
  | [] => .pure _
  | type :: rest =>
    (lowerType_keepsOrder owner type).bind fun _ =>
      (lowerTypes_keepsOrder owner rest).bind fun _ => .pure _

theorem lowerType?_keepsOrder (owner : NodeId) : ∀ type : Option TypeTree,
    KeepsOrder (lowerType? owner type)
  | none => .pure _
  | some type => (lowerType_keepsOrder owner type).bind fun _ => .pure _

theorem lowerMember_addsNode (owner : NodeId) : ∀ member : MemberTree,
    AddsNode (lowerMember owner member)
  | .property _ _ type =>
    .reserve (fun id => (lowerType?_keepsOrder id type).bind fun _ =>
      .fill rfl .nil) fun _ _ => rfl
  | .method _ => .push rfl
  | .other => .push rfl

theorem lowerMembers_addsNodes (owner : NodeId) : ∀ members : List MemberTree,
    AddsNodes (lowerMembers owner members)
  | [] => .nil
  | member :: rest => .cons (lowerMember_addsNode owner member) (lowerMembers_addsNodes owner rest)

end

theorem lowerTypeParams_keepsOrder (owner : NodeId) (params : List (TypeParamOf TypeTree)) :
    KeepsOrder (lowerTypeParams owner params) := by
  have hparam : ∀ param : TypeParamOf TypeTree, KeepsOrder (do
      return ({ name := param.name, default := ← lowerType? owner param.default } : TypeParam)) :=
    fun param => (lowerType?_keepsOrder owner param.default).bind fun _ => .pure _
  exact .mapM hparam params

theorem lowerBases_keepsOrder (owner : NodeId) (bases : List (String × List TypeTree)) :
    KeepsOrder (lowerBases owner bases) := by
  have hbase : ∀ base : String × List TypeTree, KeepsOrder (do
      return TypeExpr.reference base.1 (← lowerTypes owner base.2)) :=
    fun base => (lowerTypes_keepsOrder owner base.2).bind fun _ => .pure _
  exact .mapM hbase bases

theorem lowerParam_keepsOrder (function : NodeId) (param : ParamTree) :
    KeepsOrder (lowerParam function param) :=
  .reserve fun id => (lowerType?_keepsOrder id param.type).bind fun _ =>
    .fill rfl .nil

theorem lowerFunction_keepsOrder (parent : NodeId) (name : Option String) (params : List ParamTree)
    (exported : Bool) : KeepsOrder (lowerFunction parent name params exported) :=
  .reserve fun id =>
    (KeepsOrder.mapM (lowerParam_keepsOrder id) params).bind fun _ =>
      .fill rfl .nil

mutual

theorem lowerExpr_keepsOrder (parent : NodeId) : ∀ value : ExprTree,
    KeepsOrder (lowerExpr parent value)
  | .ident _ => .pure _
  | .call callee args =>
    (lowerExpr_keepsOrder parent callee).bind fun _ =>
      (lowerExprs_keepsOrder parent args).bind fun _ => .pure _
  | .object properties => (lowerProperties_keepsOrder parent properties).bind fun _ => .pure _
  | .function name params =>
    (lowerFunction_keepsOrder parent name params false).bind fun _ => .pure _
  | .other => .pure _

theorem lowerExprs_keepsOrder (parent : NodeId) : ∀ values : List ExprTree,
    KeepsOrder (lowerExprs parent values)
  | [] => .pure _
  | value :: rest =>
    (lowerExpr_keepsOrder parent value).bind fun _ =>
      (lowerExprs_keepsOrder parent rest).bind fun _ => .pure _

theorem lowerProperties_keepsOrder (parent : NodeId) : ∀ properties : List (PropertyOf ExprTree),
    KeepsOrder (lowerProperties parent properties)
  | [] => .pure _
  | ⟨_, value⟩ :: rest =>
    (lowerExpr_keepsOrder parent value).bind fun _ =>
      (lowerProperties_keepsOrder parent rest).bind fun _ => .pure _

end

theorem lowerVariable_keepsOrder (file : NodeId) (exported : Bool) (declared : VariableTree) :
    KeepsOrder (lowerVariable file exported declared) := by
  obtain ⟨name, type, value⟩ := declared
  refine .reserve fun id => (lowerType?_keepsOrder id type).bind fun _ => ?_
  have hfill : ∀ kind : NodeKind, kind.memberNodes = [] →
      KeepsOrder (fill id kind >>= fun _ => pure id) :=
    fun kind hkind => .fill hkind .nil
  cases value with
  | none => exact (KeepsOrder.pure none).bind fun _ => hfill _ rfl
  | some value =>
    have hvalue : KeepsOrder (some <$> lowerExpr id value) :=
      (lowerExpr_keepsOrder id value).bind fun _ => .pure _
    exact hvalue.bind fun _ => hfill _ rfl

theorem lowerStatement_keepsOrder (file : NodeId) (statement : StatementTree) :
    KeepsOrder (lowerStatement file statement) := by
  cases statement with
  | imports specifier bindings =>
    exact (KeepsOrder.push rfl).bind fun _ => .mapM (fun _ => .push rfl) bindings
  | exports specifier names => exact .mapM (fun _ => .push rfl) names
  | exportAll specifier => exact (KeepsOrder.push rfl).bind fun _ => .pure _
  | exportDefault value =>
    exact .reserve fun id => (lowerExpr_keepsOrder id value).bind fun _ =>
      .fill rfl .nil
  | vars exported declared => exact .mapM (lowerVariable_keepsOrder file exported) declared
  | function exported name params =>
    exact (lowerFunction_keepsOrder file name params exported).bind fun _ => .pure _
  | typeAlias exported name params type =>
    exact .reserve fun id => (lowerTypeParams_keepsOrder id params).bind fun _ =>
      (lowerType_keepsOrder id type).bind fun _ => .fill rfl .nil
  | interface exported name params bases members =>
    exact .reserve fun id => (lowerTypeParams_keepsOrder id params).bind fun _ =>
      (lowerBases_keepsOrder id bases).bind fun _ =>
        (lowerMembers_addsNodes id members).bind fun _ hids =>
          .fill rfl hids

/-! ## Modules -/

namespace Arena

theorem Orderly.addModule {a : Arena} (h : a.Orderly) (path : Path) (body : List StatementTree) :
    (a.addModule path body).2.Orderly := by
  have hmodule : KeepsOrder (lowerModule path body) :=
    (KeepsOrder.push rfl).bind fun file =>
      (KeepsOrder.mapM (lowerStatement_keepsOrder file) body).bind fun _ =>
        .fill rfl .nil
  exact (hmodule a h).1

theorem orderly_ofModules (modules : List ParsedModule) : (ofModules modules).Orderly := by
  induction modules using List.reverseRecOn with
  | nil => exact orderly_empty
  | append_singleton modules module ih =>
    rw [ofModules_concat]
    exact ih.addModule module.1 module.2

end Arena

end ApiShapes
