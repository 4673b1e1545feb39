import ApiShapes.Proofs.Arena.Growth

/-!
# Lowering a phrase only adds nodes below its owner

* `Lowering.GrowsBelow owner m` : the steps `m` leave all nodes as they are and add nodes below
  `owner`;
* `Lowering.FillsIn K id m` : the same below the node `id`, which is filled in at the end;
* `lowerType_growsBelow` to `lowerStatement_growsBelow` : every function that lowers a phrase only adds
  nodes below its owner;
* `Arena.grows_addModule`, `Arena.get?_addModule`, `Arena.placed_addModule` : a module's nodes come
  behind all others, its own node first and the rest below it;
* `Arena.fileOf?_addModule` : the way up from each of them ends at the module.
-/

namespace ApiShapes

namespace Lowering

variable {α β : Type} {owner id : NodeId}

@[simp] theorem run_pure (x : α) (a : Arena) : (pure x : Lowering α).run a = (x, a) := rfl

@[simp] theorem run_bind (m : Lowering α) (f : α → Lowering β) (a : Arena) :
    (m >>= f).run a = (f (m.run a).1).run (m.run a).2 := rfl

@[simp] theorem run_push (parent : Option NodeId) (kind : NodeKind) (a : Arena) :
    (push parent kind).run a = (a.next, a.push ⟨parent, kind⟩) := rfl

@[simp] theorem run_fill (id : NodeId) (kind : NodeKind) (a : Arena) :
    (fill id kind).run a = ((), a.fill id kind) := rfl

/-- The steps add nodes below `owner` and leave all others as they are. -/
def GrowsBelow (owner : NodeId) (m : Lowering α) : Prop :=
  ∀ a : Arena, owner.index < a.size → a.GrowsBelow owner (m.run a).2

theorem GrowsBelow.pure (x : α) : GrowsBelow owner (pure x) := fun a _ => .refl owner a

theorem GrowsBelow.bind {m : Lowering α} {f : α → Lowering β} (h : GrowsBelow owner m)
    (hf : ∀ x, GrowsBelow owner (f x)) : GrowsBelow owner (m >>= f) := by
  intro a howner
  have hm := h a howner
  exact hm.trans (hf _ _ (Nat.lt_of_lt_of_le howner hm.grows.size_le)) (Or.inl rfl)

theorem GrowsBelow.push {kind : NodeKind} (hk : kind.FitsAnywhere) :
    GrowsBelow owner (push (some owner) kind) :=
  fun _ howner => Arena.growsBelow_push howner (hk _)

theorem GrowsBelow.mapM {f : α → Lowering β} (hf : ∀ x, GrowsBelow owner (f x)) (xs : List α) :
    GrowsBelow owner (xs.mapM f) := by
  induction xs with
  | nil => exact .pure []
  | cons x rest ih =>
    rw [List.mapM_cons]
    exact (hf x).bind fun _ => ih.bind fun _ => .pure _

variable {K : NodeKind → Prop}

/-- The steps add nodes below the node `id`, which they fill in last. -/
def FillsIn (K : NodeKind → Prop) (id : NodeId) (m : Lowering α) : Prop :=
  ∀ a : Arena, a.NoImport id → a.FilledIn K id (m.run a).2

theorem FillsIn.fill {kind : NodeKind} (hk : K kind) (x : α) :
    FillsIn K id (fill id kind >>= fun _ => Pure.pure x) :=
  fun _ _ => Arena.filledIn_fill hk

theorem FillsIn.bind {m : Lowering α} {f : α → Lowering β} (h : GrowsBelow id m)
    (hf : ∀ x, FillsIn K id (f x)) : FillsIn K id (m >>= f) := by
  intro a hid
  have hm := h a hid.lt_size
  exact hm.filledIn hid (hf _ _ (hid.grows hm.grows))

/-- The steps reserve a node below `owner`, fill it in, and return `result` of its place. -/
def Reserves (K : NodeKind → Prop) (owner : NodeId) (result : NodeId → β) (m : Lowering β) : Prop :=
  ∀ a : Arena, (m.run a).1 = result a.next ∧
    (a.push ⟨some owner, .otherMember⟩).FilledIn K a.next (m.run a).2

theorem Reserves.intro {result : NodeId → β} {f : NodeId → Lowering β}
    (hf : ∀ id, FillsIn K id (f id)) (hresult : ∀ id a, ((f id).run a).1 = result id) :
    Reserves K owner result (reserve owner >>= f) := by
  intro a
  refine ⟨hresult a.next _, hf a.next _ ⟨.otherMember, ?_, fun _ => NodeKind.noConfusion⟩⟩
  simp [Arena.kind?]

theorem Reserves.growsBelow {result : NodeId → β} {m : Lowering β}
    (h : Reserves NodeKind.IsPlain owner result m) : GrowsBelow owner m :=
  fun a howner => (h a).2.growsBelow howner fun _ hk => hk.fitsAnywhere

/-- What has become of the reserved node. -/
theorem Reserves.kind? {result : NodeId → β} {m : Lowering β} (h : Reserves K owner result m)
    (a : Arena) : ∃ kind, (m.run a).2.kind? a.next = some kind ∧ K kind := by
  obtain ⟨kind, hget, hk⟩ := (h a).2.filled
  exact ⟨kind, by rw [Arena.kind?, hget]; simp, hk⟩

end Lowering

open Lowering

/-! ## Types -/

mutual

theorem lowerType_growsBelow (owner : NodeId) : ∀ type : TypeTree,
    GrowsBelow owner (lowerType owner type)
  | .keyword _ => .pure _
  | .literal _ => .pure _
  | .reference _ args => (lowerTypes_growsBelow owner args).bind fun _ => .pure _
  | .array element => (lowerType_growsBelow owner element).bind fun _ => .pure _
  | .union members => (lowerTypes_growsBelow owner members).bind fun _ => .pure _
  | .intersection members => (lowerTypes_growsBelow owner members).bind fun _ => .pure _
  | .object members =>
    have h : Reserves NodeKind.IsPlain owner TypeExpr.object (lowerType owner (.object members)) :=
      .intro (fun id => .bind (lowerMembers_growsBelow id members) fun _ => .fill trivial _)
        fun _ _ => rfl
    h.growsBelow
  | .function => .pure _
  | .unsupported _ => .pure _

theorem lowerTypes_growsBelow (owner : NodeId) : ∀ types : List TypeTree,
    GrowsBelow owner (lowerTypes owner types)
  | [] => .pure _
  | type :: rest =>
    (lowerType_growsBelow owner type).bind fun _ =>
      (lowerTypes_growsBelow owner rest).bind fun _ => .pure _

theorem lowerType?_growsBelow (owner : NodeId) : ∀ type : Option TypeTree,
    GrowsBelow owner (lowerType? owner type)
  | none => .pure _
  | some type => (lowerType_growsBelow owner type).bind fun _ => .pure _

theorem lowerMember_growsBelow (owner : NodeId) : ∀ member : MemberTree,
    GrowsBelow owner (lowerMember owner member)
  | .property name optional type =>
    have h : Reserves NodeKind.IsPlain owner id (lowerMember owner (.property name optional type)) :=
      .intro (fun id => .bind (lowerType?_growsBelow id type) fun _ => .fill trivial _) fun _ _ => rfl
    h.growsBelow
  | .method _ => .push fun _ => trivial
  | .other => .push fun _ => trivial

theorem lowerMembers_growsBelow (owner : NodeId) : ∀ members : List MemberTree,
    GrowsBelow owner (lowerMembers owner members)
  | [] => .pure _
  | member :: rest =>
    (lowerMember_growsBelow owner member).bind fun _ =>
      (lowerMembers_growsBelow owner rest).bind fun _ => .pure _

end

theorem lowerTypeParams_growsBelow (owner : NodeId) (params : List (TypeParamOf TypeTree)) :
    GrowsBelow owner (lowerTypeParams owner params) := by
  unfold lowerTypeParams
  exact .mapM (fun param => (lowerType?_growsBelow owner param.default).bind fun _ => .pure _) params

theorem lowerBases_growsBelow (owner : NodeId) (bases : List (String × List TypeTree)) :
    GrowsBelow owner (lowerBases owner bases) := by
  unfold lowerBases
  exact .mapM (fun base => (lowerTypes_growsBelow owner base.2).bind fun _ => .pure _) bases

/-! ## Functions and expressions -/

theorem lowerParam_reserves (function : NodeId) (param : ParamTree) :
    Reserves NodeKind.IsPlain function id (lowerParam function param) :=
  .intro (fun id => .bind (lowerType?_growsBelow id param.type) fun _ => .fill trivial _)
    fun _ _ => rfl

theorem lowerFunction_reserves (parent : NodeId) (name : Option String) (params : List ParamTree)
    (exported : Bool) :
    Reserves NodeKind.IsPlain parent id (lowerFunction parent name params exported) :=
  .intro (fun id => .bind (.mapM (fun param => (lowerParam_reserves id param).growsBelow) params)
    fun _ => .fill trivial _) fun _ _ => rfl

mutual

theorem lowerExpr_growsBelow (parent : NodeId) : ∀ value : ExprTree,
    GrowsBelow parent (lowerExpr parent value)
  | .ident _ => .pure _
  | .call callee args =>
    (lowerExpr_growsBelow parent callee).bind fun _ =>
      (lowerExprs_growsBelow parent args).bind fun _ => .pure _
  | .object properties => (lowerProperties_growsBelow parent properties).bind fun _ => .pure _
  | .function name params =>
    (lowerFunction_reserves parent name params false).growsBelow.bind fun _ => .pure _
  | .other => .pure _

theorem lowerExprs_growsBelow (parent : NodeId) : ∀ values : List ExprTree,
    GrowsBelow parent (lowerExprs parent values)
  | [] => .pure _
  | value :: rest =>
    (lowerExpr_growsBelow parent value).bind fun _ =>
      (lowerExprs_growsBelow parent rest).bind fun _ => .pure _

theorem lowerProperties_growsBelow (parent : NodeId) : ∀ properties : List (PropertyOf ExprTree),
    GrowsBelow parent (lowerProperties parent properties)
  | [] => .pure _
  | ⟨_, value⟩ :: rest =>
    (lowerExpr_growsBelow parent value).bind fun _ =>
      (lowerProperties_growsBelow parent rest).bind fun _ => .pure _

end

/-! ## Statements -/

theorem lowerVariable_reserves (file : NodeId) (exported : Bool) (declared : VariableTree) :
    Reserves NodeKind.IsPlain file id (lowerVariable file exported declared) := by
  obtain ⟨name, type, value⟩ := declared
  cases value with
  | none =>
    exact .intro (fun id => .bind (lowerType?_growsBelow id type) fun _ =>
      .bind (.pure none) fun _ => .fill trivial _) fun _ _ => rfl
  | some value =>
    exact .intro (fun id => .bind (lowerType?_growsBelow id type) fun _ =>
      .bind ((lowerExpr_growsBelow id value).bind fun _ => .pure _) fun _ => .fill trivial _)
      fun _ _ => rfl

theorem exportDefault_reserves (file : NodeId) (value : ExprTree) :
    Reserves NodeKind.IsPlain file ([·]) (lowerStatement file (.exportDefault value)) :=
  .intro (fun id => .bind (lowerExpr_growsBelow id value) fun _ => .fill trivial _) fun _ _ => rfl

theorem typeAlias_reserves (file : NodeId) (exported : Bool) (name : String)
    (params : List (TypeParamOf TypeTree)) (type : TypeTree) :
    Reserves NodeKind.IsPlain file ([·])
      (lowerStatement file (.typeAlias exported name params type)) :=
  .intro (fun id => .bind (lowerTypeParams_growsBelow id params) fun _ =>
    .bind (lowerType_growsBelow id type) fun _ => .fill trivial _) fun _ _ => rfl

theorem interface_reserves (file : NodeId) (exported : Bool) (name : String)
    (params : List (TypeParamOf TypeTree)) (bases : List (String × List TypeTree))
    (members : List MemberTree) :
    Reserves NodeKind.IsPlain file ([·])
      (lowerStatement file (.interface exported name params bases members)) :=
  .intro (fun id => .bind (lowerTypeParams_growsBelow id params) fun _ =>
    .bind (lowerBases_growsBelow id bases) fun _ =>
      .bind (lowerMembers_growsBelow id members) fun _ => .fill trivial _) fun _ _ => rfl

/-- Bindings may be added below an import. -/
theorem mapM_binding_growsBelow {id : NodeId} {specifier : String}
    (bindings : List (String × Imported)) (a : Arena) (hid : a.kind? id = some (.imports specifier)) :
    a.GrowsBelow id ((bindings.mapM fun (localName, imported) =>
      push (some id) (.binding localName imported)).run a).2 := by
  induction bindings generalizing a with
  | nil => exact .refl id a
  | cons binding rest ih =>
    have hpush : a.GrowsBelow id (a.push ⟨some id, .binding binding.1 binding.2⟩) :=
      Arena.growsBelow_push (Arena.lt_size_of_kind? hid) ⟨specifier, hid⟩
    rw [List.mapM_cons]
    exact hpush.trans (ih _ (hpush.grows.kind? hid)) (Or.inl rfl)

theorem lowerStatement_growsBelow (file : NodeId) (statement : StatementTree) :
    GrowsBelow file (lowerStatement file statement) := by
  cases statement with
  | imports specifier bindings =>
    intro a hfile
    have hpush : a.GrowsBelow file (a.push ⟨some file, .imports specifier⟩) :=
      Arena.growsBelow_push hfile trivial
    have hid : (a.push ⟨some file, .imports specifier⟩).kind? a.next = some (.imports specifier) := by
      simp [Arena.kind?]
    exact hpush.trans (mapM_binding_growsBelow bindings _ hid) (Or.inr (Nat.le_refl _))
  | exports specifier names => exact .mapM (fun _ => .push (by intro _; trivial)) names
  | exportAll specifier => exact .bind (.push (by intro _; trivial)) fun _ => .pure _
  | exportDefault value => exact (exportDefault_reserves file value).growsBelow
  | vars exported declared =>
    exact .mapM (fun item => (lowerVariable_reserves file exported item).growsBelow) declared
  | function exported name params =>
    exact (lowerFunction_reserves file name params exported).growsBelow.bind fun _ => .pure _
  | typeAlias exported name params type =>
    exact (typeAlias_reserves file exported name params type).growsBelow
  | interface exported name params bases members =>
    exact (interface_reserves file exported name params bases members).growsBelow

/-! ## Modules -/

namespace Arena

variable (a : Arena) (path : Path) (body : List StatementTree)

theorem addModule_filledIn : FilledIn (fun kind => ∃ statements, kind = .sourceFile path statements)
    a.next (a.push ⟨none, .sourceFile path []⟩) (a.addModule path body).2 := by
  have hmodule : (a.push ⟨none, .sourceFile path []⟩).NoImport a.next :=
    ⟨.sourceFile path [], by simp [kind?], fun _ => NodeKind.noConfusion⟩
  have h : FillsIn (fun kind => ∃ statements, kind = .sourceFile path statements) a.next (do
      let statements ← body.mapM (lowerStatement a.next)
      Lowering.fill a.next (.sourceFile path statements.flatten)
      return a.next) :=
    .bind (.mapM (lowerStatement_growsBelow a.next) body) fun _ => .fill ⟨_, rfl⟩ _
  exact h _ hmodule

theorem addModule_fst : (a.addModule path body).1 = a.next := rfl

theorem grows_addModule : a.Grows (a.addModule path body).2 := by
  have h := a.addModule_filledIn path body
  have hsize := size_push a ⟨none, .sourceFile path []⟩
  refine ⟨by have := h.size_le; omega, fun id hid => ?_⟩
  have hne : id ≠ a.next := by rintro rfl; exact Nat.lt_irrefl _ hid
  rw [h.get?_eq id hne (by omega), get?_push_of_lt _ hid]

/-- The first of a module's nodes is its own. -/
theorem get?_addModule : ∃ statements,
    (a.addModule path body).2.get? a.next = some ⟨none, .sourceFile path statements⟩ := by
  obtain ⟨kind, hget, statements, rfl⟩ := (a.addModule_filledIn path body).filled
  exact ⟨statements, by simpa using hget⟩

theorem next_lt_addModule : a.next.index < (a.addModule path body).2.size := by
  obtain ⟨statements, h⟩ := a.get?_addModule path body
  exact lt_size_of_get? h

/-- All further nodes of a module stand below one of its nodes. -/
theorem placed_addModule {id : NodeId} (hle : a.size < id.index)
    (hlt : id.index < (a.addModule path body).2.size) :
    (a.addModule path body).2.Placed a.next a.size id :=
  ((a.addModule_filledIn path body).placed id (by rwa [size_push]) hlt).mono (Or.inl rfl) (by simp)

variable {a path body}

/-- The way up from a node of a module ends at the module, also when more nodes follow. -/
theorem fileOf?_addModule {b : Arena} (hgrows : (a.addModule path body).2.Grows b) {id : NodeId}
    (hle : a.size ≤ id.index) (hlt : id.index < (a.addModule path body).2.size) :
    b.fileOf? id = some a.next := by
  induction hn : id.index using Nat.strongRecOn generalizing id with
  | ind n ih =>
    rcases Nat.eq_or_lt_of_le hle with heq | hgt
    · obtain ⟨statements, hfile⟩ := a.get?_addModule path body
      obtain rfl : id = a.next := congrArg NodeId.mk heq.symm
      exact findUp_eq_some (hgrows.get? hfile) rfl
    · obtain ⟨parent, kind, hget, hup, hparent, hfits⟩ :=
        (a.placed_addModule path body hgt hlt).grows hgrows
      have hle' : a.size ≤ parent.index := by
        rcases hparent with rfl | hle'
        · exact Nat.le_refl _
        · exact hle'
      have hfile := ih parent.index (hn ▸ hup) hle' (Nat.lt_trans hup hlt) rfl
      rw [fileOf?, findUp_eq_parent hget hup]
      · exact hfile
      · cases kind <;> first | rfl | exact hfits.elim

end Arena

end ApiShapes
