import ApiShapes.Proofs.Arena.Pointers

/-!
# The nodes of modules

* `Lowering.Yields`, `Lowering.Fills` : steps that keep an arena sound and give pointers that hold;
* `lowerType_yields` to `lowerStatement_yields` : so do all functions that lower a phrase;
* `Arena.Sound.addModule` : so does a module.
-/

namespace ApiShapes

/-! ## Steps -/

namespace Lowering

variable {α β : Type} {owner id : NodeId} {held : List Pointer} {pointers : α → List Pointer}
  {results : β → List Pointer} {role : Role} {kind : NodeKind}

/-- While the pointers `held` of the node `owner` hold, the steps add nodes, keep the arena sound and
give a result whose pointers are those of `owner`. -/
def Yields (owner : NodeId) (held : List Pointer) (pointers : α → List Pointer) (m : Lowering α) :
    Prop :=
  ∀ a : Arena, owner.index < a.size → a.Sound → (∀ pointer ∈ held, a.Points owner pointer) →
    a.Grows (m.run a).2 ∧ (m.run a).2.Sound ∧
      ∀ pointer ∈ pointers (m.run a).1, (m.run a).2.Points owner pointer

theorem Yields.pure {x : α} (h : pointers x = held) : Yields owner held pointers (pure x) :=
  fun a _ hsound hheld => ⟨.refl a, hsound, h ▸ hheld⟩

theorem Yields.bind {m : Lowering α} {f : α → Lowering β} (h : Yields owner [] pointers m)
    (hf : ∀ x, Yields owner (held ++ pointers x) results (f x)) :
    Yields owner held results (m >>= f) := by
  intro a howner hsound hheld
  obtain ⟨hgrows, hsound', hpoints⟩ := h a howner hsound (by simp)
  obtain ⟨hgrows', hrest⟩ := hf (m.run a).1 (m.run a).2
    (Nat.lt_of_lt_of_le howner hgrows.size_le) hsound' (hgrows.points_append hheld hpoints)
  exact ⟨hgrows.trans hgrows', hrest⟩

theorem Yields.mapM {f : β → Lowering α} (hf : ∀ x, Yields owner [] pointers (f x)) (xs : List β) :
    Yields owner [] (fun ys => ys.flatMap pointers) (xs.mapM f) := by
  induction xs with
  | nil =>
    rw [List.mapM_nil]
    exact .pure rfl
  | cons x rest ih =>
    rw [List.mapM_cons]
    exact (hf x).bind fun _ => ih.bind fun _ => .pure rfl

/-- Nodes that are added one by one can be listed together. -/
theorem Yields.list {f : β → Lowering NodeId}
    (hf : ∀ x, Yields owner [] (fun id => [⟨.listed, id⟩]) (f x)) (xs : List β) :
    Yields owner [] NodeId.pointers (xs.mapM f) := by
  rw [show NodeId.pointers = fun ids => ids.flatMap fun id => [⟨.listed, id⟩] from
    funext fun ids => List.map_eq_flatMap]
  exact .mapM hf xs

/-- A new node below `owner` can be listed there. -/
theorem Yields.push (hleaf : kind.pointers = []) :
    Yields owner [] (fun id => [⟨.listed, id⟩]) (push (some owner) kind) := by
  intro a _ hsound _
  refine ⟨a.grows_push _, hsound.push hleaf, fun pointer hpointer => ?_⟩
  obtain rfl := List.mem_singleton.1 hpointer
  exact Arena.points_push trivial

/-- What a new node below `owner` points at stands below `owner`, too. -/
theorem Yields.below {f : NodeId → Lowering β} (hleaf : kind.pointers = [])
    (hf : ∀ id, Yields id [] results (f id)) :
    Yields owner [] results (Lowering.push (some owner) kind >>= f) := by
  intro a _ hsound _
  have hnew : a.next.index < (a.push ⟨some owner, kind⟩).size := by simp [Arena.next]
  obtain ⟨hgrows, hsound', hpoints⟩ := hf a.next _ hnew (hsound.push hleaf) (by simp)
  refine ⟨(a.grows_push _).trans hgrows, hsound', fun pointer hpointer => ?_⟩
  exact ((a.below_push owner kind).grows hgrows).points (hpoints pointer hpointer)

/-- While the pointers `held` of the open node `id` hold, the steps fill it in, add nodes and keep the
arena sound. The node can be in the role then. -/
def Fills (role : Role) (id : NodeId) (held : List Pointer) (m : Lowering α) : Prop :=
  ∀ a : Arena, a.Open id → a.Sound → (∀ pointer ∈ held, a.Points id pointer) →
    ∃ kind, role.Fits kind ∧ (a.fill id kind).Grows (m.run a).2 ∧ (m.run a).2.Sound

theorem Fills.fill {x : α} (hpointers : kind.pointers = held) (hfits : role.Fits kind) :
    Fills role id held (Lowering.fill id kind >>= fun _ => Pure.pure x) :=
  fun _ hid hsound hheld => ⟨kind, hfits, .refl _, hsound.fill hid (hpointers ▸ hheld)⟩

theorem Fills.bind {m : Lowering α} {f : α → Lowering β} (h : Yields id [] pointers m)
    (hf : ∀ x, Fills role id (held ++ pointers x) (f x)) : Fills role id held (m >>= f) := by
  intro a hid hsound hheld
  have ⟨before, hbefore, _⟩ := hid
  have hlt : id.index < a.size := Arena.lt_size_of_kind? hbefore
  obtain ⟨hgrows, hsound', hpoints⟩ := h a hlt hsound (by simp)
  obtain ⟨kind, hfits, hgrows', hsound''⟩ := hf (m.run a).1 (m.run a).2 (hid.grows hgrows) hsound'
    (hgrows.points_append hheld hpoints)
  exact ⟨kind, hfits, (hgrows.fill hlt kind).trans hgrows', hsound''⟩

/-- A node that is reserved below `owner` and filled in is one that `owner` may point at. -/
theorem Yields.reserve (role : Role) {f : NodeId → Lowering β} (hf : ∀ id, Fills role id [] (f id))
    (hresult : ∀ id arena, results ((f id).run arena).1 = [⟨role, id⟩]) :
    Yields owner [] results (reserve owner >>= f) := by
  intro a _ hsound _
  have hopen : (a.push ⟨some owner, .otherMember⟩).Open a.next :=
    Arena.open_push (by rintro (_ | _ | _) h <;> simp_all [Role.Fits])
  obtain ⟨kind, hfits, hgrows, hsound'⟩ := hf a.next _ hopen (hsound.push rfl) (by simp)
  rw [Arena.fill_push_next] at hgrows
  refine ⟨(a.grows_push _).trans hgrows, hsound', fun pointer hpointer => ?_⟩
  obtain rfl := List.mem_singleton.1 ((hresult a.next _).symm ▸ hpointer)
  exact (Arena.points_push hfits).grows hgrows

end Lowering

open Lowering

/-! ## Types -/

mutual

theorem lowerType_yields (owner : NodeId) : ∀ type : TypeTree,
    Yields owner [] TypeExpr.pointers (lowerType owner type)
  | .keyword _ => .pure rfl
  | .literal _ => .pure rfl
  | .reference _ args => (lowerTypes_yields owner args).bind fun _ => .pure rfl
  | .array element => (lowerType_yields owner element).bind fun _ => .pure rfl
  | .union members => (lowerTypes_yields owner members).bind fun _ => .pure rfl
  | .intersection members => (lowerTypes_yields owner members).bind fun _ => .pure rfl
  | .object members =>
    .reserve .object (fun id => .bind (lowerMembers_yields id members) fun ids =>
      .fill rfl ⟨ids, rfl⟩) fun _ _ => rfl
  | .function => .pure rfl
  | .unsupported _ => .pure rfl

theorem lowerTypes_yields (owner : NodeId) : ∀ types : List TypeTree,
    Yields owner [] TypeExpr.allPointers (lowerTypes owner types)
  | [] => .pure rfl
  | type :: rest =>
    (lowerType_yields owner type).bind fun _ =>
      (lowerTypes_yields owner rest).bind fun _ => .pure rfl

theorem lowerType?_yields (owner : NodeId) : ∀ type : Option TypeTree,
    Yields owner [] TypeExpr.pointers? (lowerType? owner type)
  | none => .pure rfl
  | some type => (lowerType_yields owner type).bind fun _ => .pure rfl

theorem lowerMember_yields (owner : NodeId) : ∀ member : MemberTree,
    Yields owner [] (fun id => [⟨.listed, id⟩]) (lowerMember owner member)
  | .property _ _ type =>
    .reserve .listed (fun id => .bind (lowerType?_yields id type) fun _ => .fill rfl trivial)
      fun _ _ => rfl
  | .method _ => .push rfl
  | .other => .push rfl

theorem lowerMembers_yields (owner : NodeId) : ∀ members : List MemberTree,
    Yields owner [] NodeId.pointers (lowerMembers owner members)
  | [] => .pure rfl
  | member :: rest =>
    (lowerMember_yields owner member).bind fun _ =>
      (lowerMembers_yields owner rest).bind fun _ => .pure rfl

end

theorem lowerTypeParams_yields (owner : NodeId) (params : List (TypeParamOf TypeTree)) :
    Yields owner [] TypeParamOf.pointers (lowerTypeParams owner params) := by
  have hparam : ∀ param : TypeParamOf TypeTree,
      Yields owner [] (fun param : TypeParam => TypeExpr.pointers? param.default) (do
        return { name := param.name, default := ← lowerType? owner param.default }) :=
    fun param => (lowerType?_yields owner param.default).bind fun _ => .pure rfl
  exact .mapM hparam params

theorem lowerBases_yields (owner : NodeId) (bases : List (String × List TypeTree)) :
    Yields owner [] TypeExpr.allPointers (lowerBases owner bases) := by
  have hbase : ∀ base : String × List TypeTree, Yields owner [] TypeExpr.pointers (do
      return .reference base.1 (← lowerTypes owner base.2)) :=
    fun base => (lowerTypes_yields owner base.2).bind fun _ => .pure rfl
  rw [funext TypeExpr.allPointers_eq]
  exact .mapM hbase bases

/-! ## Functions and expressions -/

theorem lowerParam_yields (function : NodeId) (param : ParamTree) :
    Yields function [] (fun id => [⟨.listed, id⟩]) (lowerParam function param) :=
  .reserve .listed (fun id => .bind (lowerType?_yields id param.type) fun _ => .fill rfl trivial)
    fun _ _ => rfl

/-- A function can be listed, and be the function of an expression. -/
theorem lowerFunction_yields (role : Role) (hrole : role ≠ .object) (parent : NodeId)
    (name : Option String) (params : List ParamTree) (exported : Bool) :
    Yields parent [] (fun id => [⟨role, id⟩]) (lowerFunction parent name params exported) := by
  refine .reserve role (fun id => .bind (.list (lowerParam_yields id) params) fun ids =>
    .fill rfl ?_) fun _ _ => rfl
  cases role with
  | listed => trivial
  | object => exact absurd rfl hrole
  | function => exact ⟨name, ids, exported, rfl⟩

mutual

theorem lowerExpr_yields (parent : NodeId) : ∀ value : ExprTree,
    Yields parent [] Expr.pointers (lowerExpr parent value)
  | .ident _ => .pure rfl
  | .call callee args =>
    (lowerExpr_yields parent callee).bind fun _ =>
      (lowerExprs_yields parent args).bind fun _ => .pure rfl
  | .object properties =>
    (lowerProperties_yields parent properties).bind fun _ => .pure rfl
  | .function name params =>
    (lowerFunction_yields .function (by decide) parent name params false).bind fun _ =>
      .pure rfl
  | .other => .pure rfl

theorem lowerExprs_yields (parent : NodeId) : ∀ values : List ExprTree,
    Yields parent [] Expr.allPointers (lowerExprs parent values)
  | [] => .pure rfl
  | value :: rest =>
    (lowerExpr_yields parent value).bind fun _ =>
      (lowerExprs_yields parent rest).bind fun _ => .pure rfl

theorem lowerProperties_yields (parent : NodeId) : ∀ properties : List (PropertyOf ExprTree),
    Yields parent [] Expr.propertyPointers (lowerProperties parent properties)
  | [] => .pure rfl
  | ⟨_, value⟩ :: rest =>
    (lowerExpr_yields parent value).bind fun _ =>
      (lowerProperties_yields parent rest).bind fun _ => .pure rfl

end

/-! ## Statements -/

theorem lowerVariable_yields (file : NodeId) (exported : Bool) (declared : VariableTree) :
    Yields file [] (fun id => [⟨.listed, id⟩]) (lowerVariable file exported declared) := by
  obtain ⟨name, type, value⟩ := declared
  cases value with
  | none =>
    have hvalue : ∀ id, Yields id [] Expr.pointers? (pure none) := fun _ => .pure rfl
    exact .reserve .listed (fun id => .bind (lowerType?_yields id type) fun _ =>
      .bind (hvalue id) fun _ => .fill rfl trivial) fun _ _ => rfl
  | some value =>
    have hvalue : ∀ id, Yields id [] Expr.pointers? (some <$> lowerExpr id value) :=
      fun id => (lowerExpr_yields id value).bind fun _ => .pure rfl
    exact .reserve .listed (fun id => .bind (lowerType?_yields id type) fun _ =>
      .bind (hvalue id) fun _ => .fill rfl trivial) fun _ _ => rfl

theorem lowerStatement_yields (file : NodeId) (statement : StatementTree) :
    Yields file [] NodeId.pointers (lowerStatement file statement) := by
  cases statement with
  | imports specifier bindings => exact .below rfl fun id => .list (fun binding => .push rfl) bindings
  | exports specifier names => exact .list (fun name => .push rfl) names
  | exportAll specifier => exact (Yields.push rfl).bind fun _ => .pure rfl
  | exportDefault value =>
    exact .reserve .listed (fun id => .bind (lowerExpr_yields id value) fun _ => .fill rfl trivial)
      fun _ _ => rfl
  | vars exported declared => exact .list (lowerVariable_yields file exported) declared
  | function exported name params =>
    exact (lowerFunction_yields .listed (by decide) file name params exported).bind fun _ => .pure rfl
  | typeAlias exported name params type =>
    exact .reserve .listed (fun id => .bind (lowerTypeParams_yields id params) fun _ =>
      .bind (lowerType_yields id type) fun _ => .fill rfl trivial) fun _ _ => rfl
  | interface exported name params bases members =>
    exact .reserve .listed (fun id => .bind (lowerTypeParams_yields id params) fun _ =>
      .bind (lowerBases_yields id bases) fun _ =>
        .bind (lowerMembers_yields id members) fun _ => .fill rfl trivial) fun _ _ => rfl

/-! ## Modules -/

namespace Arena

theorem Sound.addModule {a : Arena} (h : a.Sound) (path : Path) (body : List StatementTree) :
    (a.addModule path body).2.Sound := by
  have hstatements : Yields a.next [] (fun listed => NodeId.pointers listed.flatten)
      (body.mapM (lowerStatement a.next)) := by
    rw [show (fun listed : List (List NodeId) => NodeId.pointers listed.flatten) =
        fun listed => listed.flatMap NodeId.pointers from funext fun listed => List.map_flatten]
    exact .mapM (lowerStatement_yields a.next) body
  have hfills : Fills .listed a.next [] (do
      let listed ← body.mapM (lowerStatement a.next)
      Lowering.fill a.next (.sourceFile path listed.flatten)
      return a.next) :=
    .bind hstatements fun _ => .fill rfl trivial
  have hopen : (a.push ⟨none, .sourceFile path []⟩).Open a.next :=
    open_push (by rintro (_ | _ | _) h <;> simp_all [Role.Fits])
  obtain ⟨_, -, -, hsound⟩ := hfills _ hopen (h.push rfl) (by simp)
  exact hsound

end Arena

end ApiShapes
