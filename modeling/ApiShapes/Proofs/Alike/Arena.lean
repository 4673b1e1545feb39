import ApiShapes.Program.Names
import ApiShapes.Proofs.Alike.Relators

/-!
# Nodes that differ in their places only

For a relation `r` between the places of two arenas:

* `TypeExpr.Alike r`, `Expr.Alike r` : both are the same but for the nodes they point at, which `r`
  relates;
* `NodeKind.Alike r`, `Node.Alike r` : the same for nodes;
* `TypeExpr.Alike.mono` and the like : a larger relation keeps this so.
-/

namespace ApiShapes

variable {r s : NodeId → NodeId → Prop}

inductive TypeParamOf.Alike {α : Type} (R : α → α → Prop) : TypeParamOf α → TypeParamOf α → Prop
  | intro (name : String) {default default' : Option α} (h : Option.Rel R default default') :
      Alike R ⟨name, default⟩ ⟨name, default'⟩

inductive PropertyOf.Alike {α : Type} (R : α → α → Prop) : PropertyOf α → PropertyOf α → Prop
  | intro (key : Option String) {value value' : α} (h : R value value') :
      Alike R ⟨key, value⟩ ⟨key, value'⟩

/-- The type expressions point at related object types and are the same otherwise. -/
inductive TypeExpr.Alike (r : NodeId → NodeId → Prop) : TypeExpr → TypeExpr → Prop
  | keyword (word : Keyword) : Alike r (.keyword word) (.keyword word)
  | literal (value : Literal) : Alike r (.literal value) (.literal value)
  | reference (name : String) {args args' : List TypeExpr} (h : List.Forall₂ (Alike r) args args') :
      Alike r (.reference name args) (.reference name args')
  | array {element element' : TypeExpr} (h : Alike r element element') :
      Alike r (.array element) (.array element')
  | union {members members' : List TypeExpr} (h : List.Forall₂ (Alike r) members members') :
      Alike r (.union members) (.union members')
  | intersection {members members' : List TypeExpr} (h : List.Forall₂ (Alike r) members members') :
      Alike r (.intersection members) (.intersection members')
  | object {literal literal' : NodeId} (h : r literal literal') :
      Alike r (.object literal) (.object literal')
  | function : Alike r .function .function
  | unsupported (form : String) : Alike r (.unsupported form) (.unsupported form)

/-- The expressions point at related functions and are the same otherwise. -/
inductive Expr.Alike (r : NodeId → NodeId → Prop) : Expr → Expr → Prop
  | ident (name : String) : Alike r (.ident name) (.ident name)
  | call {callee callee' : Expr} {args args' : List Expr} (hcallee : Alike r callee callee')
      (hargs : List.Forall₂ (Alike r) args args') : Alike r (.call callee args) (.call callee' args')
  | object {properties properties' : List ObjectProperty}
      (h : List.Forall₂ (PropertyOf.Alike (Alike r)) properties properties') :
      Alike r (.object properties) (.object properties')
  | function {node node' : NodeId} (h : r node node') : Alike r (.function node) (.function node')
  | other : Alike r .other .other

/-- The declarations point at related nodes and are the same otherwise. -/
inductive NodeKind.Alike (r : NodeId → NodeId → Prop) : NodeKind → NodeKind → Prop
  | sourceFile (path : Path) {statements statements' : List NodeId}
      (h : List.Forall₂ r statements statements') :
      Alike r (.sourceFile path statements) (.sourceFile path statements')
  | imports (specifier : String) : Alike r (.imports specifier) (.imports specifier)
  | binding (localName : String) (imported : Imported) :
      Alike r (.binding localName imported) (.binding localName imported)
  | reExport (specifier : Option String) (localName exported : String) :
      Alike r (.reExport specifier localName exported) (.reExport specifier localName exported)
  | exportAll (specifier : String) : Alike r (.exportAll specifier) (.exportAll specifier)
  | typeAlias (name : String) (exported : Bool) {params params' : List TypeParam}
      {type type' : TypeExpr}
      (hparams : List.Forall₂ (TypeParamOf.Alike (TypeExpr.Alike r)) params params')
      (htype : TypeExpr.Alike r type type') :
      Alike r (.typeAlias name params type exported) (.typeAlias name params' type' exported)
  | interface (name : String) (exported : Bool) {params params' : List TypeParam}
      {bases bases' : List TypeExpr} {members members' : List NodeId}
      (hparams : List.Forall₂ (TypeParamOf.Alike (TypeExpr.Alike r)) params params')
      (hbases : List.Forall₂ (TypeExpr.Alike r) bases bases')
      (hmembers : List.Forall₂ r members members') :
      Alike r (.interface name params bases members exported)
        (.interface name params' bases' members' exported)
  | typeLiteral {members members' : List NodeId} (h : List.Forall₂ r members members') :
      Alike r (.typeLiteral members) (.typeLiteral members')
  | property (name : String) (optional : Bool) {type type' : Option TypeExpr}
      (h : Option.Rel (TypeExpr.Alike r) type type') :
      Alike r (.property name optional type) (.property name optional type')
  | method (name : String) : Alike r (.method name) (.method name)
  | otherMember : Alike r .otherMember .otherMember
  | function (name : Option String) (exported : Bool) {params params' : List NodeId}
      (h : List.Forall₂ r params params') :
      Alike r (.function name params exported) (.function name params' exported)
  | parameter (name : Option String) {type type' : Option TypeExpr}
      (h : Option.Rel (TypeExpr.Alike r) type type') :
      Alike r (.parameter name type) (.parameter name type')
  | var (name : String) (exported : Bool) {type type' : Option TypeExpr}
      {value value' : Option Expr} (htype : Option.Rel (TypeExpr.Alike r) type type')
      (hvalue : Option.Rel (Expr.Alike r) value value') :
      Alike r (.var name type value exported) (.var name type' value' exported)
  | exportDefault {value value' : Expr} (h : Expr.Alike r value value') :
      Alike r (.exportDefault value) (.exportDefault value')

structure Node.Alike (r : NodeId → NodeId → Prop) (node node' : Node) : Prop where
  parent : Option.Rel r node.parent node'.parent
  kind : NodeKind.Alike r node.kind node'.kind

/-! ## Larger relations -/

theorem optionRel_mono {α α' : Type} {R S : α → α' → Prop} (hRS : ∀ a a', R a a' → S a a')
    {x : Option α} {x' : Option α'} (h : Option.Rel R x x') : Option.Rel S x x' := by
  cases h with
  | none => exact .none
  | some h => exact .some (hRS _ _ h)

mutual

theorem TypeExpr.Alike.mono (hrs : ∀ id id', r id id' → s id id') :
    ∀ {type type' : TypeExpr}, TypeExpr.Alike r type type' → TypeExpr.Alike s type type'
  | _, _, .keyword word => .keyword word
  | _, _, .literal value => .literal value
  | _, _, .reference name h => .reference name (TypeExpr.monoAll hrs h)
  | _, _, .array h => .array (h.mono hrs)
  | _, _, .union h => .union (TypeExpr.monoAll hrs h)
  | _, _, .intersection h => .intersection (TypeExpr.monoAll hrs h)
  | _, _, .object h => .object (hrs _ _ h)
  | _, _, .function => .function
  | _, _, .unsupported form => .unsupported form

theorem TypeExpr.monoAll (hrs : ∀ id id', r id id' → s id id') : ∀ {types types' : List TypeExpr},
    List.Forall₂ (TypeExpr.Alike r) types types' → List.Forall₂ (TypeExpr.Alike s) types types'
  | _, _, .nil => .nil
  | _, _, .cons h hrest => .cons (h.mono hrs) (TypeExpr.monoAll hrs hrest)

end

mutual

theorem Expr.Alike.mono (hrs : ∀ id id', r id id' → s id id') :
    ∀ {value value' : Expr}, Expr.Alike r value value' → Expr.Alike s value value'
  | _, _, .ident name => .ident name
  | _, _, .call hcallee hargs => .call (hcallee.mono hrs) (Expr.monoAll hrs hargs)
  | _, _, .object h => .object (Expr.monoProperties hrs h)
  | _, _, .function h => .function (hrs _ _ h)
  | _, _, .other => .other

theorem Expr.monoAll (hrs : ∀ id id', r id id' → s id id') : ∀ {values values' : List Expr},
    List.Forall₂ (Expr.Alike r) values values' → List.Forall₂ (Expr.Alike s) values values'
  | _, _, .nil => .nil
  | _, _, .cons h hrest => .cons (h.mono hrs) (Expr.monoAll hrs hrest)

theorem Expr.monoProperties (hrs : ∀ id id', r id id' → s id id') :
    ∀ {properties properties' : List ObjectProperty},
    List.Forall₂ (PropertyOf.Alike (Expr.Alike r)) properties properties' →
      List.Forall₂ (PropertyOf.Alike (Expr.Alike s)) properties properties'
  | _, _, .nil => .nil
  | _, _, .cons (.intro key h) hrest => .cons (.intro key (h.mono hrs)) (Expr.monoProperties hrs hrest)

end

theorem TypeParamOf.Alike.mono (hrs : ∀ id id', r id id' → s id id') {param param' : TypeParam}
    (h : TypeParamOf.Alike (TypeExpr.Alike r) param param') :
    TypeParamOf.Alike (TypeExpr.Alike s) param param' := by
  cases h with
  | intro name h => exact .intro name (optionRel_mono (fun _ _ h => h.mono hrs) h)

theorem NodeKind.Alike.mono (hrs : ∀ id id', r id id' → s id id') {kind kind' : NodeKind}
    (h : NodeKind.Alike r kind kind') : NodeKind.Alike s kind kind' := by
  have hids : ∀ {ids ids' : List NodeId}, List.Forall₂ r ids ids' → List.Forall₂ s ids ids' :=
    fun h => h.imp hrs
  have htype : ∀ {type type' : Option TypeExpr}, Option.Rel (TypeExpr.Alike r) type type' →
      Option.Rel (TypeExpr.Alike s) type type' := optionRel_mono fun _ _ h => h.mono hrs
  have hparams : ∀ {params params' : List TypeParam},
      List.Forall₂ (TypeParamOf.Alike (TypeExpr.Alike r)) params params' →
        List.Forall₂ (TypeParamOf.Alike (TypeExpr.Alike s)) params params' :=
    fun h => h.imp fun _ _ h => h.mono hrs
  cases h with
  | sourceFile path h => exact .sourceFile path (hids h)
  | imports specifier => exact .imports specifier
  | binding localName imported => exact .binding localName imported
  | reExport specifier localName exported => exact .reExport specifier localName exported
  | exportAll specifier => exact .exportAll specifier
  | typeAlias name exported hp ht => exact .typeAlias name exported (hparams hp) (ht.mono hrs)
  | interface name exported hp hbases hmembers =>
    exact .interface name exported (hparams hp) (TypeExpr.monoAll hrs hbases) (hids hmembers)
  | typeLiteral h => exact .typeLiteral (hids h)
  | property name optional h => exact .property name optional (htype h)
  | method name => exact .method name
  | otherMember => exact .otherMember
  | function name exported h => exact .function name exported (hids h)
  | parameter name h => exact .parameter name (htype h)
  | var name exported ht hvalue =>
    exact .var name exported (htype ht) (optionRel_mono (fun _ _ h => h.mono hrs) hvalue)
  | exportDefault h => exact .exportDefault (h.mono hrs)

theorem Node.Alike.mono (hrs : ∀ id id', r id id' → s id id') {node node' : Node}
    (h : Node.Alike r node node') : Node.Alike s node node' :=
  ⟨optionRel_mono hrs h.parent, h.kind.mono hrs⟩

/-! ## What alike nodes have in common -/

namespace NodeKind.Alike

variable {kind kind' : NodeKind}

theorem declares_eq (h : NodeKind.Alike r kind kind') (name : String) (space : Space) :
    kind.declares name space = kind'.declares name space := by
  cases h <;> rfl

theorem offers_eq (h : NodeKind.Alike r kind kind') (name : String) (space : Space) :
    kind.offers name space = kind'.offers name space := by
  cases h <;> rfl

end NodeKind.Alike

end ApiShapes
