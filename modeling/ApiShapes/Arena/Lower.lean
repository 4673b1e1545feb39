import ApiShapes.Arena.Node

/-!
# From syntax to nodes

* `Lowering` : steps that add nodes to an arena;
* `lowerType`, `lowerMembers`, `lowerExpr`, `lowerStatement` : the nodes of one phrase;
* `Arena.addModule` : the nodes of a module.

A node gets its place before those below it, so that they can point at it, and is filled in after
them.
-/

namespace ApiShapes

abbrev Lowering := StateM Arena

namespace Lowering

def push (parent : Option NodeId) (kind : NodeKind) : Lowering NodeId := do
  let id := (← get).next
  modify (·.push { parent, kind })
  return id

/-- Takes a place for a node that is filled in later. -/
def reserve (parent : NodeId) : Lowering NodeId := push (some parent) .otherMember

def fill (id : NodeId) (kind : NodeKind) : Lowering Unit := modify (·.fill id kind)

end Lowering

open Lowering

/-! ## Types -/

mutual

/-- A type expression whose object types become nodes below `owner`. -/
def lowerType (owner : NodeId) : TypeTree → Lowering TypeExpr
  | .keyword word => pure (.keyword word)
  | .literal value => pure (.literal value)
  | .reference name args => do return .reference name (← lowerTypes owner args)
  | .array element => do return .array (← lowerType owner element)
  | .union members => do return .union (← lowerTypes owner members)
  | .intersection members => do return .intersection (← lowerTypes owner members)
  | .object members => do
    let id ← reserve owner
    let ids ← lowerMembers id members
    fill id (.typeLiteral ids)
    return .object id
  | .function => pure .function
  | .unsupported form => pure (.unsupported form)

def lowerTypes (owner : NodeId) : List TypeTree → Lowering (List TypeExpr)
  | [] => pure []
  | type :: rest => do
    let type ← lowerType owner type
    return type :: (← lowerTypes owner rest)

def lowerType? (owner : NodeId) : Option TypeTree → Lowering (Option TypeExpr)
  | none => pure none
  | some type => do return some (← lowerType owner type)

def lowerMember (owner : NodeId) : MemberTree → Lowering NodeId
  | .property name optional type => do
    let id ← reserve owner
    let type ← lowerType? id type
    fill id (.property name optional type)
    return id
  | .method name => push (some owner) (.method name)
  | .other => push (some owner) .otherMember

def lowerMembers (owner : NodeId) : List MemberTree → Lowering (List NodeId)
  | [] => pure []
  | member :: rest => do
    let id ← lowerMember owner member
    return id :: (← lowerMembers owner rest)

end

def lowerTypeParams (owner : NodeId) (params : List (TypeParamOf TypeTree)) :
    Lowering (List TypeParam) :=
  params.mapM fun param => do
    return { name := param.name, default := ← lowerType? owner param.default }

def lowerBases (owner : NodeId) (bases : List (String × List TypeTree)) :
    Lowering (List TypeExpr) :=
  bases.mapM fun (name, args) => do return .reference name (← lowerTypes owner args)

/-! ## Functions and expressions -/

def lowerParam (function : NodeId) (param : ParamTree) : Lowering NodeId := do
  let id ← reserve function
  let type ← lowerType? id param.type
  fill id (.parameter param.name type)
  return id

def lowerFunction (parent : NodeId) (name : Option String) (params : List ParamTree)
    (exported : Bool) : Lowering NodeId := do
  let id ← reserve parent
  let ids ← params.mapM (lowerParam id)
  fill id (.function name ids exported)
  return id

mutual

/-- An expression whose functions become nodes below `parent`. -/
def lowerExpr (parent : NodeId) : ExprTree → Lowering Expr
  | .ident name => pure (.ident name)
  | .call callee args => do
    let callee ← lowerExpr parent callee
    return .call callee (← lowerExprs parent args)
  | .object properties => do return .object (← lowerProperties parent properties)
  | .function name params => do return .function (← lowerFunction parent name params false)
  | .other => pure .other

def lowerExprs (parent : NodeId) : List ExprTree → Lowering (List Expr)
  | [] => pure []
  | value :: rest => do
    let value ← lowerExpr parent value
    return value :: (← lowerExprs parent rest)

def lowerProperties (parent : NodeId) :
    List (PropertyOf ExprTree) → Lowering (List ObjectProperty)
  | [] => pure []
  | ⟨key, value⟩ :: rest => do
    let value ← lowerExpr parent value
    return ⟨key, value⟩ :: (← lowerProperties parent rest)

end

/-! ## Statements -/

def lowerVariable (file : NodeId) (exported : Bool) (declared : VariableTree) :
    Lowering NodeId := do
  let id ← reserve file
  let type ← lowerType? id declared.type
  let value ← match declared.value with
    | some value => some <$> lowerExpr id value
    | none => pure none
  fill id (.var declared.name type value exported)
  return id

/-- The nodes that a statement adds to the statements of its module. -/
def lowerStatement (file : NodeId) : StatementTree → Lowering (List NodeId)
  | .imports specifier bindings => do
    let id ← push (some file) (.imports specifier)
    bindings.mapM fun (localName, imported) => push (some id) (.binding localName imported)
  | .exports specifier names =>
    names.mapM fun (localName, exported) =>
      push (some file) (.reExport specifier localName exported)
  | .exportAll specifier => do return [← push (some file) (.exportAll specifier)]
  | .exportDefault value => do
    let id ← reserve file
    let value ← lowerExpr id value
    fill id (.exportDefault value)
    return [id]
  | .vars exported declared => declared.mapM (lowerVariable file exported)
  | .function exported name params => do return [← lowerFunction file name params exported]
  | .typeAlias exported name params type => do
    let id ← reserve file
    let params ← lowerTypeParams id params
    let type ← lowerType id type
    fill id (.typeAlias name params type exported)
    return [id]
  | .interface exported name params bases members => do
    let id ← reserve file
    let params ← lowerTypeParams id params
    let bases ← lowerBases id bases
    let members ← lowerMembers id members
    fill id (.interface name params bases members exported)
    return [id]

/-- A module's node and all nodes below it. -/
def lowerModule (path : Path) (body : List StatementTree) : Lowering NodeId := do
  let file ← push none (.sourceFile path [])
  let statements ← body.mapM (lowerStatement file)
  fill file (.sourceFile path statements.flatten)
  return file

/-- The arena with a module's nodes behind all others, and the module's place. -/
def Arena.addModule (a : Arena) (path : Path) (body : List StatementTree) : NodeId × Arena :=
  (lowerModule path body).run a

end ApiShapes
