import ApiShapes.Program.Names

/-!
# What type expressions mean

* `Program.resolveWith` : a type expression, where `instantiate` expands the declarations it names;
* `Program.instantiate` : a declaration with type arguments;
* `Program.typeAt` : the type that is written at a node;
* `Program.members` : the members of an object type, its own first and then those of its bases;
* `Program.checker` : all answers of a program.

Aliases within aliases and bases within bases are expanded up to a bound.
-/

namespace ApiShapes.Program

variable (p : Program)

/-- The aliases and defaults that may be expanded within one another. -/
def maxAliasDepth : Nat := 64

/-- The bases that may be listed within one another. -/
def maxHeritageDepth : Nat := 16

/-- A type as it stands in a union: a union gives its members. -/
def spliced : CheckedType → List CheckedType
  | .union members => members
  | type => [type]

/-- A name without a declaration; two of them mean an array. -/
def undeclared (name : String) (args : List CheckedType) : CheckedType :=
  match args with
  | [element] =>
    if name == "Array" || name == "ReadonlyArray" then .array element else .unresolved name args
  | _ => .unresolved name args

abbrev Instantiate := NodeId → String → List CheckedType → Except CheckError CheckedType

mutual

/-- What a type expression means in the module of `scope`. A name without arguments means what the
environment says, before any declaration. -/
def resolveWith (instantiate : Instantiate) (scope : NodeId) (env : Env) :
    TypeExpr → Except CheckError CheckedType
  | .keyword word => .ok (.keyword word)
  | .literal value => .ok (.literal value)
  | .array element => do return .array (← resolveWith instantiate scope env element)
  | .union members => do
    return .union ((← resolveAll instantiate scope env members).flatMap spliced)
  | .intersection members => do
    return .intersection (← resolveAll instantiate scope env members)
  | .object literal => .ok (.object literal env)
  | .function => .ok .function
  | .unsupported form => .ok (.unsupported form)
  | .reference name args =>
    match if args.isEmpty then env.lookup name else none with
    | some bound => .ok bound
    | none => do
      let args ← resolveAll instantiate scope env args
      match p.symbol scope name .type with
      | some declared => instantiate declared name args
      | none => return undeclared name args

def resolveAll (instantiate : Instantiate) (scope : NodeId) (env : Env) :
    List TypeExpr → Except CheckError (List CheckedType)
  | [] => .ok []
  | type :: rest => do
    let type ← resolveWith instantiate scope env type
    return type :: (← resolveAll instantiate scope env rest)

end

/-- What type parameters stand for: the arguments, then the defaults, each in the environment of the
parameters before it. A parameter with neither is unknown. -/
def bindParams (default : Env → TypeExpr → Except CheckError CheckedType) :
    List TypeParam → List CheckedType → Env → Except CheckError Env
  | [], _, env => .ok env
  | param :: rest, arg :: args, env => bindParams default rest args (env ++ [(param.name, arg)])
  | param :: rest, [], env => do
    let type ← match param.default with
      | some type => default env type
      | none => .ok (.keyword .unknown)
    bindParams default rest [] (env ++ [(param.name, type)])

/-- The name that an import binding has in its module, where the binding of a whole module is
written in front of it. -/
def importedName (imported : Imported) (written : String) : String :=
  match imported with
  | .named name => name
  | .default => "default"
  | .namespace => ((Text.cutFirst '.' written).map (·.2)).getD written

/-- A declaration, written as a name, with type arguments. So many aliases and defaults may be
expanded within one another, less one. -/
def instantiate : Nat → Instantiate
  | 0, _, written, _ => .error (.tooDeep written)
  | depth + 1, declared, written, args =>
    let inner (env : Env) (type : TypeExpr) := p.resolveWith (instantiate depth) declared env type
    match p.arena.kind? declared with
    | none => .error (.unknownNode declared)
    | some (.typeAlias _ params type _) => do inner (← bindParams inner params args []) type
    | some (.interface _ params ..) => do
      return .object declared (← bindParams inner params args [])
    | some (.binding _ imported) => .ok (.external declared (importedName imported written) args)
    | some (.reExport _ localName _) => .ok (.external declared localName args)
    | some _ => .ok (.unsupported "value in type position")

def resolve (scope : NodeId) (env : Env) (type : TypeExpr) : Except CheckError CheckedType :=
  p.resolveWith (p.instantiate (maxAliasDepth + 1)) scope env type

/-- The type that is written at a node; an object type means itself. -/
def typeAt (id : NodeId) (env : Env) : Except CheckError CheckedType :=
  match p.arena.kind? id with
  | none => .error (.unknownNode id)
  | some (.interface ..) => .ok (.object id env)
  | some (.typeLiteral _) => .ok (.object id env)
  | some kind =>
    match kind.writtenType? with
    | some type => p.resolve id env type
    | none => .error (.untyped id)

/-! ## Members -/

def listed (object : Instance) : Except CheckError (List NodeId × List TypeExpr) :=
  match p.arena.kind? object.node with
  | none => .error (.unknownNode object.node)
  | some (.typeLiteral members) => .ok (members, [])
  | some (.interface _ _ bases members _) => .ok (members, bases)
  | some _ => .error (.notAnObject object.node)

/-- The name of a member; it is empty if there is none. -/
def memberName (id : NodeId) : String :=
  match p.arena.kind? id with
  | some (.property name ..) => name
  | some (.method name) => name
  | _ => ""

def freshMembers (taken : List Member) (env : Env) (members : List NodeId) : List Member :=
  (members.map fun id => { name := p.memberName id, node := id, env }).filter fun member =>
    member.name.isEmpty || !taken.any (·.name == member.name)

/-- The members listed so far, then those of an object type, then those of its bases and theirs, so
many levels deep. -/
def membersWithin : Nat → Instance → List Member → Except CheckError (List Member)
  | 0, object, found => do
    let (members, _) ← p.listed object
    return found ++ p.freshMembers found object.env members
  | depth + 1, object, found => do
    let (members, bases) ← p.listed object
    bases.foldlM (fun found base => do
        match ← p.resolve object.node object.env base with
        | .object node env => membersWithin depth { node, env } found
        | _ => return found)
      (found ++ p.freshMembers found object.env members)

/-- The members of an object type, its own first. -/
def members (object : Instance) : Except CheckError (List Member) :=
  p.membersWithin maxHeritageDepth object []

/-! ## All answers -/

def node (id : NodeId) : Except CheckError Node :=
  match p.arena.get? id with
  | some node => .ok node
  | none => .error (.unknownNode id)

def checker : Checker where
  node := p.node
  defaultExport := p.defaultExport
  typeAt := p.typeAt
  symbol := p.symbol
  members := p.members
  callSignature := p.callSignature
  importOrigin := p.importOrigin

end ApiShapes.Program
