import ApiShapes.Path.Basic
import ApiShapes.Source.Tree

/-!
# Declarations as nodes

* `NodeId`, `Node`, `NodeKind` : a declaration with its place in an arena and the node around it;
* `TypeExpr`, `Expr` : type expressions and expressions that point at nodes;
* `Arena` : the nodes of all modules in one table.
-/

namespace ApiShapes

/-- A place in an arena. -/
structure NodeId where
  index : Nat
  deriving DecidableEq, Repr, Inhabited

/-- A type expression as written; an object type is a node of its own. -/
inductive TypeExpr where
  | keyword (word : Keyword)
  | literal (value : Literal)
  | reference (name : String) (args : List TypeExpr)
  | array (element : TypeExpr)
  | union (members : List TypeExpr)
  | intersection (members : List TypeExpr)
  | object (literal : NodeId)
  | function
  | unsupported (form : String)
  deriving Repr, Inhabited

/-- An expression; a function is a node of its own. -/
inductive Expr where
  | ident (name : String)
  | call (callee : Expr) (args : List Expr)
  | object (properties : List (PropertyOf Expr))
  | function (node : NodeId)
  | other
  deriving Repr, Inhabited

abbrev TypeParam := TypeParamOf TypeExpr

abbrev ObjectProperty := PropertyOf Expr

/-- What a node declares. -/
inductive NodeKind where
  /-- a module; the statements are the nodes right below it, save that bindings take the place of
  their import -/
  | sourceFile (path : Path) (statements : List NodeId)
  | imports (specifier : String)
  /-- a local name, below its import -/
  | binding (localName : String) (imported : Imported)
  /-- `export \x7b localName as exported \x7d`, possibly from another module -/
  | reExport (specifier : Option String) (localName exported : String)
  | exportAll (specifier : String)
  | typeAlias (name : String) (params : List TypeParam) (type : TypeExpr) (exported : Bool)
  | interface (name : String) (params : List TypeParam) (bases : List TypeExpr)
      (members : List NodeId) (exported : Bool)
  | typeLiteral (members : List NodeId)
  | property (name : String) (optional : Bool) (type : Option TypeExpr)
  | method (name : String)
  /-- a member without a name, and a node that is not filled in yet -/
  | otherMember
  | function (name : Option String) (params : List NodeId) (exported : Bool)
  | parameter (name : Option String) (type : Option TypeExpr)
  | var (name : String) (type : Option TypeExpr) (value : Option Expr) (exported : Bool)
  | exportDefault (value : Expr)
  deriving Repr, Inhabited

namespace NodeKind

/-- The name that the declaration gives to a type. -/
def typeName? : NodeKind → Option String
  | typeAlias name .. => some name
  | interface name .. => some name
  | binding localName _ => some localName
  | _ => none

def valueName? : NodeKind → Option String
  | function name .. => name
  | var name .. => some name
  | binding localName _ => some localName
  | _ => none

def isExported : NodeKind → Bool
  | typeAlias _ _ _ exported => exported
  | interface _ _ _ _ exported => exported
  | function _ _ exported => exported
  | var _ _ _ exported => exported
  | _ => false

/-- The type that is written for the declared thing, if its kind of node can have one. -/
def writtenType? : NodeKind → Option TypeExpr
  | parameter _ type => type
  | property _ _ type => type
  | var _ type _ _ => type
  | typeAlias _ _ type _ => some type
  | _ => none

end NodeKind

/-- A declaration and the node around it; only modules stand alone. -/
structure Node where
  parent : Option NodeId
  kind : NodeKind
  deriving Repr, Inhabited

structure Arena where
  nodes : Array Node := #[]
  deriving Repr, Inhabited

namespace Arena

def size (a : Arena) : Nat := a.nodes.size

def get? (a : Arena) (id : NodeId) : Option Node := a.nodes[id.index]?

def kind? (a : Arena) (id : NodeId) : Option NodeKind := (a.get? id).map (·.kind)

def parent? (a : Arena) (id : NodeId) : Option NodeId := (a.get? id).bind (·.parent)

def next (a : Arena) : NodeId := ⟨a.size⟩

def push (a : Arena) (node : Node) : Arena := { nodes := a.nodes.push node }

def fill (a : Arena) (id : NodeId) (kind : NodeKind) : Arena :=
  { nodes := a.nodes.modify id.index fun node => { node with kind } }

/-- The first node that `f` accepts on the way from a node up to its module. A step leads to an
earlier place, so that the way ends. -/
def findUp {α : Type} (a : Arena) (f : NodeId → NodeKind → Option α) (id : NodeId) : Option α :=
  match a.get? id with
  | none => none
  | some node =>
    match f id node.kind with
    | some found => some found
    | none =>
      match node.parent with
      | none => none
      | some parent =>
        if _h : parent.index < id.index then a.findUp f parent else none
termination_by id.index

def fileOf? (a : Arena) (id : NodeId) : Option NodeId :=
  a.findUp (fun id kind =>
    match kind with
    | .sourceFile .. => some id
    | _ => none) id

def statements (a : Arena) (file : NodeId) : List NodeId :=
  match a.kind? file with
  | some (.sourceFile _ statements) => statements
  | _ => []

end Arena

end ApiShapes
