import ApiShapes.Shape.Basic

/-!
# Syntax of a TypeScript module

* `TypeTree`, `MemberTree` : type expressions and the members of object types;
* `ExprTree` : the expressions that a handler can be wrapped in; everything else is `other`;
* `StatementTree` : the statements that declare, import or export something.

Parentheses, type assertions and non-null marks leave no trace in an expression.
-/

namespace ApiShapes

/-- Keyword types; `other` stands for those without a form of their own. -/
inductive Keyword where
  | string
  | number
  | boolean
  | undefined
  | null
  | any
  | unknown
  | never
  | void
  | other
  deriving DecidableEq, Repr

mutual

inductive TypeTree where
  | keyword (word : Keyword)
  | literal (value : Literal)
  /-- a possibly dotted name with its arguments -/
  | reference (name : String) (args : List TypeTree)
  | array (element : TypeTree)
  | union (members : List TypeTree)
  | intersection (members : List TypeTree)
  | object (members : List MemberTree)
  | function
  /-- a form that nothing is made of, by its kind -/
  | unsupported (form : String)

inductive MemberTree where
  | property (name : String) (optional : Bool) (type : Option TypeTree)
  | method (name : String)
  | other

end

/-- A type parameter whose default is of kind `α`. -/
structure TypeParamOf (α : Type) where
  name : String
  default : Option α
  deriving DecidableEq, Repr

/-- A function parameter; a destructured one has no name. -/
structure ParamTree where
  name : Option String
  type : Option TypeTree

/-- A property of an object literal; a computed key and a spread have no text. -/
structure PropertyOf (α : Type) where
  key : Option String
  value : α
  deriving DecidableEq, Repr

inductive ExprTree where
  | ident (name : String)
  | call (callee : ExprTree) (args : List ExprTree)
  | object (properties : List (PropertyOf ExprTree))
  | function (name : Option String) (params : List ParamTree)
  | other

/-- What an import binding stands for in the module it comes from. -/
inductive Imported where
  | named (name : String)
  | default
  | namespace
  deriving DecidableEq, Repr

structure VariableTree where
  name : String
  type : Option TypeTree
  value : Option ExprTree

inductive StatementTree where
  /-- `import … from specifier`, with local names -/
  | imports (specifier : String) (bindings : List (String × Imported))
  /-- `export { name as exported, … }`, possibly from another module -/
  | exports (specifier : Option String) (names : List (String × String))
  /-- `export * from specifier` -/
  | exportAll (specifier : String)
  | exportDefault (value : ExprTree)
  | vars (exported : Bool) (declared : List VariableTree)
  | function (exported : Bool) (name : Option String) (params : List ParamTree)
  | typeAlias (exported : Bool) (name : String) (params : List (TypeParamOf TypeTree))
      (type : TypeTree)
  | interface (exported : Bool) (name : String) (params : List (TypeParamOf TypeTree))
      (bases : List (String × List TypeTree)) (members : List MemberTree)

end ApiShapes
