import ApiShapes.Arena.Node

/-!
# What a type checker answers

* `CheckedType`, `Env` : types with every name looked up, and what type parameters stand for;
* `Instance`, `Member`, `CallSignature` : object types, their members, and called functions;
* `CheckError` : why a query has no answer;
* `Checker` : the queries themselves.

Everything that is written about a program is found out by these queries alone, so that it can be
stated for any checker.
-/

namespace ApiShapes

/-- A type with every name looked up. -/
inductive CheckedType where
  | keyword (word : Keyword)
  | literal (value : Literal)
  /-- no member is itself a union -/
  | union (members : List CheckedType)
  | intersection (members : List CheckedType)
  | array (element : CheckedType)
  /-- an interface or an object literal type, and what its type parameters stand for -/
  | object (node : NodeId) (env : List (String × CheckedType))
  /-- a declaration outside the program, by the binding or the export that names it -/
  | external (origin : NodeId) (name : String) (args : List CheckedType)
  /-- a name without a declaration -/
  | unresolved (name : String) (args : List CheckedType)
  | function
  /-- a form that nothing is made of -/
  | unsupported (form : String)
  deriving Repr, Inhabited

/-- What type parameters stand for; the first entry of a name counts. -/
abbrev Env := List (String × CheckedType)

def Literal.same : Literal → Literal → Bool
  | string s, string t => s == t
  | number x, number y => x.numEq y
  | bool b, bool c => b == c
  | _, _ => false

mutual

/-- The types are the same, numbers being compared by value. -/
def CheckedType.same : CheckedType → CheckedType → Bool
  | .keyword word, .keyword word' => word == word'
  | .literal value, .literal value' => value.same value'
  | .union members, .union members' => sameTypes members members'
  | .intersection members, .intersection members' => sameTypes members members'
  | .array element, .array element' => element.same element'
  | .object node env, .object node' env' => node == node' && sameEnvs env env'
  | .external origin name args, .external origin' name' args' =>
    origin == origin' && name == name' && sameTypes args args'
  | .unresolved name args, .unresolved name' args' => name == name' && sameTypes args args'
  | .function, .function => true
  | .unsupported form, .unsupported form' => form == form'
  | _, _ => false

def sameTypes : List CheckedType → List CheckedType → Bool
  | [], [] => true
  | type :: rest, type' :: rest' => type.same type' && sameTypes rest rest'
  | _, _ => false

def sameEnvs : List (String × CheckedType) → List (String × CheckedType) → Bool
  | [], [] => true
  | (name, type) :: rest, (name', type') :: rest' =>
    name == name' && type.same type' && sameEnvs rest rest'
  | _, _ => false

end

/-- An object type: the node that lists its members, and what its type parameters stand for. -/
structure Instance where
  node : NodeId
  env : Env
  deriving Repr, Inhabited

def Instance.same (x y : Instance) : Bool :=
  x.node == y.node && sameEnvs x.env y.env

/-- A member of an object type. A member without a name has the empty one. -/
structure Member where
  name : String
  node : NodeId
  env : Env
  deriving Repr, Inhabited

/-- A function that is called. -/
structure CallSignature where
  node : NodeId
  params : List NodeId
  deriving DecidableEq, Repr

/-- Where a name is looked up. -/
inductive Space where
  | type
  | value
  deriving DecidableEq, Repr

inductive CheckError where
  | unknownNode (id : NodeId)
  | untyped (id : NodeId)
  | notAnObject (id : NodeId)
  /-- aliases within aliases, at this name -/
  | tooDeep (name : String)
  deriving DecidableEq, Repr

def CheckError.message : CheckError → String
  | unknownNode id => "unknown node #" ++ toString id.index
  | untyped id => "node #" ++ toString id.index ++ " has no declared type"
  | notAnObject id => "node #" ++ toString id.index ++ " has no members"
  | tooDeep name => "type alias expansion too deep at " ++ name

/-- The queries that a type checker answers about a program. -/
structure Checker where
  /-- the node at a place -/
  node : NodeId → Except CheckError Node
  /-- what a file exports by default -/
  defaultExport : Path → Option NodeId
  /-- the type that is written at a node, in an environment -/
  typeAt : NodeId → Env → Except CheckError CheckedType
  /-- what a name means in the module of a node -/
  symbol : NodeId → String → Space → Option NodeId
  /-- the members of an object type, inherited ones included -/
  members : Instance → Except CheckError (List Member)
  /-- the function that an expression in the module of a node calls -/
  callSignature : NodeId → Expr → Option CallSignature
  /-- the specifier of the import or export around a node -/
  importOrigin : NodeId → Option String

end ApiShapes
