import ApiShapes.Checker

/-!
# The method table of a route file

* `methodTable` : the object literal that the file's default export is made of, and the node in
  whose module its names have their meaning;
* `handlerParams` : the two parameters of the handler behind a table entry.

The default export is a call, or a name for one. The table is the first argument of the innermost of
the calls that are each other's first argument.
-/

namespace ApiShapes

/-- The calls and names that are followed one after the other. -/
def maxUnwrapSteps : Nat := 32

variable (checker : Checker)

/-! ## From the default export to the table -/

/-- An expression with names followed to the values of their variables. -/
def followNames : Nat → NodeId → Expr → Option (NodeId × Expr)
  | 0, _, _ => none
  | steps + 1, scope, .ident name => do
    let declared ← checker.symbol scope name .value
    match (← (checker.node declared).toOption).kind with
    | .var _ _ (some value) _ => followNames steps declared value
    | _ => none
  | _ + 1, scope, value => some (scope, value)

def exportedExpr (exported : NodeId) : Option (NodeId × Expr) := do
  match (← (checker.node exported).toOption).kind with
  | .exportDefault value => followNames checker maxUnwrapSteps exported value
  | .var _ _ (some value) _ => followNames checker maxUnwrapSteps exported value
  | _ => none

/-- The object literal that a variable has as its value. -/
def objectNamed (scope : NodeId) (name : String) : Option (NodeId × List ObjectProperty) := do
  let declared ← checker.symbol scope name .value
  match (← (checker.node declared).toOption).kind with
  | .var _ _ (some (.object properties)) _ => some (declared, properties)
  | _ => none

/-- The table at the bottom of calls that are each other's first argument. -/
def innermostTable (scope : NodeId) : Nat → Expr → Option (NodeId × List ObjectProperty)
  | 0, _ => none
  | steps + 1, .call _ (arg :: _) =>
    match arg with
    | .object properties => some (scope, properties)
    | .ident name => objectNamed checker scope name
    | .call callee args => innermostTable scope steps (.call callee args)
    | _ => none
  | _ + 1, _ => none

/-- The call's function is declared in the program and takes nothing. -/
def callsWithoutParams (scope : NodeId) (call : Expr) : Bool :=
  match checker.callSignature scope call with
  | some signature => signature.params.isEmpty
  | none => false

def methodTable (file : Path) : Option (NodeId × List ObjectProperty) := do
  let (scope, value) ← exportedExpr checker (← checker.defaultExport file)
  if callsWithoutParams checker scope value then none
  else innermostTable checker scope maxUnwrapSteps value

/-! ## From an entry to its handler -/

def twoParams (function : NodeId) : Option (NodeId × NodeId) :=
  match checker.node function with
  | .ok { kind := .function _ [request, response] _, .. } => some (request, response)
  | _ => none

/-- Looks through expressions, the first one first, for a function with two parameters. The
arguments of a call take its place, and the value of a variable takes the place of its name, once.
Each expression looked at is one step. -/
def searchHandler : Nat → List (NodeId × Expr) → List NodeId → Option (NodeId × NodeId)
  | _, [], _ => none
  | 0, _ :: _, _ => none
  | steps + 1, (scope, value) :: rest, visited =>
    match value with
    | .function function =>
      match twoParams checker function with
      | some params => some params
      | none => searchHandler steps rest visited
    | .ident name =>
      match checker.symbol scope name .value with
      | none => searchHandler steps rest visited
      | some declared =>
        if visited.contains declared then searchHandler steps rest visited
        else match checker.node declared with
          | .ok { kind := .function .., .. } =>
            match twoParams checker declared with
            | some params => some params
            | none => searchHandler steps rest (declared :: visited)
          | .ok { kind := .var _ _ (some value) _, .. } =>
            searchHandler steps ((declared, value) :: rest) (declared :: visited)
          | _ => searchHandler steps rest (declared :: visited)
    | .call _ args => searchHandler steps (args.map (scope, ·) ++ rest) visited
    | .object _ => searchHandler steps rest visited
    | .other => searchHandler steps rest visited

def handlerParams (scope : NodeId) (value : Expr) : Option (NodeId × NodeId) :=
  searchHandler checker maxUnwrapSteps [(scope, value)] []

end ApiShapes
