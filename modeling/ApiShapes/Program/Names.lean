import ApiShapes.Program.Basic

/-!
# What names mean

* `Program.findExport` : the declaration that a module exports under a name;
* `Program.symbol` : the declaration that a plain or dotted name means in a module.

A search through exports takes a bounded number of steps from module to module, so that modules that
lead to one another end it.
-/

namespace ApiShapes

/-- The declaration gives its name to a type or to a value. -/
def NodeKind.declares (kind : NodeKind) (name : String) (space : Space) : Bool :=
  match space with
  | .type => kind.typeName? == some name
  | .value => kind.valueName? == some name

/-- The statement exports something under a name. -/
def NodeKind.offers (kind : NodeKind) (name : String) (space : Space) : Bool :=
  match kind with
  | .reExport _ _ exported => exported == name
  | .exportDefault _ => name == "default"
  | _ => kind.isExported && kind.declares name space

namespace Program

variable (p : Program)

/-- The steps from module to module that a search through exports may take. -/
def maxExportHops : Nat := 32

/-- The first statement of a module that declares a name. -/
def localSymbol (file : NodeId) (name : String) (space : Space) : Option NodeId :=
  (p.arena.statements file).find? fun id =>
    ((p.arena.kind? id).map (·.declares name space)).getD false

/-- What an import binding leads to, where `search` looks through the exports of a module. A binding
that leads nowhere stands for itself. -/
def followBinding (search : NodeId → String → Option NodeId) (binding : NodeId) : NodeId :=
  let target := do
    let file ← p.arena.fileOf? binding
    p.moduleNamed? file (← p.importOf? binding)
  let found := match p.arena.kind? binding, target with
    | some (.binding _ (.named name)), some target => search target name
    | some (.binding _ .default), some target => search target "default"
    | _, _ => none
  found.getD binding

/-- What a name means in a module, where `search` looks through the exports of another. -/
def fileSymbol (search : NodeId → String → Option NodeId) (file : NodeId) (name : String)
    (space : Space) : Option NodeId :=
  (p.localSymbol file name space).map fun id =>
    match p.arena.kind? id with
    | some (.binding ..) => p.followBinding search id
    | _ => id

/-- What a module exports under a name. A statement that offers the name decides; `search` goes on
in another module, and `afterLocal` goes on from a binding of this one. Otherwise the first module
that is exported as a whole and has the name gives it, except for the default. -/
def exportStep (space : Space) (search afterLocal : NodeId → String → Option NodeId)
    (file : NodeId) (name : String) : Option NodeId :=
  let statements := p.arena.statements file
  let offer := statements.find? fun id =>
    ((p.arena.kind? id).map (·.offers name space)).getD false
  match offer with
  | some id =>
    match p.arena.kind? id with
    | some (.reExport (some specifier) localName _) =>
      match p.moduleNamed? file specifier with
      | some target => search target localName
      | none => some id
    | some (.reExport none localName _) => p.fileSymbol afterLocal file localName space
    | _ => some id
  | none =>
    if name == "default" then none
    else statements.findSome? fun id =>
      match p.arena.kind? id with
      | some (.exportAll specifier) =>
        (p.moduleNamed? file specifier).bind (search · name)
      | _ => none

/-- What a module exports under a name, found in at most so many modules on the way. -/
def findExport (space : Space) : Nat → NodeId → String → Option NodeId
  | 0, _, _ => none
  | 1, file, name => p.exportStep space (fun _ _ => none) (fun _ _ => none) file name
  | hops + 2, file, name =>
    p.exportStep space (findExport space (hops + 1)) (findExport space hops) file name

/-- What a name means in the module of a node. Of dotted names only those count whose first part is
the binding of a whole module. -/
def symbol (scope : NodeId) (name : String) (space : Space) : Option NodeId := do
  let file ← p.arena.fileOf? scope
  match Text.cutFirst '.' name with
  | none => p.fileSymbol (p.findExport space maxExportHops) file name space
  | some (head, rest) =>
    let binding ← (p.arena.statements file).find? fun id =>
      match p.arena.kind? id with
      | some (.binding localName .namespace) => localName == head
      | _ => false
    match (p.importOf? binding).bind (p.moduleNamed? file) with
    | some target =>
      if rest.toList.contains '.' then none
      else p.findExport space maxExportHops target rest
    | none => some binding

def defaultExport (path : Path) : Option NodeId := do
  p.findExport .value (maxExportHops + 1) (← p.fileNode? path) "default"

/-- The function that an expression in the module of a node calls, if the callee is a name. -/
def callSignature (scope : NodeId) (call : Expr) : Option CallSignature := do
  match call with
  | .call (.ident name) _ =>
    let declared ← p.symbol scope name .value
    let function ← match ← p.arena.kind? declared with
      | .function .. => some declared
      | .var _ _ (some (.function function)) _ => some function
      | _ => none
    match ← p.arena.kind? function with
    | .function _ params _ => some { node := function, params }
    | _ => none
  | _ => none

/-- The specifier of the import or export around a node. -/
def importOrigin (id : NodeId) : Option String :=
  (p.arena.findUp (fun _ kind =>
    match kind with
    | .imports specifier => some (some specifier)
    | .reExport (some specifier) _ _ => some (some specifier)
    | .sourceFile .. => some none
    | _ => none) id).join

end Program

end ApiShapes
