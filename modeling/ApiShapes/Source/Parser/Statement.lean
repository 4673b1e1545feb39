import ApiShapes.Source.Parser.Expression

/-!
# Statements

* `Grammar.importStatement`, `Grammar.exportStatement`, `Grammar.declaration` : the statements that
  a module's declarations come from;
* `Grammar.statementStep` : any statement;
* `Grammar.step` : the grammar of phrases one level deeper.
-/

namespace ApiShapes.Source.Grammar

variable (g : Grammar)

/-! ## Declarations -/

/-- Declarators after `const`, `let`, `var` or `using`; destructuring ones declare nothing here. -/
def declarators (allowIn : Bool) : Parser (List VariableTree) := do
  let listed ← chained "," do
    let name ← g.pattern
    if g.language.types then
      let _ ← takeMark "!"
    let type ← ascription g g.type
    let value ← initializer g allowIn
    return name.map fun name => { name, type, value : VariableTree }
  return listed.filterMap id

/-- Goes past the words that declare variables. -/
def variableWord : Parser Unit := do
  match ← peek with
  | .word "var" => advance
  | .word "const" =>
    check (!(← sees (advance *> needWord "enum")))
    advance
  | .word "let" =>
    check (← sees do
      advance
      check ((← sees identifier) || (← atMark "[") || (← atMark "\x7b")))
    advance
  | .word "using" =>
    check (← sees do
      advance
      check (!(← onNewLine))
      check (!(← atWord "of"))
      identifier)
    advance
  | .word "await" =>
    check (← sees do
      advance
      needWord "using"
      check (!(← onNewLine))
      identifier)
    advance
    advance
  | _ => failure

/-- `type name<parameters> = type`, of which the first word has been read. -/
def typeAlias (exported : Bool) : Parser StatementTree := do
  let name ← identifier
  let ps ← typeParams g
  needMark "="
  let builtIn ← sees (needWord "intrinsic" *> do check (!(← atMark ".")))
  let type ← if builtIn then (do advance; pure (.keyword .other)) else g.type
  endOfStatement
  return .typeAlias exported name ps type

/-- A base of an interface: a dotted name with arguments, or some other expression. -/
def base : Parser (Option (String × List TypeTree)) := do
  match ← attempt (identifier >>= dotted) with
  | some name =>
    if (← atMark "(") || (← atMark "[") then failure
    return some (name, ← typeArgumentsHere g)
  | none =>
    let _ ← g.operand
    let _ ← typeArgumentsHere g
    return none

/-- `interface name<parameters> extends bases \x7b members \x7d`, of which the first word has been
read. -/
def interface (exported : Bool) : Parser StatementTree := do
  let name ← identifier
  let ps ← typeParams g
  let bases ← if ← takeWord "extends" then chained "," (base g) else pure []
  if ← takeWord "implements" then
    let _ ← chained "," (base g)
  return .interface exported name ps (bases.filterMap id) (← members g)

def enumeration : Parser Unit := do
  let _ ← identifier
  needMark "\x7b"
  let _ ← separated "," "\x7d" do
    let _ ← key g
    initializer g true

def namespaceRest : Parser Unit := do
  if ← atMark "\x7b" then block g else endOfStatement

/-- The token after the first word is a name on the same line. -/
def namesNext : Parser Bool :=
  sees do
    advance
    check (!(← onNewLine))
    identifier

def declaration (exported : Bool) : Parser (List StatementTree) := do
  let types := g.language.types
  let _ ← attempt do
    check types
    needWord "declare"
    check (!(← onNewLine))
    match ← peek with
    | .word w => check (["const", "let", "var", "function", "class", "abstract", "enum", "namespace",
        "module", "global", "type", "interface", "async", "using"].contains w)
    | _ => failure
  decorators g
  if let some () ← attempt variableWord then
    let declared ← declarators g true
    endOfStatement
    return [.vars exported declared]
  match ← peek with
  | .word "function" =>
    advance
    let (name, ps) ← functionRest g true
    return [.function exported name ps]
  | .word "async" =>
    check (← sees (advance *> (do check (!(← onNewLine)); needWord "function")))
    advance
    advance
    let (name, ps) ← functionRest g true
    return [.function exported name ps]
  | .word "class" =>
    advance
    classRest g
    return []
  | .word "abstract" =>
    check types
    check (← sees (advance *> (do check (!(← onNewLine)); needWord "class")))
    advance
    advance
    classRest g
    return []
  | .word "const" =>
    check types
    advance
    needWord "enum"
    enumeration g
    return []
  | .word "enum" =>
    check types
    advance
    enumeration g
    return []
  | .word "type" =>
    check (types && (← namesNext))
    advance
    return [← typeAlias g exported]
  | .word "interface" =>
    check (types && (← namesNext))
    advance
    return [← interface g exported]
  | .word "namespace" =>
    check (types && (← namesNext))
    advance
    let _ ← dotted (← identifier)
    namespaceRest g
    return []
  | .word "module" =>
    check types
    check (← sees do
      advance
      check (!(← onNewLine))
      let _ ← identifier <|> text)
    advance
    if let some _ ← attempt text then namespaceRest g
    else
      let _ ← dotted (← identifier)
      namespaceRest g
    return []
  | .word "global" =>
    check types
    check (← sees (advance *> needMark "\x7b"))
    advance
    block g
    return []
  | _ => failure

/-! ## Imports and exports -/

def attributesClause : Parser Unit := do
  if (← takeWord "with") || (← sees (do check (!(← onNewLine)); needWord "assert")) then
    let _ ← takeWord "assert"
    needMark "\x7b"
    let _ ← separated "," "\x7d" do
      let _ ← key g
      needMark ":"
      g.expression true

/-- `from specifier`, if it follows. -/
def fromClause : Parser (Option String) := do
  if ← takeWord "from" then
    let specifier ← text
    attributesClause g
    return some specifier
  return none

/-- `name as other`; a `type` in front is passed over. -/
def renamed (name other : Parser String) : Parser (String × String) := do
  let typeOnly ← sees do
    check g.language.types
    needWord "type"
    match ← peek with
    | .string _ => return
    | .word "as" =>
      advance
      check ((← atMark "\x7d") || (← atMark ",") || (← sees (needWord "as" *> exportName)))
    | .word _ => return
    | _ => failure
  if typeOnly then advance
  match ← attempt (exportName <* needWord "as") with
  | some first => return (first, ← other)
  | none =>
    let first ← name
    return (first, first)

/-- `* as name` or `\x7b names \x7d`. -/
def importedNames : Parser (List (String × Imported)) := do
  if ← takeMark "*" then
    needWord "as"
    return [(← identifier, .namespace)]
  needMark "\x7b"
  separated "," "\x7d" do
    let (name, local') ← renamed g identifier identifier
    return (local', .named name)

def importStatement : Parser (List StatementTree) := do
  if let some specifier ← attempt text then
    attributesClause g
    endOfStatement
    return [.imports specifier []]
  let typeOnly ← sees do
    check g.language.types
    needWord "type"
    match ← peek with
    | .mark m => check (m == "\x7b" || m == "*")
    | .word "from" =>
      advance
      check ((← atWord "from") || (← atMark "="))
    | .word _ => return
    | _ => failure
  let phased ← sees do
    check (!typeOnly)
    (needWord "defer" *> needMark "*") <|> (needWord "source" *> identifier *> needWord "from")
  if typeOnly || phased then advance
  let first ← attempt identifier
  if first.isSome && g.language.types && (← takeMark "=") then
    let _ ← g.expression true
    endOfStatement
    return []
  let defaults := match first with
    | some name => [(name, Imported.default)]
    | none => []
  let others ←
    if first.isSome then
      if ← takeMark "," then importedNames g else pure []
    else importedNames g
  match ← fromClause g with
  | some specifier =>
    endOfStatement
    return [.imports specifier (defaults ++ others)]
  | none => failure

/-- Names in braces, and the module they are exported from. -/
def exportedNames : Parser StatementTree := do
  needMark "\x7b"
  let names ← separated "," "\x7d" (renamed g exportName exportName)
  let specifier ← fromClause g
  endOfStatement
  return .exports specifier names

/-- `*`, under a name or not, and the module it is exported from. -/
def exportedAll : Parser (List StatementTree) := do
  needMark "*"
  let named ← takeWord "as"
  if named then
    let _ ← exportName
  match ← fromClause g with
  | some specifier =>
    endOfStatement
    return if named then [] else [.exportAll specifier]
  | none => failure

/-- What a module exports by default, after that word. -/
def defaultExport : Parser ExprTree := do
  decorators g
  match ← peek with
  | .word "function" =>
    advance
    let (name, ps) ← functionRest g true
    return .function name ps
  | .word "async" =>
    if ← sees (advance *> (do check (!(← onNewLine)); needWord "function")) then
      advance
      advance
      let (name, ps) ← functionRest g true
      return .function name ps
  | .word "class" =>
    advance
    classRest g
    return .other
  | .word "abstract" =>
    if g.language.types && (← sees (advance *> needWord "class")) then
      advance
      advance
      classRest g
      return .other
  | .word "interface" =>
    if g.language.types && (← namesNext) then
      advance
      let _ ← interface g false
      return .other
  | _ => pure ()
  let operand ← g.expression true
  endOfStatement
  return operand.tree

def exportStatement : Parser (List StatementTree) := do
  let types := g.language.types
  if ← takeWord "default" then return [.exportDefault (← defaultExport g)]
  if ← atMark "*" then return ← exportedAll g
  if ← atMark "\x7b" then return [← exportedNames g]
  if ← sees (needWord "type" *> do check ((← atMark "*") || (← atMark "\x7b"))) then
    check types
    advance
    if ← atMark "*" then return ← exportedAll g
    return [← exportedNames g]
  if types && (← takeMark "=") then
    let _ ← g.expression true
    endOfStatement
    return []
  if types && (← takeWord "as") then
    needWord "namespace"
    let _ ← identifier
    endOfStatement
    return []
  if types && (← takeWord "import") then
    let _ ← takeWord "type"
    let _ ← identifier
    needMark "="
    let _ ← g.expression true
    endOfStatement
    return []
  declaration g true

/-! ## Other statements -/

def parenthesized : Parser Unit := do
  needMark "("
  let _ ← sequence g true
  needMark ")"

/-- The head of a `for` loop, after its first word. -/
def forHead : Parser Unit := do
  let _ ← takeWord "await"
  needMark "("
  if let some () ← attempt variableWord then
    let _ ← declarators g false
  else if !(← atMark ";") then
    let _ ← sequence g false
  if (← takeWord "of") || (← takeWord "in") then
    let _ ← sequence g true
  else
    needMark ";"
    if !(← atMark ";") then
      let _ ← sequence g true
    needMark ";"
    if !(← atMark ")") then
      let _ ← sequence g true
  needMark ")"

def clauses : Parser Unit := do
  needMark "\x7b"
  let _ ← repeated do
    if ← atMark "\x7d" then return none
    if ← takeWord "case" then
      let _ ← sequence g true
      needMark ":"
    else if ← takeWord "default" then needMark ":"
    else
      let _ ← g.statement
    return some ()
  needMark "\x7d"

/-- A statement that starts with a word of its own. -/
def controlStatement (w : String) : Parser Unit := do
  match w with
  | "if" =>
    advance
    parenthesized g
    let _ ← g.statement
    if ← takeWord "else" then
      let _ ← g.statement
  | "for" =>
    advance
    forHead g
    let _ ← g.statement
  | "while" =>
    advance
    parenthesized g
    let _ ← g.statement
  | "do" =>
    advance
    let _ ← g.statement
    needWord "while"
    parenthesized g
    let _ ← takeMark ";"
  | "switch" =>
    advance
    parenthesized g
    clauses g
  | "try" =>
    advance
    block g
    let caught ← takeWord "catch"
    if caught then
      if ← takeMark "(" then
        let _ ← g.pattern
        let _ ← ascription g g.type
        needMark ")"
      block g
    if ← takeWord "finally" then block g else check caught
  | "return" =>
    advance
    if (← attempt endOfStatement).isNone then
      let _ ← sequence g true
      endOfStatement
  | "throw" =>
    advance
    check (!(← onNewLine))
    let _ ← sequence g true
    endOfStatement
  | "break" =>
    advance
    if !(← onNewLine) then
      let _ ← attempt identifier
    endOfStatement
  | "continue" =>
    advance
    if !(← onNewLine) then
      let _ ← attempt identifier
    endOfStatement
  | "debugger" =>
    advance
    endOfStatement
  | "with" =>
    advance
    parenthesized g
    let _ ← g.statement
  | _ => failure

def controlWords : List String :=
  ["if", "for", "while", "do", "switch", "try", "return", "throw", "break", "continue", "debugger",
    "with"]

/-- Words that always start a declaration. -/
def declarationWords : List String := ["var", "const", "function", "class", "enum"]

/-- An expression that stands alone, or a statement behind a label. -/
def plainStatement : Parser Unit := do
  if ← sees (identifier *> needMark ":") then
    advance
    advance
    let _ ← g.statement
  else
    let _ ← sequence g true
    endOfStatement

def statementStep : Parser (List StatementTree) := do
  match ← peek with
  | .mark "\x7b" =>
    block g
    return []
  | .mark ";" =>
    advance
    return []
  | .mark "@" =>
    decorators g
    if ← takeWord "export" then return ← exportStatement g
    declaration g false
  | .word w =>
    if controlWords.contains w then
      controlStatement g w
      return []
    if w == "import" && !(← sees (advance *> do check ((← atMark "(") || (← atMark ".")))) then
      advance
      return ← importStatement g
    if w == "export" then
      advance
      return ← exportStatement g
    if declarationWords.contains w then return ← declaration g false
    let startsDeclaration := ["let", "using", "await", "async", "abstract", "type", "interface",
      "namespace", "module", "global", "declare"].contains w
    if startsDeclaration && (← sees (declarationStart g)) then return ← declaration g false
    plainStatement g
    return []
  | _ =>
    plainStatement g
    return []
where
  /-- The words here can only start a declaration. -/
  declarationStart (g : Grammar) : Parser Unit := do
    match ← peek with
    | .word "let" => variableWord
    | .word "using" => variableWord
    | .word "await" => variableWord
    | .word "async" =>
      advance
      check (!(← onNewLine))
      needWord "function"
    | .word "abstract" =>
      check g.language.types
      advance
      check (!(← onNewLine))
      needWord "class"
    | .word "global" =>
      check g.language.types
      advance
      needMark "\x7b"
    | .word "module" =>
      check g.language.types
      advance
      check (!(← onNewLine))
      let _ ← identifier <|> text
    | .word "declare" =>
      check g.language.types
      advance
      check (!(← onNewLine))
      let _ ← anyWord
    | _ => check (g.language.types && (← namesNext))

/-- The grammar of phrases one level deeper than those of `g`. -/
def step : Grammar where
  language := g.language
  type := typeStep g
  expression allowIn := expressionStep g allowIn false
  branch := expressionStep g true true
  operand := operandStep g
  pattern := patternStep g
  statement := statementStep g
  element := elementStep g

/-- The grammar of phrases up to a depth. -/
def ofDepth (language : Language) (depth : Nat) : Grammar :=
  Nat.repeat step depth (bottom language)

end ApiShapes.Source.Grammar
