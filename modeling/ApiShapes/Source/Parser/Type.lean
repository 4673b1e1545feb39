import ApiShapes.Source.Parser.Basic

/-!
# Types, parameters and patterns

* `Grammar.typeStep` : a type expression, by precedence from conditional types down to names;
* `Grammar.members`, `Grammar.params` : the bodies of object types and the parameters of functions;
* `Grammar.patternStep` : the names and patterns that values are bound to.
-/

namespace ApiShapes.Source.Grammar

variable (g : Grammar)

/-! ## Arguments and parameters of types -/

/-- An opening angle bracket, also as the start of a longer mark. -/
def openAngle : Parser Unit := do
  match ← peek with
  | .mark "<" => advance
  | .mark "<<" => modify fun c => { c with token := .mark "<" }
  | _ => failure

def typeArguments : Parser (List TypeTree) := do
  openAngle
  separated "," ">" g.type

/-- Type arguments that start on this line, if there are any. -/
def typeArgumentsHere : Parser (List TypeTree) := do
  match ← peek with
  | .mark m =>
    if (m == "<" || m == "<<") && !(← onNewLine) then typeArguments g else return []
  | _ => return []

def typeParams : Parser (List (TypeParamOf TypeTree)) := do
  if !(← atMark "<") then return []
  advance
  separated "," ">" do
    let _ ← repeated do
      match ← peek with
      | .word w =>
        let followed ← sees (advance *> identifier)
        if w == "const" || w == "in" || w == "out" && followed then
          advance
          return some ()
        return none
      | _ => return none
    let name ← identifier
    if ← takeWord "extends" then
      let _ ← g.type
    let default ← if ← takeMark "=" then (some <$> g.type) else pure none
    return { name, default }

/-- The type behind a parameter list: a type, or a statement about an argument. -/
def returnType : Parser TypeTree := do
  let predicate ← attempt do
    let _ ← takeWord "asserts"
    let _ ← takeWord "this" <||> (identifier *> pure true)
    check (!(← onNewLine))
    needWord "is"
  match predicate with
  | some () => let _ ← g.type; return .unsupported "type"
  | none => g.type

/-- Parameters in parentheses. Neither `this` nor a rest parameter is one of them. -/
def params : Parser (List ParamTree) := do
  needMark "("
  let listed ← separated "," ")" do
    decorators g
    modifiers ["public", "private", "protected", "readonly", "override"] ["\x7b"]
    if ← takeMark "..." then
      let _ ← g.pattern
      let _ ← takeMark "?"
      let _ ← ascription g g.type
      let _ ← initializer g true
      return none
    if ← takeWord "this" then
      let _ ← ascription g g.type
      return none
    let name ← g.pattern
    if g.language.types then
      let _ ← takeMark "?"
    let type ← ascription g g.type
    let _ ← initializer g true
    return some { name, type }
  return listed.filterMap id

def signature : Parser (List ParamTree) := do
  if g.language.types then
    let _ ← typeParams g
  let ps ← params g
  let _ ← ascription g (returnType g)
  return ps

/-! ## Members of object types -/

def endOfMember : Parser Unit := do
  if ← takeMark "," then return
  endOfStatement

def indexSignature : Parser Unit := do
  needMark "["
  let _ ← identifier
  needMark ":"
  let _ ← g.type
  needMark "]"
  let _ ← ascription g g.type

/-- The token here starts a signature. -/
def atSignature : Parser Bool := do return (← atMark "(") || (← atMark "<")

def member : Parser MemberTree := do
  if ← atSignature then
    let _ ← signature g
    endOfMember
    return .other
  if ← sees (needWord "new" *> do check (← atSignature)) then
    advance
    let _ ← signature g
    endOfMember
    return .other
  modifiers ["readonly", "public", "private", "protected", "static", "declare", "abstract",
    "override", "async", "const", "export", "default", "in", "out", "accessor"] []
  if ← sees (needMark "[" *> identifier *> needMark ":") then
    indexSignature g
    endOfMember
    return .other
  let accessor ← sees do
    check ((← takeWord "get") || (← takeWord "set"))
    check (← atKey)
  if accessor then
    advance
    let (name, _) ← key g
    let _ ← signature g
    endOfMember
    return .method (name.getD "")
  let (name, computed) ← key g
  let optional ← takeMark "?"
  if ← atSignature then
    let _ ← signature g
    endOfMember
    return .method (name.getD "")
  let type ← ascription g g.type
  endOfMember
  match name with
  | some name => return if computed then .other else .property name optional type
  | none => return .other

def members : Parser (List MemberTree) := do
  needMark "\x7b"
  let listed ← repeated do
    if ← atMark "\x7d" then return none
    return some (← member g)
  needMark "\x7d"
  return listed

/-- `readonly`, and a sign before it. -/
def mappedModifier (word : Parser Unit) : Parser Unit := do
  let signed := (do check ((← takeMark "+") || (← takeMark "-")); word : Parser Unit)
  let _ ← attempt (signed <|> word)

def mappedStart : Parser Unit := do
  needMark "\x7b"
  mappedModifier (needWord "readonly")
  needMark "["
  let _ ← identifier
  needWord "in"

def mapped : Parser TypeTree := do
  mappedStart
  let _ ← g.type
  if ← takeWord "as" then
    let _ ← g.type
  needMark "]"
  mappedModifier (needMark "?")
  let _ ← ascription g g.type
  let _ ← takeMark ";" <||> takeMark ","
  needMark "\x7d"
  return .unsupported "mapped"

/-! ## Type expressions -/

/-- Keywords that are types wherever no dot follows them. -/
def keywordType : String → Option Keyword
  | "string" => some .string
  | "number" => some .number
  | "boolean" => some .boolean
  | "undefined" => some .undefined
  | "any" => some .any
  | "unknown" => some .unknown
  | "never" => some .never
  | "bigint" => some .other
  | "object" => some .other
  | "symbol" => some .other
  | _ => none

def dotted (first : String) : Parser String := do
  let others ← repeated do
    if ← takeMark "." then return some (← anyWord)
    return none
  return ".".intercalate (first :: others)

/-- An element of a tuple type, with its name if it has one. -/
def tupleElement : Parser Unit := do
  let _ ← takeMark "..."
  let _ ← attempt do
    let _ ← anyWord
    let _ ← takeMark "?"
    needMark ":"
  let _ ← g.type
  let _ ← takeMark "?"

/-- `import("specifier").name<arguments>`, of which the first word has been read. -/
def importType : Parser Unit := do
  needMark "("
  let _ ← g.type
  if ← takeMark "," then
    let _ ← g.expression true
    let _ ← takeMark ","
  needMark ")"
  let _ ← dotted ""
  let _ ← typeArgumentsHere g

def literalType (negative : Bool) : Parser TypeTree := do
  match ← peek with
  | .number x =>
    advance
    return .literal (.number (if negative then -x else x))
  | .bigint _ =>
    advance
    return .unsupported "literal"
  | _ => failure

/-- A type without operators. -/
def primaryType : Parser TypeTree := do
  match ← peek with
  | .string s =>
    advance
    return .literal (.string s)
  | .number _ => literalType false
  | .bigint _ => literalType false
  | .mark "-" =>
    advance
    literalType true
  | .mark "`" =>
    match ← template (g.type *> pure ()) with
    | some _ => return .unsupported "literal"
    | none => return .unsupported "type"
  | .mark "(" =>
    advance
    let type ← g.type
    needMark ")"
    return type
  | .mark "[" =>
    advance
    let _ ← separated "," "]" (tupleElement g)
    return .unsupported "tuple"
  | .mark "\x7b" =>
    if ← sees mappedStart then mapped g else return .object (← members g)
  | .word w =>
    let dot ← sees (advance *> needMark ".")
    match keywordType w, dot with
    | some k, false =>
      advance
      return .keyword k
    | _, _ =>
      match w with
      | "null" => advance; return .keyword .null
      | "void" => advance; return .keyword .void
      | "true" => advance; return .literal (.bool true)
      | "false" => advance; return .literal (.bool false)
      | "this" => advance; return .unsupported "type"
      | "typeof" =>
        advance
        if ← takeWord "import" then importType g
        else
          let first ← takeWord "this" <||> (identifier *> pure true)
          let _ ← dotted (toString first)
          let _ ← typeArgumentsHere g
        return .unsupported "typeof"
      | "import" =>
        advance
        importType g
        return .unsupported "type"
      | _ =>
        let asserted ← sees do
          needWord "asserts"
          check (!(← onNewLine))
          let _ ← takeWord "this" <||> (identifier *> pure true)
        if asserted then
          advance
          advance
          if ← takeWord "is" then
            let _ ← g.type
          return .unsupported "type"
        let name ← dotted (← identifier)
        return .reference name (← typeArgumentsHere g)
  | _ => failure

/-- A type with what may follow it: array brackets, an index, a mark of doubt. -/
def postfixType : Parser TypeTree := do
  let start ← primaryType g
  let steps ← repeated do
    if ← onNewLine then return none
    if ← takeMark "[" then
      if ← takeMark "]" then return some TypeTree.array
      let _ ← g.type
      needMark "]"
      return some fun _ => .unsupported "indexed access"
    if ← takeMark "!" then return some fun _ => .unsupported "type"
    return none
  return steps.foldl (fun type step => step type) start

/-- A type behind its operators, of which only `readonly` leaves it as it is. -/
def operatorType : Parser TypeTree := do
  let operators ← repeated do
    if ← takeWord "keyof" then return some false
    if ← takeWord "unique" then return some false
    if ← takeWord "readonly" then return some true
    return none
  let type ←
    if ← takeWord "infer" then do
      let _ ← identifier
      let _ ← attempt do
        needWord "extends"
        let _ ← postfixType g
        check (!(← atMark "?"))
      pure (TypeTree.unsupported "type")
    else postfixType g
  return if operators.all id then type else .unsupported "type"

/-- Types joined by a mark, which may also stand before the first. -/
def joinedTypes (m : String) (join : List TypeTree → TypeTree) (part : Parser TypeTree) :
    Parser TypeTree := do
  let leading ← takeMark m
  match ← chained m part with
  | [type] => return if leading then join [type] else type
  | types => return join types

/-- `(parameters) => type`, with type parameters or without. -/
def functionType : Parser Unit := do
  let _ ← typeParams g
  let _ ← params g
  needMark "=>"
  let _ ← returnType g

/-- A type without a condition at its top. -/
def plainType : Parser TypeTree := do
  if ← atMark "<" then
    functionType g
    return .function
  let constructs ← sees do
    let _ ← takeWord "abstract"
    needWord "new"
    check ((← atMark "(") || (← atMark "<"))
  if constructs then
    let _ ← takeWord "abstract"
    needWord "new"
    functionType g
    return .function
  if ← atMark "(" then
    if let some () ← attempt (functionType g) then return .function
  joinedTypes "|" .union (joinedTypes "&" .intersection (operatorType g))

def typeStep : Parser TypeTree := do
  let type ← plainType g
  if !(← onNewLine) && (← takeWord "extends") then
    let _ ← plainType g
    needMark "?"
    let _ ← g.type
    needMark ":"
    let _ ← g.type
    return .unsupported "conditional"
  return type

/-! ## Patterns -/

def patternWithDefault : Parser Unit := do
  let _ ← g.pattern
  let _ ← initializer g true

/-- A name, or a pattern in braces or brackets. -/
def patternStep : Parser (Option String) := do
  match ← peek with
  | .mark "\x7b" =>
    advance
    let _ ← separated "," "\x7d" do
      if ← takeMark "..." then
        let _ ← g.pattern
      else if ← sees (identifier *> do check (!(← atMark ":"))) then
        let _ ← identifier
        let _ ← initializer g true
      else
        let _ ← key g
        needMark ":"
        patternWithDefault g
    return none
  | .mark "[" =>
    advance
    let _ ← repeated do
      if ← atMark "]" then return none
      if ← takeMark "," then return some ()
      let _ ← takeMark "..."
      patternWithDefault g
      if !(← atMark "]") then needMark ","
      return some ()
    needMark "]"
    return none
  | _ => return some (← identifier)

end ApiShapes.Source.Grammar
