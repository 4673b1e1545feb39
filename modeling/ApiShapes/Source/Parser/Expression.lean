import ApiShapes.Source.Parser.Type

/-!
# Expressions

* `Grammar.expressionStep` : an expression without a comma, by precedence from assignments down to
  names; assertions, parentheses and non-null marks pass the inner expression on;
* `Grammar.functionRest`, `Grammar.classRest` : functions and classes after their keyword;
* `Grammar.elementStep` : markup elements.
-/

namespace ApiShapes.Source.Grammar

variable (g : Grammar)

/-- An expression of no further interest. -/
def opaqueOperand : Operand := { tree := .other }

/-- An expression of no further interest that can be assigned to. -/
def place : Operand := { tree := .other, assignable := true }

/-- Expressions with commas between them; only a single one is passed on. -/
def sequence (allowIn : Bool) : Parser Operand := do
  match ← chained "," (g.expression allowIn) with
  | [operand] => return operand
  | _ => return opaqueOperand

/-! ## Functions and classes -/

def block : Parser Unit := do
  needMark "\x7b"
  let _ ← repeated do
    if ← atMark "\x7d" then return none
    let _ ← g.statement
    return some ()
  needMark "\x7d"

/-- A function after `function`. A declaration may lack its body. -/
def functionRest (declaration : Bool) : Parser (Option String × List ParamTree) := do
  let _ ← takeMark "*"
  let name ← attempt identifier
  let ps ← signature g
  if declaration && g.language.types && !(← atMark "\x7b") then endOfStatement else block g
  return (name, ps)

def classMember : Parser Unit := do
  if ← takeMark ";" then return
  decorators g
  if ← sees (needWord "static" *> needMark "\x7b") then
    advance
    block g
    return
  modifiers ["public", "private", "protected", "static", "abstract", "readonly", "override",
    "declare", "accessor", "async"] ["*"]
  let _ ← takeMark "*"
  if g.language.types && (← sees (needMark "[" *> identifier *> needMark ":")) then
    indexSignature g
    endOfMember
    return
  if ← sees (do check ((← takeWord "get") || (← takeWord "set")); check (← atKey)) then advance
  let _ ← key g
  if g.language.types then
    let _ ← takeMark "?" <||> takeMark "!"
  if ← atSignature then
    let _ ← signature g
    if g.language.types && !(← atMark "\x7b") then endOfStatement else block g
  else
    let _ ← ascription g g.type
    let _ ← initializer g true
    endOfStatement

/-- A class after `class`. -/
def classRest : Parser Unit := do
  let name ← sees do
    check (!(← atWord "implements"))
    identifier
  if name then
    let _ ← identifier
  if g.language.types then
    let _ ← typeParams g
  if ← takeWord "extends" then
    let _ ← g.operand
    if g.language.types then
      let _ ← typeArgumentsHere g
  if g.language.types && (← takeWord "implements") then
    let _ ← chained "," g.type
  needMark "\x7b"
  let _ ← repeated do
    if ← atMark "\x7d" then return none
    classMember g
    return some ()
  needMark "\x7d"

/-! ## Primary expressions -/

/-- Arguments in parentheses; a spread one is of no further interest. -/
def arguments : Parser (List ExprTree) := do
  needMark "("
  separated "," ")" do
    if ← takeMark "..." then
      let _ ← g.expression true
      return .other
    return (← g.expression true).tree

def property : Parser (PropertyOf ExprTree) := do
  if ← takeMark "..." then
    let _ ← g.expression true
    return { key := none, value := .other }
  modifiers ["async"] ["*"]
  let generator ← takeMark "*"
  let accessor ← sees do
    check ((← takeWord "get") || (← takeWord "set"))
    check (← atKey)
  if accessor && !generator then advance
  let shorthand ← sees identifier
  let (name, computed) ← key g
  let key := if computed then none else name
  if ← atSignature then
    let ps ← signature g
    block g
    return { key, value := .function none ps }
  if ← takeMark ":" then return { key, value := (← g.expression true).tree }
  check shorthand
  let _ ← initializer g true
  return { key, value := .ident (name.getD "") }

/-- What stands before the dots, calls and indices of an expression. -/
def primary : Parser Operand := do
  match ← peek with
  | .string _ => advance; return opaqueOperand
  | .number _ => advance; return opaqueOperand
  | .bigint _ => advance; return opaqueOperand
  | .privateName => advance; return opaqueOperand
  | .mark "`" =>
    let _ ← template (sequence g true *> pure ())
    return opaqueOperand
  | .mark "(" =>
    advance
    let inner ← sequence g true
    needMark ")"
    return inner
  | .mark "[" =>
    advance
    let _ ← repeated do
      if ← atMark "]" then return none
      if ← takeMark "," then return some ()
      let _ ← takeMark "..."
      let _ ← g.expression true
      if !(← atMark "]") then needMark ","
      return some ()
    needMark "]"
    return place
  | .mark "\x7b" =>
    advance
    let properties ← separated "," "\x7d" (property g)
    return { tree := .object properties, assignable := true }
  | .mark "@" =>
    decorators g
    needWord "class"
    classRest g
    return opaqueOperand
  | .mark m =>
    check (m == "/" || m == "/=")
    match scanRegex false ((if m == "/=" then ['='] else []) ++ (← get).rest) with
    | some rest =>
      goTo rest
      return opaqueOperand
    | none => failure
  | .word w =>
    if ["this", "null", "true", "false", "super"].contains w then
      advance
      return opaqueOperand
    if w == "function" then
      advance
      let (name, ps) ← functionRest g false
      return { tree := .function name ps }
    if w == "async" && (← sees (advance *> (do check (!(← onNewLine)); needWord "function"))) then
      advance
      advance
      let (name, ps) ← functionRest g false
      return { tree := .function name ps }
    if w == "class" then
      advance
      classRest g
      return opaqueOperand
    if w == "import" then
      advance
      if ← takeMark "." then
        let _ ← anyWord
      else
        let _ ← arguments g
      return opaqueOperand
    return { tree := .ident (← identifier), assignable := true }
  | _ => failure

/-! ## Calls and members -/

/-- Type arguments of an expression, where what follows shows that they are ones. The result tells
whether a call or a template follows. -/
def expressionTypeArguments : Parser Unit := do
  check g.language.types
  let _ ← typeArguments g
  match ← peek with
  | .mark m =>
    if m == "(" || m == "`" then return
    if ["<", ">", "+", "-"].contains m then failure
    let starts := ["[", "\x7b", "!", "~", "++", "--", "/", "/=", "@"].contains m
    check ((← onNewLine) || !starts)
  | .word w => check ((← onNewLine) || ["in", "instanceof", "as", "satisfies"].contains w)
  | .done => return
  | _ => check (← onNewLine)

/-- One step of a chain of calls and members after an operand. The flag tells that an optional step
came before. -/
def chainStep (calls : Bool) (optional : Bool) (operand : Operand) :
    Parser (Option (Bool × Operand)) := do
  let after (result : Operand) : Option (Bool × Operand) :=
    some (optional, if optional then opaqueOperand else result)
  match ← peek with
  | .mark "." =>
    advance
    if (← peek) == .privateName then advance
    else
      let _ ← anyWord
    return after place
  | .mark "[" =>
    advance
    let _ ← sequence g true
    needMark "]"
    return after place
  | .mark "!" =>
    if g.language.types && !(← onNewLine) then
      advance
      return after operand
    return none
  | .mark "`" =>
    let _ ← template (sequence g true *> pure ())
    return after opaqueOperand
  | .mark "?." =>
    if !calls then return none
    advance
    match ← peek with
    | .mark "(" =>
      let _ ← arguments g
    | .mark "[" =>
      advance
      let _ ← sequence g true
      needMark "]"
    | .mark "<" =>
      let _ ← typeArguments g
      let _ ← arguments g
    | .privateName => advance
    | _ =>
      let _ ← anyWord
    return some (true, opaqueOperand)
  | .mark "(" =>
    if !calls then return none
    let args ← arguments g
    return after { tree := .call operand.tree args }
  | .mark m =>
    if m == "<" || m == "<<" then
      match ← attempt (expressionTypeArguments g) with
      | some () => return after { operand with assignable := false }
      | none => return none
    return none
  | _ => return none

def chainUpTo (calls : Bool) : Nat → Bool → Operand → Parser Operand
  | 0, _, operand => pure operand
  | bound + 1, optional, operand => do
    match ← chainStep g calls optional operand with
    | some (optional, operand) => chainUpTo calls bound optional operand
    | none => return operand

def chain (calls : Bool) (start : Operand) : Parser Operand := do
  chainUpTo g calls ((← get).rest.length + 2) false start

/-- A `new` expression, of which the first word has been read. -/
def construct : Parser Operand := do
  if ← takeMark "." then
    let _ ← anyWord
    return opaqueOperand
  let _ ← repeated do
    if ← takeWord "new" then return some ()
    return none
  let start ← primary g
  let _ ← chain g false start
  let _ ← repeated do
    if ← atMark "(" then
      let _ ← arguments g
      return some ()
    return none
  return opaqueOperand

def operandStep : Parser Operand := do
  let start ← if ← takeWord "new" then construct g else primary g
  chain g true start

/-! ## Markup -/

/-- A name of an element or an attribute, with dashes, colons and dots in it. -/
def markupName : Parser Unit := do
  let _ ← anyWord
  let c ← get
  let inName := fun ch => Text.isIdentifierPart ch || ch == '-' || ch == ':' || ch == '.'
  -- the word's token has been left, so its rest can only go on with a mark
  match c.token with
  | .mark m =>
    if !c.newLine && ["-", "--", "-=", ":", "."].contains m then
      goTo ((m.toList ++ c.rest).dropWhile inName)
  | _ => pure ()

/-- The text in quotes that follows an equals sign; a backslash has no meaning in it. -/
def markupString (cs : List Char) : Option (List Char) :=
  match (skipBlanks false cs).2 with
  | q :: rest =>
    if q == '"' || q == '\'' then
      match rest.dropWhile (· != q) with
      | _ :: rest => some rest
      | [] => none
    else none
  | [] => none

def attributes : Parser Unit := do
  let _ ← repeated do
    match ← peek with
    | .mark "\x7b" =>
      advance
      needMark "..."
      let _ ← g.expression true
      needMark "\x7d"
      return some ()
    | .word _ =>
      markupName
      let c ← get
      if c.token == .mark "=" then
        match markupString c.rest with
        | some rest => goTo rest
        | none =>
          advance
          if ← takeMark "\x7b" then
            let _ ← g.expression true
            needMark "\x7d"
          else
            g.element
            advance
      return some ()
    | _ => return none

/-- What stands between the opening and the closing tag of an element, up to the closing tag's `<`.
The token here is the opening tag's `>`. -/
def content : Parser Unit := do
  let _ ← repeated do
    let c ← get
    goTo (c.rest.dropWhile fun ch => ch != '<' && ch != '\x7b')
    if ← takeMark "\x7b" then
      if !(← atMark "\x7d") then
        let _ ← takeMark "..."
        let _ ← g.expression true
      check (← atMark "\x7d")
      return some ()
    check (← atMark "<")
    if ← sees (advance *> needMark "/") then return none
    g.element
    return some ()

/-- A markup element up to its last `>`, which is left as the token. -/
def elementStep : Parser Unit := do
  needMark "<"
  if !(← atMark ">") then
    markupName
    if g.language.types then
      let _ ← typeArgumentsHere g
    attributes g
    if ← takeMark "/" then
      check (← atMark ">")
      return
  check (← atMark ">")
  content g
  needMark "<"
  needMark "/"
  if !(← atMark ">") then markupName
  check (← atMark ">")

/-! ## Operators -/

/-- Operators before an operand. The result tells whether they leave the operand as it is, as a
type assertion does. -/
def prefixOperator : Parser (Option Bool) := do
  match ← peek with
  | .mark m =>
    if ["!", "~", "+", "-", "++", "--"].contains m then
      advance
      return some false
    if m == "<" && g.language.types && !g.language.markup then
      advance
      if !(← takeWord "const") then
        let _ ← g.type
      needMark ">"
      return some true
    return none
  | .word w =>
    if ["typeof", "void", "delete", "await"].contains w then
      advance
      return some false
    return none
  | _ => return none

/-- An operand with the operators before and after it. -/
def unary : Parser Operand := do
  let operators ← repeated (prefixOperator g)
  let operand ←
    if g.language.markup && (← atMark "<") then do
      elementStep g
      needMark ">"
      pure opaqueOperand
    else operandStep g
  let after ← attempt do
    check (!(← onNewLine))
    check ((← takeMark "++") || (← takeMark "--"))
  if operators.all id && after.isNone then
    return { operand with assignable := operand.assignable && operators.isEmpty }
  return opaqueOperand

/-- The operator that a `>` here begins. -/
def angleOperator (rest : List Char) : String × List Char :=
  match rest with
  | '>' :: '>' :: '=' :: rest => (">>>=", rest)
  | '>' :: '>' :: rest => (">>>", rest)
  | '>' :: '=' :: rest => (">>=", rest)
  | '>' :: rest => (">>", rest)
  | '=' :: rest => (">=", rest)
  | _ => (">", rest)

def binaryMarks : List String :=
  ["||", "&&", "??", "|", "^", "&", "==", "!=", "===", "!==", "<", "<=", "<<", "+", "-", "*", "/",
    "%", "**"]

/-- Goes past an operator between two operands. -/
def binaryOperator (allowIn : Bool) : Parser (Option Unit) := do
  match ← peek with
  | .mark ">" =>
    let (operator, rest) := angleOperator (← get).rest
    if operator == ">>=" || operator == ">>>=" then return none
    goTo rest
    return some ()
  | .mark m =>
    if binaryMarks.contains m then
      advance
      return some ()
    return none
  | .word w =>
    if w == "instanceof" || w == "in" && allowIn then
      advance
      return some ()
    return none
  | _ => return none

def assertion : Parser (Option Unit) := do
  if !g.language.types || (← onNewLine) then return none
  if (← takeWord "as") || (← takeWord "satisfies") then
    if !(← takeWord "const") then
      let _ ← g.type
    return some ()
  return none

/-- Operands with operators and assertions between them. -/
def binary (allowIn : Bool) : Parser Operand := do
  let first ← unary g
  let steps ← repeated do
    if let some () ← assertion g then return some true
    match ← binaryOperator allowIn with
    | some () =>
      let _ ← unary g
      return some false
    | none => return none
  return if steps.all id then first else opaqueOperand

/-! ## Arrow functions and assignments -/

/-- The parameters of an arrow function, up to and including the arrow. The flag tells that a type
stands in front of the arrow. -/
def arrowHead : Parser (List ParamTree × Bool) := do
  if ← sees (needWord "async" *> do
      check (!(← onNewLine))
      check ((← sees identifier) || (← atSignature))
      check (!(← atMark "=>"))) then advance
  let (ps, typed) ←
    if ← sees identifier then do
      let name ← identifier
      pure ([{ name := some name, type := none : ParamTree }], false)
    else do
      if g.language.markup && (← atMark "<") then
        check (← sees (needMark "<" *> identifier *> do
          check ((← atMark ",") || (← atWord "extends"))))
      if g.language.types then
        let _ ← typeParams g
      let ps ← params g
      let type ← ascription g (returnType g)
      pure (ps, type.isSome)
  check (!(← onNewLine))
  needMark "=>"
  return (ps, typed)

/-- The token here may start an arrow function. -/
def atArrow : Parser Bool := do
  match ← peek with
  | .word w =>
    if w == "async" then return true
    sees (identifier *> needMark "=>")
  | .mark m => return m == "(" || m == "<" && g.language.types
  | _ => return false

def assignmentMarks : List String :=
  ["=", "+=", "-=", "*=", "/=", "%=", "**=", "<<=", "&=", "|=", "^=", "&&=", "||=", "??="]

/-- Goes past the mark of an assignment. -/
def assignmentOperator : Parser Bool := do
  match ← peek with
  | .mark ">" =>
    let (operator, rest) := angleOperator (← get).rest
    if operator == ">>=" || operator == ">>>=" then
      goTo rest
      return true
    return false
  | .mark m =>
    if assignmentMarks.contains m then
      advance
      return true
    return false
  | _ => return false

/-- The token here ends an expression. -/
def atEndOfExpression : Parser Bool := do
  match ← peek with
  | .done => return true
  | .mark m => return [")", "]", "\x7d", ",", ";", ":"].contains m
  | .word w => return w == "in" || w == "of"
  | _ => return false

/-- An arrow function, of which the result is the parameters. In a branch a colon that seems to stand
before the type of what is returned may be the branch's own; then none is left behind the body. -/
def arrow (body : Parser Operand) (branch : Bool) : Parser (List ParamTree) := do
  let (ps, typed) ← arrowHead g
  if ← atMark "\x7b" then block g
  else
    let _ ← body
  if branch && typed then check (← atMark ":")
  return ps

/-- An expression without a comma, perhaps as a branch between `?` and `:`. -/
def expressionStep (allowIn branch : Bool) : Parser Operand := do
  let rest := if branch then g.branch else g.expression allowIn
  if ← atArrow g then
    if let some ps ← attempt (arrow g rest branch) then return { tree := .function none ps }
  if ← takeWord "yield" then
    if (← takeMark "*") || !((← onNewLine) || (← atEndOfExpression)) then
      let _ ← g.expression allowIn
    return opaqueOperand
  let left ← binary g allowIn
  if ← takeMark "?" then
    let _ ← g.branch
    needMark ":"
    let _ ← rest
    return opaqueOperand
  if ← assignmentOperator then
    check left.assignable
    let _ ← g.expression allowIn
    return opaqueOperand
  return left

end ApiShapes.Source.Grammar
