import ApiShapes.Source.Token
import ApiShapes.Source.Tree

/-!
# Reading a module token by token

* `Cursor`, `Parser` : a place in a text, and steps that read on from there or fail;
* `takeMark`, `needMark`, `takeWord`, `identifier` and their like : single tokens;
* `repeated`, `separated` : lists, read while something is taken in;
* `Grammar` : the phrases that contain one another, each as a parser.

A grammar is built from the one that reads phrases a level less deep (`Grammar.step` in the module of
statements), so that no parser calls itself.
-/

namespace ApiShapes.Source

/-- What a text may contain beyond the language's core. -/
structure Language where
  /-- type annotations and declarations -/
  types : Bool
  /-- markup elements -/
  markup : Bool
  deriving DecidableEq, Repr

/-- A place in a text: the token there, and what follows it. -/
structure Cursor where
  token : Token
  /-- a line ended before the token -/
  newLine : Bool
  rest : List Char

/-- The place of the next token of a text. -/
def Cursor.at (cs : List Char) : Cursor :=
  let (token, newLine, rest) := Token.next cs
  { token, newLine, rest }

abbrev Parser := StateT Cursor Option

/-! ## Single tokens -/

def peek : Parser Token := do return (← get).token

/-- A line ended before the token here. -/
def onNewLine : Parser Bool := do return (← get).newLine

def advance : Parser Unit := modify fun c => .at c.rest

/-- Goes to the first token of `cs`. -/
def goTo (cs : List Char) : Parser Unit := set (Cursor.at cs)

/-- The result of `p`, or none and no step taken if it fails. -/
def attempt {α : Type} (p : Parser α) : Parser (Option α) := fun c =>
  match p c with
  | some (a, c') => some (some a, c')
  | none => some (none, c)

/-- Whether `p` succeeds here. No step is taken. -/
def sees {α : Type} (p : Parser α) : Parser Bool := fun c => some ((p c).isSome, c)

def check (condition : Bool) : Parser Unit := if condition then pure () else failure

def atMark (m : String) : Parser Bool := do return (← peek) == .mark m

def atWord (w : String) : Parser Bool := do return (← peek) == .word w

/-- Goes past the mark if it is here. -/
def takeMark (m : String) : Parser Bool := do
  if ← atMark m then
    advance
    return true
  return false

def takeWord (w : String) : Parser Bool := do
  if ← atWord w then
    advance
    return true
  return false

def needMark (m : String) : Parser Unit := do check (← takeMark m)

def needWord (w : String) : Parser Unit := do check (← takeWord w)

/-- Words that name nothing. -/
def reservedWords : List String :=
  ["break", "case", "catch", "class", "const", "continue", "debugger", "default", "delete", "do",
    "else", "enum", "export", "extends", "false", "finally", "for", "function", "if", "import", "in",
    "instanceof", "new", "null", "return", "super", "switch", "this", "throw", "true", "try",
    "typeof", "var", "void", "while", "with"]

/-- A name that is no reserved word. -/
def identifier : Parser String := do
  match ← peek with
  | .word w =>
    check (!reservedWords.contains w)
    advance
    return w
  | _ => failure

def anyWord : Parser String := do
  match ← peek with
  | .word w =>
    advance
    return w
  | _ => failure

def text : Parser String := do
  match ← peek with
  | .string s =>
    advance
    return s
  | _ => failure

/-- A name as it is imported or exported: any word, or a text in quotes. -/
def exportName : Parser String := anyWord <|> text

/-- The end of a statement: a semicolon, or a place where one may be left out. -/
def endOfStatement : Parser Unit := do
  if ← takeMark ";" then return
  match ← peek with
  | .done => return
  | .mark "\x7d" => return
  | _ => check (← onNewLine)

/-! ## Lists -/

/-- What `p` reads, time after time, up to `bound` times, until it gives nothing. -/
def repeatedUpTo {α : Type} (p : Parser (Option α)) : Nat → Parser (List α)
  | 0 => pure []
  | bound + 1 => do
    match ← p with
    | none => return []
    | some a => return a :: (← repeatedUpTo p bound)

/-- What `p` reads, time after time, until it gives nothing. Each time takes in a character at
least, so that the text's length bounds the repetition. -/
def repeated {α : Type} (p : Parser (Option α)) : Parser (List α) := do
  repeatedUpTo p ((← get).rest.length + 2)

/-- Phrases up to the mark `close`, with the mark `sep` between them and perhaps after the last. -/
def separated {α : Type} (sep close : String) (p : Parser α) : Parser (List α) := do
  let items ← repeated do
    if ← atMark close then return none
    let a ← p
    if ← takeMark sep then return some a
    check (← atMark close)
    return some a
  needMark close
  return items

/-- One or more phrases with the mark `sep` between each two. -/
def chained {α : Type} (sep : String) (p : Parser α) : Parser (List α) := do
  let first ← p
  let others ← repeated do
    if ← takeMark sep then return some (← p)
    return none
  return first :: others

/-! ## Phrases -/

/-- An expression, and whether a value can be assigned to it. -/
structure Operand where
  tree : ExprTree
  assignable : Bool := false

/-- The phrases that contain one another. -/
structure Grammar where
  language : Language
  type : Parser TypeTree
  /-- an expression without a comma; the flag allows the operator `in` -/
  expression : Bool → Parser Operand
  /-- an expression between `?` and `:` -/
  branch : Parser Operand
  /-- an operand with its calls and members -/
  operand : Parser Operand
  /-- the name or the pattern that a value is bound to; a pattern has no name -/
  pattern : Parser (Option String)
  /-- the statement's declarations -/
  statement : Parser (List StatementTree)
  /-- a markup element up to its last `>`, which is left as the token -/
  element : Parser Unit

/-- The grammar that reads nothing. -/
def Grammar.bottom (language : Language) : Grammar where
  language
  type := failure
  expression _ := failure
  branch := failure
  operand := failure
  pattern := failure
  statement := failure
  element := failure

namespace Grammar

variable (g : Grammar)

/-- The key of a property, and whether it is computed. Some keys have no text. -/
def key : Parser (Option String × Bool) := do
  match ← peek with
  | .word w => advance; return (some w, false)
  | .string s => advance; return (some s, false)
  | .number x => advance; return (some x.display, false)
  | .bigint digits => advance; return (some digits, false)
  | .privateName => advance; return (none, false)
  | .mark "[" =>
    advance
    let name ← match ← peek with
      | .string s => pure (some s)
      | .number x => pure (some x.display)
      | .bigint digits => pure (some digits)
      | .word "null" => pure (some "null")
      | _ => pure none
    let plain ← sees (advance *> needMark "]")
    let _ ← g.expression true
    needMark "]"
    return (if plain then name else none, true)
  | _ => failure

/-- The token here can start a property's key. -/
def atKey : Parser Bool := do
  match ← peek with
  | .word _ => return true
  | .string _ => return true
  | .number _ => return true
  | .bigint _ => return true
  | .privateName => return true
  | .mark m => return m == "["
  | _ => return false

/-- Words before a member that say how it is declared. A word is one of these only if a key, or
what else may start a member, follows it. -/
def modifiers (words : List String) (starts : List String) : Parser Unit := do
  let _ ← repeated do
    match ← peek with
    | .word w =>
      if words.contains w then
        let followed ← sees do
          advance
          check (!(← onNewLine))
          let key ← atKey
          match ← peek with
          | .mark m => check (key || starts.contains m)
          | _ => check key
        if followed then
          advance
          return some ()
      return none
    | _ => return none

/-- The pieces of a text in back quotes, of which the opening one is here. The value is known if
nothing is substituted. -/
def template (substitution : Parser Unit) : Parser (Option String) := do
  let c ← get
  check (c.token == .mark "`")
  match scanString '`' [] c.rest with
  | none => failure
  | some (units, .closed, rest) =>
    goTo rest
    return some (Unit16.text units)
  | some (_, .substitution, rest) =>
    goTo rest
    let _ ← repeated do
      substitution
      let c ← get
      check (c.token == .mark "\x7d")
      match scanString '`' [] c.rest with
      | none => failure
      | some (_, .closed, rest) =>
        goTo rest
        return none
      | some (_, .substitution, rest) =>
        goTo rest
        return some ()
    return none

/-- `: type`, if types are read and one is written. -/
def ascription (type : Parser TypeTree) : Parser (Option TypeTree) := do
  if g.language.types && (← takeMark ":") then return some (← type)
  return none

/-- `= expression`, if one is written. -/
def initializer (allowIn : Bool) : Parser (Option ExprTree) := do
  if ← takeMark "=" then return some (← g.expression allowIn).tree
  return none

/-- `@expression`, any number of times. -/
def decorators : Parser Unit := do
  let _ ← repeated do
    if ← takeMark "@" then
      let _ ← g.operand
      return some ()
    return none

end Grammar

end ApiShapes.Source
