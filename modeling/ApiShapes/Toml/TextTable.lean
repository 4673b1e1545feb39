import ApiShapes.Text.Hex
import ApiShapes.Text.Reader

/-!
# TOML documents of texts

* `Toml.readTable` : reads a document in which every entry of the top table is a text;
* `Toml.readString` : the four kinds of strings.

A document with any other value, a dotted key or a table header is refused.
-/

namespace ApiShapes.Toml

open Text Text.Reader

/-! ## Blanks and comments -/

def spaces : Reader Unit := do
  let _ ← takeWhile fun c => c == ' ' || c == '\t'

def lineEnd : Reader Bool := do
  if ← accept '\n' then return true
  acceptText ['\r', '\n']

def comment : Reader Unit := do
  if ← accept '#' then
    let _ ← takeWhile fun c => c == '\t' || ' ' ≤ c

/-- A character that may stand in strings as it is, quotes and backslashes apart. -/
def isPlain (c : Char) : Bool :=
  c == '\t' || (' ' ≤ c && c != '\x7f')

/-! ## Strings -/

/-- A character given by so many hexadecimal digits. -/
def hexChar (digits : Nat) : Reader Char := do
  let cs := (← get).take digits
  set ((← get).drop digits)
  match hexNumber cs with
  | some n => if cs.length == digits && n.isValidChar then return .ofNat n else failure
  | none => failure

/-- What stands for a character after a backslash. -/
def escaped : Reader Char := do
  match ← next with
  | 'b' => return '\x08'
  | 't' => return '\t'
  | 'n' => return '\n'
  | 'f' => return '\x0c'
  | 'r' => return '\r'
  | '"' => return '"'
  | '\\' => return '\\'
  | 'u' => hexChar 4
  | 'U' => hexChar 8
  | _ => failure

/-- A character of a string on one line, up to its closing quote. With `escapes` a backslash starts
an escape. -/
def lineChar (quote : Char) (escapes : Bool) : Reader (Option Char) := do
  let c ← next
  if c == quote then return none
  if escapes && c == '\\' then return some (← escaped)
  if isPlain c then return some c
  failure

/-- Goes past the end of a line and all blanks and ends of lines after it, where nothing but blanks
stands in front. -/
def lineJoin : Reader Bool := do
  let cs ← get
  spaces
  if ← lineEnd then
    let _ ← many do
      match ← peek with
      | some ' ' => return some (← next)
      | some '\t' => return some (← next)
      | _ => return if ← lineEnd then some '\n' else none
    return true
  set cs
  return false

/-- The next step in a string of several lines, up to three quotes in a row. -/
def blockPart (quote : Char) (escapes : Bool) : Reader (Option (List Char)) := do
  if [quote, quote, quote].isPrefixOf (← get) then return none
  if ← lineEnd then return some ['\n']
  let c ← next
  if c == quote then return some [c]
  if escapes && c == '\\' then
    if ← lineJoin then return some []
    return some [← escaped]
  if isPlain c then return some [c]
  failure

/-- A string of several lines after its opening quotes. The end of the first line does not count. Of
up to five quotes at the end the last three close the string. -/
def blockRest (quote : Char) (escapes : Bool) : Reader (List Char) := do
  let _ ← lineEnd
  let parts ← many (blockPart quote escapes)
  let run := ((← get).takeWhile (· == quote)).take 5
  set ((← get).drop run.length)
  return parts.flatten ++ run.drop 3

def stringWith (quote : Char) (escapes : Bool) : Reader String := do
  if ← acceptText [quote, quote, quote] then return .ofList (← blockRest quote escapes)
  expect [quote]
  return .ofList (← many (lineChar quote escapes))

def readString : Reader String := do
  match ← peek with
  | some '\'' => stringWith '\'' false
  | _ => stringWith '"' true

/-! ## Entries -/

/-- A key, bare or in quotes on one line. -/
def key : Reader String := do
  match ← peek with
  | some '"' =>
    let _ ← next
    return .ofList (← many (lineChar '"' true))
  | some '\'' =>
    let _ ← next
    return .ofList (← many (lineChar '\'' false))
  | _ =>
    let cs ← takeWhile fun c => c.isAlphanum || c == '_' || c == '-'
    if cs.isEmpty then failure
    return .ofList cs

/-- The end of a line or of the text, with a comment in front of it. -/
def lineRest : Reader Unit := do
  spaces
  comment
  if !(← lineEnd) then done

/-- What stands on a line: an entry or nothing. Gives nothing at the end of the text. -/
def line : Reader (Option (Option (String × String))) := do
  if (← get).isEmpty then return none
  spaces
  match ← peek with
  | none => return some none
  | some '#' =>
    lineRest
    return some none
  | some '\n' =>
    lineRest
    return some none
  | some '\r' =>
    lineRest
    return some none
  | _ =>
    let name ← key
    spaces
    expect ['=']
    spaces
    let value ← readString
    lineRest
    return some (some (name, value))

/-- The entries of a document, in order. A byte order mark in front does not count. -/
def readTable (s : String) : Option (List (String × String)) :=
  readAll (do
    let _ ← accept '\uFEFF'
    return (← many line).filterMap id) s

end ApiShapes.Toml
