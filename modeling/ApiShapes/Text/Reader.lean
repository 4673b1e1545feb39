/-!
# Reading a text character by character

* `Reader` : steps that read on in a text, or fail;
* `Reader.next`, `Reader.expect`, `Reader.takeWhile`, `Reader.many` : the steps themselves.
-/

namespace ApiShapes.Text

/-- Reads on in a text, or fails. -/
abbrev Reader := StateT (List Char) Option

namespace Reader

/-- The next character, left in place. -/
def peek : Reader (Option Char) := do return (← get).head?

def next : Reader Char := do
  match ← get with
  | c :: rest =>
    set rest
    return c
  | [] => failure

def accept (c : Char) : Reader Bool := do
  match ← get with
  | d :: rest =>
    if d == c then
      set rest
      return true
    return false
  | [] => return false

/-- Goes past `text` if it is next. -/
def acceptText (text : List Char) : Reader Bool := do
  let cs ← get
  if text.isPrefixOf cs then
    set (cs.drop text.length)
    return true
  return false

def expect (text : List Char) : Reader Unit := do
  if !(← acceptText text) then failure

/-- The characters up to the first for which `p` fails. -/
def takeWhile (p : Char → Bool) : Reader (List Char) := do
  let cs ← get
  set (cs.dropWhile p)
  return cs.takeWhile p

/-- Fails unless the text is at its end. -/
def done : Reader Unit := do
  if !(← get).isEmpty then failure

/-- What `p` reads, time after time, up to `bound` times, until it gives nothing. -/
def manyUpTo {α : Type} (p : Reader (Option α)) : Nat → Reader (List α)
  | 0 => pure []
  | bound + 1 => do
    match ← p with
    | none => return []
    | some a => return a :: (← manyUpTo p bound)

/-- What `p` reads, time after time, until it gives nothing. Each time takes in a character at
least, so that the text's length bounds the repetition. -/
def many {α : Type} (p : Reader (Option α)) : Reader (List α) := do
  manyUpTo p ((← get).length + 1)

/-- The result on a whole text. -/
def readAll {α : Type} (p : Reader α) (s : String) : Option α :=
  ((p <* done).run s.toList).map (·.1)

end Reader

end ApiShapes.Text
