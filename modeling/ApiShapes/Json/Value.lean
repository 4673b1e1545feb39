import ApiShapes.Number.Double
import ApiShapes.Text.Hex
import ApiShapes.Text.Reader

/-!
# JSON

* `JsonValue` : a value as it is written, with all entries of an object in order;
* `JsonValue.ofText?` : reads a text of strict JSON;
* `JsonValue.isSound` : every text and number in the value has a value of its own.
-/

namespace ApiShapes

/-- A JSON value. A text with half of a surrogate pair in it is well formed but has no value. -/
inductive JsonValue where
  | null
  | bool (value : Bool)
  | number (value : Double)
  | string (text : Option String)
  | array (items : List JsonValue)
  | object (entries : List (Option String × JsonValue))
  deriving Inhabited

namespace JsonValue

open Text Text.Reader

/-! ## Strings -/

/-- The character behind a backslash. -/
def unescape : Char → Option Char
  | '"' => some '"'
  | '\\' => some '\\'
  | '/' => some '/'
  | 'b' => some '\x08'
  | 'f' => some '\x0c'
  | 'n' => some '\n'
  | 'r' => some '\r'
  | 't' => some '\t'
  | _ => none

/-- The code units of a string up to its closing quote, and what follows it. `done` holds the units
so far, the last one first; characters beyond sixteen bits are kept whole. -/
def scanUnits (done : List Nat) : List Char → Option (List Nat × List Char)
  | [] => none
  | '"' :: rest => some (done.reverse, rest)
  | '\\' :: 'u' :: a :: b :: c :: d :: rest =>
    match hexNumber [a, b, c, d] with
    | some unit => scanUnits (unit :: done) rest
    | none => none
  | '\\' :: c :: rest =>
    match unescape c with
    | some c => scanUnits (c.toNat :: done) rest
    | none => none
  | c :: rest => if c.toNat < 0x20 then none else scanUnits (c.toNat :: done) rest

/-- The text of code units, if no half of a surrogate pair stands alone. -/
def textOfUnits : List Nat → Option (List Char)
  | [] => some []
  | unit :: rest =>
    if unit < 0xD800 || 0xDFFF < unit then (textOfUnits rest).map (Char.ofNat unit :: ·)
    else match rest with
      | low :: rest' =>
        if unit < 0xDC00 && 0xDC00 ≤ low && low ≤ 0xDFFF then
          (textOfUnits rest').map
            (Char.ofNat (0x10000 + (unit - 0xD800) * 0x400 + (low - 0xDC00)) :: ·)
        else none
      | [] => none

/-- A string after its opening quote. -/
def stringRest : Reader (Option String) := do
  match scanUnits [] (← get) with
  | some (units, rest) =>
    set rest
    return (textOfUnits units).map String.ofList
  | none => failure

/-! ## Numbers -/

/-- One digit or more. -/
def digits : Reader (List Char) := do
  match ← takeWhile Char.isDigit with
  | [] => failure
  | ds => return ds

/-- The exponent of a number, zero if none is written. -/
def exponent : Reader Int := do
  if (← accept 'e') || (← accept 'E') then
    let negative ← accept '-'
    if !negative then
      let _ ← accept '+'
    let n := (← digits).foldl (fun n c => min (n * 10 + (c.toNat - '0'.toNat)) 100000) 0
    return if negative then -(n : Int) else n
  return 0

/-- A number. Its integral part has no leading zero. -/
def readNumber : Reader JsonValue := do
  let negative ← accept '-'
  let whole ← if ← accept '0' then pure ['0'] else digits
  let fraction ← if ← accept '.' then digits else pure []
  let power ← exponent
  let n := (whole ++ fraction).foldl (fun n c => n * 10 + (c.toNat - '0'.toNat)) 0
  let value := Double.ofDecimal n (power - fraction.length)
  return .number (if negative then -value else value)

/-! ## Values -/

def blanks : Reader Unit := do
  let _ ← takeWhile fun c => c == ' ' || c == '\t' || c == '\n' || c == '\r'

/-- What stands between brackets, with commas between the items, after the opening bracket. -/
def listRest {α : Type} (close : Char) (item : Reader α) : Reader (List α) := do
  blanks
  if ← accept close then return []
  let first ← item
  let others ← many do
    blanks
    if ← accept ',' then
      blanks
      return some (← item)
    return none
  blanks
  expect [close]
  return first :: others

/-- A value with so many levels of brackets, less one. -/
def readValue : Nat → Reader JsonValue
  | 0 => failure
  | levels + 1 => do
    match ← peek with
    | some '"' =>
      let _ ← next
      return .string (← stringRest)
    | some '[' =>
      let _ ← next
      return .array (← listRest ']' (readValue levels))
    | some '{' =>
      let _ ← next
      return .object (← listRest '}' do
        expect ['"']
        let key ← stringRest
        blanks
        expect [':']
        blanks
        return (key, ← readValue levels))
    | some 't' =>
      expect ['t', 'r', 'u', 'e']
      return .bool true
    | some 'f' =>
      expect ['f', 'a', 'l', 's', 'e']
      return .bool false
    | some 'n' =>
      expect ['n', 'u', 'l', 'l']
      return .null
    | _ => readNumber

def ofText? (s : String) : Option JsonValue :=
  readAll (do blanks; let v ← readValue (s.length + 1); blanks; return v) s

mutual

/-- Every text in the value has a value, and no number is too large. -/
def isSound : JsonValue → Bool
  | .null => true
  | .bool _ => true
  | .number x =>
    match x.view with
    | .finite .. => true
    | _ => false
  | .string text => text.isSome
  | .array items => areSound items
  | .object entries => areSoundEntries entries

def areSound : List JsonValue → Bool
  | [] => true
  | item :: rest => item.isSound && areSound rest

def areSoundEntries : List (Option String × JsonValue) → Bool
  | [] => true
  | (key, item) :: rest => key.isSome && item.isSound && areSoundEntries rest

end

end JsonValue

end ApiShapes
