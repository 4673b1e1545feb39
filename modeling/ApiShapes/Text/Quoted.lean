/-!
# Quoted text

* `escapeChar`, `escape` : a text as it stands between double quotes;
* `quote` : the text with its quotes;
* `needsQuoting`, `propertyKey` : a property key is written bare if and only if it is an ASCII
  identifier.
-/

namespace ApiShapes.Text

/-- A character as it stands between double quotes. -/
def escapeChar : Char → List Char
  | '\\' => ['\\', '\\']
  | '"' => ['\\', '"']
  | '\n' => ['\\', 'n']
  | '\r' => ['\\', 'r']
  | '\t' => ['\\', 't']
  | c => [c]

def escape (s : String) : String :=
  String.ofList (s.toList.flatMap escapeChar)

def quote (s : String) : String :=
  "\"" ++ escape s ++ "\""

/-- An ASCII letter, `_` or `$`. -/
def isKeyStart (c : Char) : Bool :=
  c.isAlpha || c == '_' || c == '$'

/-- An ASCII letter or digit, `_` or `$`. -/
def isKeyPart (c : Char) : Bool :=
  c.isAlphanum || c == '_' || c == '$'

/-- The text is no ASCII identifier. -/
def needsQuoting (s : String) : Bool :=
  match s.toList with
  | [] => true
  | c :: rest => !isKeyStart c || !rest.all isKeyPart

def propertyKey (s : String) : String :=
  if needsQuoting s then quote s else s

end ApiShapes.Text
