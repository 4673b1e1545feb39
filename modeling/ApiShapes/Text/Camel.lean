import ApiShapes.Text.Alphabetic
import ApiShapes.Text.Casing
import ApiShapes.Text.Split

/-!
# Camel case

* `capitalize` : one word with an upper-case first letter; a word all in capitals keeps only that
  one;
* `upperCamel` : the words of a text, capitalized and run together.
-/

namespace ApiShapes.Text

/-- The characters between the words of a name. -/
def isWordBreak (c : Char) : Bool :=
  c == '-' || c == '_' || c == '.' || c == ' ' || c == '/'

/-- A word with letters of which none is in lower case. -/
def isShouted (word : List Char) : Bool :=
  word.any isAlphabetic && !word.any isLowercase

/-- The word with its first letter in upper case, and the rest in lower case if it is shouted. -/
def capitalize : List Char → List Char
  | [] => []
  | c :: rest => upperChar c ++ if isShouted (c :: rest) then lowerText rest else rest

/-- The text's words, each capitalized, without what separates them. -/
def upperCamel (s : String) : String :=
  String.ofList ((pieces isWordBreak s.toList).flatMap capitalize)

end ApiShapes.Text
