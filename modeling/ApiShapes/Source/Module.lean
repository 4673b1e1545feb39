import ApiShapes.Path.Basic
import ApiShapes.Source.Parser.Statement

/-!
# Modules

* `Language.ofPath` : the language of a file, by the ending of its name;
* `parseModule?` : the statements of a module;
* `parseModule` : the same, where a text that cannot be read is an empty module.
-/

namespace ApiShapes.Source

/-- The language of a file. An ending that says nothing stands for plain TypeScript. -/
def Language.ofPath (path : Path) : Language :=
  match path.extension with
  | some "tsx" => ⟨true, true⟩
  | some "js" => ⟨false, true⟩
  | some "mjs" => ⟨false, true⟩
  | some "cjs" => ⟨false, true⟩
  | some "jsx" => ⟨false, true⟩
  | _ => ⟨true, false⟩

/-- The text after a byte order mark and an interpreter line. -/
def moduleText (cs : List Char) : List Char :=
  let cs := match cs with
    | '\uFEFF' :: rest => rest
    | cs => cs
  match cs with
  | '#' :: '!' :: rest => rest.dropWhile (!isLineBreak ·)
  | cs => cs

def moduleBody (g : Grammar) : Parser (List StatementTree) := do
  let listed ← repeated do
    if (← peek) == .done then return none
    return some (← g.statement)
  return listed.flatten

/-- The statements of a module, if its text can be read. Each level of a phrase takes in a character
at least, so that the text's length bounds their depth. -/
def parseModule? (language : Language) (source : String) : Option (List StatementTree) :=
  let cs := moduleText source.toList
  let g := Grammar.ofDepth language (cs.length + 2)
  ((moduleBody g).run (Cursor.at cs)).map (·.1)

/-- The statements of a module; there are none in a text that cannot be read. -/
def parseModule (language : Language) (source : String) : List StatementTree :=
  (parseModule? language source).getD []

end ApiShapes.Source
