import ApiShapes.Text.Blank

/-!
# JSON with comments

* `stripComments` : a text without its comments, and without a comma in front of a closing bracket,
  so that what is left is plain JSON.

What stands in quotes is kept as it is. A block comment leaves a blank, so that the tokens around it
stay apart; a line comment leaves the end of its line.
-/

namespace ApiShapes.Json

/-- Takes off the comma that the text ends with, and the blanks behind it; `done` is the text so far,
the last character first. -/
def dropComma (done : List Char) : List Char :=
  match done.dropWhile Text.isBlank with
  | ',' :: before => before
  | _ => done

mutual

/-- Outside of quotes and comments; `done` is the text so far, the last character first. -/
def stripPlain (done : List Char) : List Char → List Char
  | [] => done.reverse
  | '"' :: rest => stripQuoted ('"' :: done) rest
  | '/' :: '/' :: rest => stripLine done rest
  | '/' :: '*' :: rest => stripBlock done rest
  | c :: rest =>
    if c == ']' || c == '}' then stripPlain (c :: dropComma done) rest
    else stripPlain (c :: done) rest

def stripQuoted (done : List Char) : List Char → List Char
  | [] => done.reverse
  | '\\' :: c :: rest => stripQuoted (c :: '\\' :: done) rest
  | c :: rest => if c == '"' then stripPlain (c :: done) rest else stripQuoted (c :: done) rest

def stripLine (done : List Char) : List Char → List Char
  | [] => done.reverse
  | c :: rest => if c == '\n' then stripPlain (c :: done) rest else stripLine done rest

def stripBlock (done : List Char) : List Char → List Char
  | [] => (' ' :: done).reverse
  | '*' :: '/' :: rest => stripPlain (' ' :: done) rest
  | _ :: rest => stripBlock done rest

end

/-- The text without comments and without commas in front of closing brackets. -/
def stripComments (source : String) : String :=
  String.ofList (stripPlain [] source.toList)

end ApiShapes.Json
