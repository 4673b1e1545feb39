/-!
# File name patterns

* `GlobToken`, `GlobPattern` : `?`, `*`, `**` as a whole component, and classes in brackets;
* `GlobPattern.ofText` : reads a pattern;
* `GlobError` : why a text is no pattern, and where.
-/

namespace ApiShapes

/-- A member of a class: one character, or all between two. -/
inductive ClassItem where
  | single (c : Char)
  | range (first last : Char)
  deriving DecidableEq, Repr

inductive GlobToken where
  | char (c : Char)
  /-- `?` -/
  | anyChar
  /-- `*` -/
  | anySequence
  /-- `**` and the slash after it -/
  | anyDirectories
  | within (items : List ClassItem)
  | except (items : List ClassItem)
  deriving DecidableEq, Repr

abbrev GlobPattern := List GlobToken

inductive GlobFault where
  /-- more than two stars in a row -/
  | wildcards
  /-- `**` beside something else than a slash -/
  | directories
  /-- a bracket that opens no class -/
  | classes
  deriving DecidableEq, Repr

/-- A fault and its place, in characters from the start. -/
structure GlobError where
  fault : GlobFault
  position : Nat
  deriving DecidableEq, Repr

def GlobFault.message : GlobFault → String
  | wildcards => "wildcards are either regular `*` or recursive `**`"
  | directories => "recursive wildcards must form a single path component"
  | classes => "invalid range pattern"

def GlobError.message (e : GlobError) : String :=
  "Pattern syntax error near position " ++ toString e.position ++ ": " ++ e.fault.message

namespace GlobPattern

/-- The members of a class. A dash between two characters joins them. -/
def classItems : List Char → List ClassItem
  | first :: '-' :: last :: rest => .range first last :: classItems rest
  | c :: rest => .single c :: classItems rest
  | [] => []

/-- The inside of a class, whose first character may be a bracket, and the rest after it. -/
def classBody : List Char → Option (List Char × List Char)
  | first :: rest =>
    if rest.contains ']' then
      some (first :: rest.takeWhile (· != ']'), (rest.dropWhile (· != ']')).drop 1)
    else none
  | [] => none

def classToken : List Char → Option (GlobToken × List Char)
  | '!' :: rest => (classBody rest).map fun (body, rest) => (.except (classItems body), rest)
  | cs => (classBody cs).map fun (body, rest) => (.within (classItems body), rest)

/-- The tokens with `**` put behind them; two `**` in a row behind something are one. -/
def addDirectories (done : List GlobToken) : List GlobToken :=
  match done with
  | .anyDirectories :: _ :: _ => done
  | _ => .anyDirectories :: done

/-- Reads the rest of a pattern, in at most as many steps as it has characters. `done` holds the
tokens so far, the last one first; `before` is the character in front, if there is one; `position`
counts the characters so far. -/
def readRest : Nat → List GlobToken → Option Char → Nat → List Char → Except GlobError GlobPattern
  | 0, done, _, _, _ => .ok done.reverse
  | _ + 1, done, _, _, [] => .ok done.reverse
  | steps + 1, done, before, position, c :: rest =>
    if c == '?' then readRest steps (.anyChar :: done) (some c) (position + 1) rest
    else if c == '*' then
      let stars := rest.takeWhile (· == '*')
      let after := rest.dropWhile (· == '*')
      match stars with
      | [] => readRest steps (.anySequence :: done) (some '*') (position + 1) after
      | [_] =>
        if before == none || before == some '/' then
          match after with
          | [] => readRest steps (addDirectories done) (some '*') (position + 2) []
          | '/' :: after => readRest steps (addDirectories done) (some '/') (position + 3) after
          | _ => .error ⟨.directories, position + 2⟩
        else .error ⟨.directories, position - 1⟩
      | _ => .error ⟨.wildcards, position + 2⟩
    else if c == '[' then
      match classToken rest with
      | some (token, after) =>
        readRest steps (token :: done) (some ']') (position + (c :: rest).length - after.length) after
      | none => .error ⟨.classes, position⟩
    else readRest steps (.char c :: done) (some c) (position + 1) rest

def ofText (s : String) : Except GlobError GlobPattern :=
  readRest s.length [] none 0 s.toList

end GlobPattern

end ApiShapes
