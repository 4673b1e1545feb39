import ApiShapes.Glob.Pattern

/-!
# Matching a pattern

* `GlobPattern.accepts` : a text matches a whole pattern; only `**` and a slash itself match a
  slash.
-/

namespace ApiShapes

def ClassItem.holds (c : Char) : ClassItem → Bool
  | single d => c == d
  | range first last => first ≤ c && c ≤ last

inductive Verdict where
  | success
  /-- no match here; a longer stretch for a star before may give one -/
  | mismatch
  /-- the text has ended; no longer stretch for a star before can help -/
  | exhausted
  deriving DecidableEq, Repr

namespace GlobPattern

/-- Gives a star more and more of a text, until `rest` settles what follows. The flag tells that the
text follows a slash. A `**` stops only behind slashes, and a `*` in front of them. -/
def giveStar (directories : Bool) (rest : Bool → List Char → Verdict) (afterSlash : Bool) :
    List Char → Verdict
  | [] => rest afterSlash []
  | c :: cs =>
    let slash := c == '/'
    if directories && !slash then giveStar directories rest slash cs
    else if !directories && slash then .mismatch
    else match rest slash cs with
      | .mismatch => giveStar directories rest slash cs
      | verdict => verdict

/-- A star and what follows it; the star takes nothing at first. -/
def matchStar (directories : Bool) (rest : Bool → List Char → Verdict) (afterSlash : Bool)
    (cs : List Char) : Verdict :=
  match rest afterSlash cs with
  | .mismatch => giveStar directories rest afterSlash cs
  | verdict => verdict

def takes (c : Char) : GlobToken → Bool
  | .char d => c == d
  | .anyChar => c != '/'
  | .within items => c != '/' && items.any (·.holds c)
  | .except items => c != '/' && !items.any (·.holds c)
  | .anySequence => false
  | .anyDirectories => false

/-- Matches tokens against a text. The flag tells that the text follows a slash. -/
def matchFrom : GlobPattern → Bool → List Char → Verdict
  | [], _, [] => .success
  | [], _, _ :: _ => .mismatch
  | .anySequence :: tokens, afterSlash, cs => matchStar false (matchFrom tokens) afterSlash cs
  | .anyDirectories :: tokens, afterSlash, cs => matchStar true (matchFrom tokens) afterSlash cs
  | _ :: _, _, [] => .exhausted
  | token :: tokens, _, c :: cs => if takes c token then matchFrom tokens (c == '/') cs else .mismatch

/-- The whole text matches. -/
def accepts (pattern : GlobPattern) (s : String) : Bool :=
  matchFrom pattern true s.toList == .success

end GlobPattern

end ApiShapes
