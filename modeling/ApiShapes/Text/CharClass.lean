/-!
# Character classes as code point ranges

* `CodeRanges` : a class as closed ranges of code points, ascending;
* `CodeRuns` : a class as arithmetic runs, for scripts whose two cases alternate.

A table speaks about the characters beyond ASCII only when the predicate built on it answers ASCII
by a rule of its own; those rules stand where the predicates are defined.
-/

namespace ApiShapes.Text

/-- Closed ranges of code points. -/
abbrev CodeRanges := List (Nat × Nat)

def CodeRanges.holds (ranges : CodeRanges) (c : Char) : Bool :=
  ranges.any fun (first, last) => first ≤ c.toNat && c.toNat ≤ last

/-- Runs `first, first + step, …, last` of code points. -/
abbrev CodeRuns := List (Nat × Nat × Nat)

def CodeRuns.holds (runs : CodeRuns) (c : Char) : Bool :=
  runs.any fun (first, last, step) =>
    first ≤ c.toNat && c.toNat ≤ last && (c.toNat - first) % step == 0

end ApiShapes.Text
