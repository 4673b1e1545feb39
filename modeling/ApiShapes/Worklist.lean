/-!
# What is left of a worklist

* `without` : a list less one of its elements, wherever it occurs;
* `mem_without` : what is left;
* `length_without_lt` : the list that is left is shorter, so that a search which takes each element
  once comes to an end.
-/

namespace ApiShapes

def without {α : Type} [DecidableEq α] (a : α) (as : List α) : List α :=
  as.filter (· != a)

theorem mem_without {α : Type} [DecidableEq α] {a b : α} {as : List α} :
    b ∈ without a as ↔ b ∈ as ∧ b ≠ a := by
  simp [without]

theorem length_without_lt {α : Type} [DecidableEq α] {a : α} {as : List α} (h : a ∈ as) :
    (without a as).length < as.length :=
  List.length_filter_lt_length_iff_exists.2 ⟨a, h, by simp⟩

end ApiShapes
