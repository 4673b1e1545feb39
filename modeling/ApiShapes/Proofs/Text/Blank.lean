import ApiShapes.Text.Blank
import Mathlib.Data.List.DropRight

/-!
# Texts without blanks at their ends

* `trim_trim` : a text without them stays as it is.
-/

namespace ApiShapes.Text

/-- A text without blanks at its end has none at its start either, if it had none there before. -/
theorem trimStart_trimEnd_trimStart (cs : List Char) :
    trimStart (trimEnd (trimStart cs)) = trimEnd (trimStart cs) := by
  unfold trimStart trimEnd
  cases hstart : cs.dropWhile isBlank with
  | nil => rfl
  | cons c rest =>
    have hc : isBlank c = false := by
      have hhead := List.head?_dropWhile_not isBlank cs
      simpa [hstart] using hhead
    have hend : ∃ more, ((c :: rest).reverse.dropWhile isBlank).reverse = c :: more := by
      rw [List.reverse_cons, List.dropWhile_append]
      split
      · exact ⟨[], by simp [hc]⟩
      · exact ⟨(rest.reverse.dropWhile isBlank).reverse, by simp⟩
    obtain ⟨more, hmore⟩ := hend
    rw [hmore, List.dropWhile_cons_of_neg (by simp [hc])]

theorem trimEnd_trimEnd (cs : List Char) : trimEnd (trimEnd cs) = trimEnd cs := by
  rw [trimEnd, trimEnd, List.reverse_reverse, List.dropWhile_idempotent]

theorem trim_trim (s : String) : trim (trim s) = trim s := by
  rw [trim, trim, String.toList_ofList, trimStart_trimEnd_trimStart, trimEnd_trimEnd]

end ApiShapes.Text
