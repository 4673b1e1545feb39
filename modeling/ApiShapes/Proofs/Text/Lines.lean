import ApiShapes.Text.Split
import Mathlib.Data.List.Basic

/-!
# Blank lines

* `blankPieces` : a text split at its blank lines;
* `Unbroken` : a text without a blank line that neither begins nor ends with a line break
  (`Unbroken.append`, `Unbroken.append_line`);
* `blankPieces_intercalate` : such texts with a blank line between each two are told apart again.
-/

namespace ApiShapes.Text

/-- The pieces of a text between its blank lines, a blank line being two line breaks in a row. -/
def blankPieces : List Char → List (List Char)
  | [] => [[]]
  | '\n' :: '\n' :: rest => [] :: blankPieces rest
  | c :: rest => (blankPieces rest).modifyHead (c :: ·)

/-- Every line break stands between characters that are none. -/
inductive Unbroken : List Char → Prop
  | nil : Unbroken []
  | cons {c : Char} {cs : List Char} (hc : c ≠ '\n') (h : Unbroken cs) : Unbroken (c :: cs)
  | line {c d : Char} {cs : List Char} (hc : c ≠ '\n') (h : Unbroken (d :: cs)) :
      Unbroken (c :: '\n' :: d :: cs)

variable {c : Char} {cs ds : List Char}

theorem Unbroken.head_ne (h : Unbroken (c :: cs)) : c ≠ '\n' := by
  cases h with
  | cons hc _ => exact hc
  | line hc _ => exact hc

theorem Unbroken.of_ne (h : ∀ c ∈ cs, c ≠ '\n') : Unbroken cs := by
  induction cs with
  | nil => exact .nil
  | cons c cs ih =>
    exact .cons (h c List.mem_cons_self) (ih fun d hd => h d (List.mem_cons_of_mem c hd))

theorem Unbroken.of_notMem (h : '\n' ∉ cs) : Unbroken cs :=
  .of_ne fun _ hc => ne_of_mem_of_not_mem hc h

theorem Unbroken.append (h : Unbroken cs) (h' : Unbroken ds) : Unbroken (cs ++ ds) := by
  induction h with
  | nil => exact h'
  | cons hc _ ih => exact .cons hc ih
  | line hc _ ih => exact .line hc ih

/-- A line break between two texts. -/
theorem Unbroken.append_line (h : Unbroken cs) (hne : cs ≠ []) (h' : Unbroken ds) (hne' : ds ≠ []) :
    Unbroken (cs ++ '\n' :: ds) := by
  induction h with
  | nil => exact (hne rfl).elim
  | @cons c cs hc hcs ih =>
    cases cs with
    | nil =>
      obtain ⟨d, ds, rfl⟩ := List.exists_cons_of_ne_nil hne'
      exact .line hc h'
    | cons d cs => exact .cons hc (ih (List.cons_ne_nil d cs))
  | line hc _ ih => exact .line hc (ih (List.cons_ne_nil _ _))

/-! ## Splitting at blank lines -/

theorem blankPieces_cons (hc : c ≠ '\n') (cs : List Char) :
    blankPieces (c :: cs) = (blankPieces cs).modifyHead (c :: ·) := by
  rw [blankPieces]
  rintro _ rfl
  exact (hc rfl).elim

theorem blankPieces_line {d : Char} (hd : d ≠ '\n') (cs : List Char) :
    blankPieces ('\n' :: d :: cs) = (blankPieces (d :: cs)).modifyHead ('\n' :: ·) := by
  rw [blankPieces]
  rintro rest - h
  exact hd (List.cons.inj h).1

/-- An unbroken text goes on up to the next blank line. -/
theorem Unbroken.blankPieces_append (h : Unbroken cs) (rest : List Char) :
    blankPieces (cs ++ '\n' :: '\n' :: rest) = cs :: blankPieces rest := by
  induction h with
  | nil => rw [List.nil_append, blankPieces]
  | cons hc _ ih => rw [List.cons_append, blankPieces_cons hc, ih, List.modifyHead_cons]
  | line hc hcs ih =>
    rw [List.cons_append, List.cons_append, List.cons_append, blankPieces_cons hc,
      blankPieces_line hcs.head_ne, ← List.cons_append, ih, List.modifyHead_cons,
      List.modifyHead_cons]

theorem Unbroken.blankPieces_eq (h : Unbroken cs) : blankPieces cs = [cs] := by
  induction h with
  | nil => rw [blankPieces]
  | cons hc _ ih => rw [blankPieces_cons hc, ih, List.modifyHead_cons]
  | line hc hcs ih =>
    rw [blankPieces_cons hc, blankPieces_line hcs.head_ne, ih, List.modifyHead_cons,
      List.modifyHead_cons]

theorem blankPieces_intercalate {blocks : List (List Char)} (hblocks : ∀ b ∈ blocks, Unbroken b)
    (hne : blocks ≠ []) : blankPieces (['\n', '\n'].intercalate blocks) = blocks := by
  induction blocks with
  | nil => exact (hne rfl).elim
  | cons block blocks ih =>
    have hblock := hblocks block List.mem_cons_self
    cases blocks with
    | nil => simpa using hblock.blankPieces_eq
    | cons next blocks =>
      have hrest := ih (fun b hb => hblocks b (List.mem_cons_of_mem block hb))
        (List.cons_ne_nil next blocks)
      rw [List.intercalate_cons_cons, List.append_assoc, List.cons_append, List.singleton_append,
        hblock.blankPieces_append, hrest]

end ApiShapes.Text
