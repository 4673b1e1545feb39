import ApiShapes.Proofs.Shape.Printed
import ApiShapes.Proofs.Text.Lines
import Mathlib.Data.Nat.Digits.Defs

/-!
# Printed shapes have no blank line

* `Text.unbroken_quote`, `Text.unbroken_propertyKey` : a quoted text is on one line whatever it says, and
  so is a key;
* `Double.literal_ne` : so is a number;
* `Shape.unbroken_chars` : no shape, however deep, is printed with a blank line, and none begins or ends
  with a line break.
-/

namespace ApiShapes

open Text

/-! ## Keys and literals -/

namespace Text

theorem escapeChar_ne {c d : Char} (h : d ∈ escapeChar c) : d ≠ '\n' ∧ d ≠ '\r' := by
  revert h
  fun_cases escapeChar c
  case case6 hline hreturn _ =>
    intro h
    rw [List.mem_singleton.1 h]
    exact ⟨hline, hreturn⟩
  all_goals
    intro h
    rw [List.mem_pair] at h
    rcases h with rfl | rfl <;> decide

theorem unbroken_quote (s : String) : Unbroken (quote s).toList := by
  have hchars : (quote s).toList = ['"'] ++ s.toList.flatMap escapeChar ++ ['"'] := by
    simp [quote, escape]
  rw [hchars]
  refine ((Unbroken.of_notMem (by decide)).append (.of_ne fun c hc => ?_)).append (.of_notMem (by decide))
  obtain ⟨d, -, hd⟩ := List.mem_flatMap.1 hc
  exact (escapeChar_ne hd).1

/-- A key is quoted, or all its characters are those of names. -/
theorem isKeyPart_of_bare {s : String} (h : needsQuoting s = false) :
    ∀ c ∈ s.toList, isKeyPart c = true := by
  intro c hc
  cases hcs : s.toList with
  | nil =>
    rw [hcs] at hc
    cases hc
  | cons d ds =>
    simp only [needsQuoting, hcs, Bool.or_eq_false_iff, Bool.not_eq_false'] at h
    obtain ⟨hstart, hparts⟩ := h
    rw [hcs] at hc
    rcases List.mem_cons.1 hc with rfl | hc
    · exact Source.isKeyPart_of_isKeyStart hstart
    · exact List.all_eq_true.1 hparts c hc

theorem unbroken_propertyKey (s : String) : Unbroken (propertyKey s).toList := by
  rw [propertyKey]
  split
  · exact unbroken_quote s
  · rename_i hbare
    refine .of_ne fun c hc => ?_
    have hpart := isKeyPart_of_bare (Bool.eq_false_of_not_eq_true hbare) c hc
    rintro rfl
    cases hpart

end Text

namespace Double

/-- A letter, a digit, a dot or a sign. -/
def isNumeral (c : Char) : Bool :=
  c.isAlphanum || c == '.' || c == '-'

theorem isNumeral_digit {n : Nat} {c : Char} (h : c ∈ Nat.toDigits 10 n) : isNumeral c = true := by
  have hdigit := Nat.isDigit_of_mem_toDigits (by decide) (by decide) h
  simp [isNumeral, Char.isAlphanum, hdigit]

theorem isNumeral_zero {n : Nat} {c : Char} (h : c ∈ List.replicate n '0') : isNumeral c = true := by
  rw [(List.mem_replicate.1 h).2]
  decide

theorem isNumeral_positional (digits : Nat) (place : Int) :
    ∀ c ∈ (positional digits place).toList, isNumeral c = true := by
  intro c hc
  rw [positional] at hc
  split at hc
  · rw [String.toList_ofList, List.mem_append] at hc
    exact hc.elim isNumeral_digit isNumeral_zero
  · rw [String.toList_ofList, List.mem_append, List.mem_cons] at hc
    have hpadded : ∀ n, c ∈ List.replicate n '0' ++ Nat.toDigits 10 digits → isNumeral c = true :=
      fun n h => (List.mem_append.1 h).elim isNumeral_zero isNumeral_digit
    rcases hc with hc | rfl | hc
    · exact hpadded _ (List.mem_of_mem_take hc)
    · decide
    · exact hpadded _ (List.mem_of_mem_drop hc)

theorem isNumeral_signed {negative : Bool} {s : String} (hs : ∀ c ∈ s.toList, isNumeral c = true) :
    ∀ c ∈ (signed negative s).toList, isNumeral c = true := by
  intro c hc
  rw [signed] at hc
  split at hc
  · rw [String.toList_append, List.mem_append] at hc
    rcases hc with hc | hc
    · rw [List.mem_singleton.1 hc]
      decide
    · exact hs c hc
  · exact hs c hc

theorem isNumeral_display (x : Double) : ∀ c ∈ x.display.toList, isNumeral c = true := by
  rw [display]
  split
  · exact List.all_eq_true.1 (by decide)
  · exact isNumeral_signed (List.all_eq_true.1 (by decide))
  · exact isNumeral_signed (List.all_eq_true.1 (by decide))
  · exact isNumeral_signed (isNumeral_positional _ _)

theorem isNumeral_literal (x : Double) : ∀ c ∈ x.literal.toList, isNumeral c = true := by
  have hrepr : ∀ n : Nat, ∀ c ∈ (Nat.repr n).toList, isNumeral c = true := by
    intro n c hc
    rw [Nat.repr, String.toList_ofList] at hc
    exact isNumeral_digit hc
  rw [literal]
  split
  · rename_i n _
    cases n with
    | ofNat n => exact hrepr n
    | negSucc n => exact @isNumeral_signed true _ (hrepr (n + 1))
  · exact isNumeral_display x

/-- The text of a number is on one line. -/
theorem literal_ne (x : Double) : ∀ c ∈ x.literal.toList, c ≠ '\n' := by
  rintro c hc rfl
  have hnumeral := x.isNumeral_literal '\n' hc
  cases hnumeral

end Double

namespace Shape

theorem unbroken_of_word? {t : Shape} {w : String} (h : t.word? = some w) (depth : Nat) :
    Unbroken (t.chars depth) := by
  rw [chars_of_word? h]
  have hwords : ∀ w ∈ typeWords, '\n' ∉ w.toList := by decide
  exact .of_notMem (hwords w (mem_typeWords h))

theorem unbroken_blanks (depth : Nat) : Unbroken (blanks depth) :=
  .of_ne fun c hc => by
    rw [(List.mem_replicate.1 hc).2]
    decide

/-- The lines of an object, one of which ends in `c`. -/
theorem unbroken_fieldLines (depth : Nat) {fields : List Field}
    (h : ∀ f ∈ fields, Unbroken (f.type.chars (depth + 1))) {c : Char} (hc : c ≠ '\n') :
    Unbroken (c :: (fieldLines depth fields ++ '\n' :: (blanks depth ++ ['}']))) := by
  have hend : Unbroken [c] := .cons hc .nil
  induction fields generalizing c with
  | nil =>
    refine hend.append_line (by simp) ((unbroken_blanks depth).append (.of_notMem (by decide))) ?_
    simp
  | cons f fields ih =>
    obtain ⟨htype, hfields⟩ := List.forall_mem_cons.1 h
    rw [fieldLines_cons]
    refine hend.append_line (by simp) ((unbroken_blanks (depth + 1)).append
      ((unbroken_propertyKey f.name).append ?_)) (by simp [blanks])
    have hmark : Unbroken ((if f.optional then ['?'] else []) ++ [':', ' ']) := by
      cases f.optional <;> exact .of_notMem (by decide)
    have htail := hmark.append (htype.append (ih hfields (by decide : ';' ≠ '\n') (.of_notMem (by decide))))
    simpa [Source.fieldTail] using htail

theorem unbroken_barred (depth : Nat) {ts : List Shape} (h : ∀ t ∈ ts, Unbroken (t.chars depth)) :
    Unbroken (barred depth ts) := by
  induction ts with
  | nil => exact .nil
  | cons t ts ih =>
    obtain ⟨ht, hts⟩ := List.forall_mem_cons.1 h
    exact (((Unbroken.of_notMem (by decide : '\n' ∉ [' ', '|', ' '])).append ht).append (ih hts))

mutual

/-- A printed shape has no blank line, and it neither begins nor ends with a line break. -/
theorem unbroken_chars : ∀ (t : Shape) (depth : Nat), Unbroken (t.chars depth)
  | primitive _, depth => unbroken_of_word? rfl depth
  | literal (.string s), _ => unbroken_quote s
  | literal (.number x), _ => .of_ne x.literal_ne
  | literal (.bool true), depth => unbroken_of_word? rfl depth
  | literal (.bool false), depth => unbroken_of_word? rfl depth
  | unknown, depth => unbroken_of_word? rfl depth
  | union [], depth => unbroken_of_word? rfl depth
  | union [t], depth => by
    rw [chars_union_singleton]
    exact unbroken_chars t depth
  | union (t :: u :: ts), depth => by
    rw [chars_union]
    exact (unbroken_chars t depth).append (unbroken_barred depth (unbroken_members (u :: ts) depth))
  | array element, depth => by
    have helement := unbroken_chars element depth
    rw [chars_array]
    split
    · exact ((Unbroken.cons (by decide) (helement.append (.of_notMem (by decide)))).append
        (.of_notMem (by decide)))
    · exact helement.append (.of_notMem (by decide))
  | object [], depth => by
    rw [chars_object_nil]
    exact .of_notMem (by decide)
  | object (f :: fields), depth => by
    rw [chars_object]
    exact unbroken_fieldLines depth (unbroken_fields (f :: fields) (depth + 1)) (by decide)

theorem unbroken_members : ∀ (ts : List Shape) (depth : Nat), ∀ t ∈ ts, Unbroken (t.chars depth)
  | [], _ => by simp
  | t :: ts, depth => List.forall_mem_cons.2 ⟨unbroken_chars t depth, unbroken_members ts depth⟩

theorem unbroken_fields : ∀ (fields : List Field) (depth : Nat),
    ∀ f ∈ fields, Unbroken (f.type.chars depth)
  | [], _ => by simp
  | ⟨_, type, _⟩ :: fields, depth =>
    List.forall_mem_cons.2 ⟨unbroken_chars type depth, unbroken_fields fields depth⟩

end

end Shape

end ApiShapes
