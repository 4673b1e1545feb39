import ApiShapes.Source.Parser.Basic
import ApiShapes.Text.Quoted

/-!
# Tokens of written text

* `skipBlanks_spaces`, `skipBlanks_ink` : indentation is skipped up to the first character that is
  no blank;
* `Boundary`, `read_word` : a bare key is one word wherever no word can go on;
* `scanString_escape`, `read_quote` : a quoted text is one string token, and its value is the text;
* `at_word`, `at_quote`, `at_propertyKey` : the same for the place in front of them.
-/

namespace ApiShapes.Source

open Text

/-! ## Blanks -/

/-- A visible ASCII character that opens no comment. -/
def IsInk (c : Char) : Prop :=
  33 ≤ c.toNat ∧ c.toNat < 127 ∧ c ≠ '/'

instance (c : Char) : Decidable (IsInk c) := by unfold IsInk; infer_instance

theorem skipBlanks_spaces (b : Bool) (n : Nat) (cs : List Char) :
    skipBlanks b (List.replicate n ' ' ++ cs) = skipBlanks b cs := by
  induction n with
  | zero => rfl
  | succ n ih => exact ih

theorem skipBlanks_ink {c : Char} (hc : IsInk c) (b : Bool) (rest : List Char) :
    skipBlanks b (c :: rest) = (b, c :: rest) := by
  obtain ⟨low, high, hslash⟩ := hc
  have hne : ∀ d : Char, ¬ (33 ≤ d.toNat ∧ d.toNat < 127) → c ≠ d := by
    rintro d hd rfl
    exact hd ⟨low, high⟩
  have hbreak : isLineBreak c = false := by
    simp [isLineBreak, hne '\n', hne '\r', hne '\u2028', hne '\u2029']
  have hspace : isSpace c = false := by
    simp [isSpace, hne ' ', hne '\t']
    omega
  rw [skipBlanks.eq_def]
  split
  · simp_all
  · simp_all
  · simp_all
  · simp_all

/-! ## Words -/

/-- No word goes on here. -/
def Boundary (rest : List Char) : Prop :=
  ∀ c ∈ rest.head?, isIdentifierPart c = false ∧ c ≠ '\\'

theorem isAlpha_eq (c : Char) : c.isAlpha = (decide (c.val ≥ 'A'.val ∧ c.val ≤ 'Z'.val) ||
    decide (c.val ≥ 'a'.val) && decide (c.val ≤ 'z'.val)) := rfl

theorem isInk_of_isKeyPart {c : Char} (h : isKeyPart c = true) : IsInk c := by
  have hslash : c ≠ '/' := by
    rintro rfl
    revert h
    decide
  simp only [isKeyPart, Char.isAlphanum, isAlpha_eq, Char.isDigit, Bool.or_eq_true,
    Bool.and_eq_true, decide_eq_true_eq, beq_iff_eq, ge_iff_le, UInt32.le_iff_toNat_le] at h
  refine ⟨?_, ?_, hslash⟩
  all_goals
    rcases h with (((h | h) | h) | rfl) | rfl
    all_goals first | decide | (simp at h; omega)

theorem isIdentifierPart_of_isKeyPart {c : Char} (h : isKeyPart c = true) :
    isIdentifierPart c = true := by
  have hlt : c.toNat < 128 := Nat.lt_succ_of_lt (isInk_of_isKeyPart h).2.1
  rw [isIdentifierPart, if_pos hlt]
  exact h

theorem isKeyPart_of_isKeyStart {c : Char} (h : isKeyStart c = true) : isKeyPart c = true := by
  simp only [isKeyStart, isKeyPart, Char.isAlphanum, Bool.or_eq_true] at h ⊢
  exact h.imp_left (Or.imp_left Or.inl)

theorem isIdentifierStart_of_isKeyStart {c : Char} (h : isKeyStart c = true) :
    isIdentifierStart c = true := by
  have hlt : c.toNat < 128 :=
    Nat.lt_succ_of_lt (isInk_of_isKeyPart (isKeyPart_of_isKeyStart h)).2.1
  rw [isIdentifierStart, if_pos hlt]
  exact h

theorem scanWord_append {rest : List Char} (hrest : Boundary rest) (cs : List Char) :
    ∀ done, (∀ c ∈ cs, isKeyPart c = true) →
      scanWord done (cs ++ rest) = (done.reverse ++ cs, rest) := by
  induction cs with
  | nil =>
    intro done _
    cases rest with
    | nil => simp [scanWord]
    | cons c rest =>
      obtain ⟨hpart, hslash⟩ := hrest c rfl
      simp [scanWord, hpart, hslash]
  | cons c cs ih =>
    intro done hcs
    have hc := hcs c List.mem_cons_self
    have hslash : c ≠ '\\' := by
      rintro rfl
      revert hc
      decide
    have hpart := isIdentifierPart_of_isKeyPart hc
    simp [scanWord, hpart, hslash, ih (c :: done) fun d hd => hcs d (List.mem_cons_of_mem c hd)]

theorem read_word {s : String} (hs : needsQuoting s = false) {rest : List Char}
    (hrest : Boundary rest) : Token.read (s.toList ++ rest) = (.word s, rest) := by
  rcases hcs : s.toList with _ | ⟨c, cs⟩
  · simp [needsQuoting, hcs] at hs
  · simp only [needsQuoting, hcs, Bool.or_eq_false_iff, Bool.not_eq_false'] at hs
    obtain ⟨hstart, hparts⟩ := hs
    have hne : ∀ d : Char, isKeyStart d = false → c ≠ d := by
      rintro d hd rfl
      exact absurd hstart (by simp [hd])
    have hdigit : c.isDigit = false := by
      simp only [isKeyStart, isAlpha_eq, Char.isDigit, Bool.or_eq_true, Bool.and_eq_true,
        decide_eq_true_eq, beq_iff_eq, ge_iff_le, UInt32.le_iff_toNat_le, Bool.and_eq_false_iff,
        decide_eq_false_iff_not] at hstart ⊢
      rcases hstart with ((h | h) | rfl) | rfl
      all_goals first | decide | (simp at h ⊢; omega)
    have hscan := scanWord_append hrest (c :: cs) [] (by
      simpa [isKeyPart_of_isKeyStart hstart] using hparts)
    rw [List.reverse_nil, List.nil_append, List.cons_append] at hscan
    have hne0 : c ≠ '0' := hne _ (by decide)
    have hneHash : c ≠ '#' := hne _ (by decide)
    have hneQuote : c ≠ '"' ∧ c ≠ '\'' := ⟨hne _ (by decide), hne _ (by decide)⟩
    have hneDot : c ≠ '.' := hne _ (by decide)
    have hname : String.ofList (c :: cs) = s := by rw [← hcs, String.ofList_toList]
    rw [List.cons_append, Token.read.eq_def]
    split
    · simp_all
    · simp_all
    · simp_all
    · rename_i heq
      obtain ⟨rfl, rfl⟩ := List.cons.inj heq
      simp [hneQuote, hneDot, hdigit, hscan, isIdentifierStart_of_isKeyStart hstart, hname]

/-! ## Quoted texts -/

/-- Between double quotes, `$` before a brace is a character like the others. -/
theorem scanString_plain {c : Char} (hslash : c ≠ '\\') (hquote : c ≠ '"') (hline : c ≠ '\n')
    (hreturn : c ≠ '\r') (done : List Unit16) (rest : List Char) :
    scanString '"' done (c :: rest) = scanString '"' (.char c :: done) rest := by
  rw [scanString.eq_def]
  split
  · simp_all
  · simp_all
  · rename_i heq
    obtain ⟨rfl, rfl⟩ := List.cons.inj heq
    simp [scanString]
  · simp_all
  · rename_i heq
    obtain ⟨rfl, rfl⟩ := List.cons.inj heq
    simp [hquote, hline, hreturn]

theorem scanString_escape (cs rest : List Char) : ∀ done : List Unit16,
    scanString '"' done (cs.flatMap escapeChar ++ '"' :: rest) =
      some (done.reverse ++ cs.map .char, .closed, rest) := by
  induction cs with
  | nil => simp [scanString]
  | cons c cs ih =>
    intro done
    have ih := ih (.char c :: done)
    rw [List.map_cons, List.flatMap_cons, List.append_assoc]
    fun_cases escapeChar c
    case case6 hslash hquote hline hreturn _ =>
      rw [List.singleton_append, scanString_plain hslash hquote hline hreturn, ih]
      simp
    all_goals simpa [scanString, scanEscape, octalValue, isLineBreak, escaped] using ih

theorem pair_map_char (cs : List Char) : Unit16.text.pair (cs.map .char) = cs.map .char := by
  induction cs with
  | nil => rfl
  | cons c cs ih => rw [List.map_cons, Unit16.text.pair, ih]; simp

theorem text_map_char (cs : List Char) : Unit16.text (cs.map .char) = String.ofList cs := by
  simp [Unit16.text, pair_map_char, List.flatMap_map]

theorem read_quote (s : String) (rest : List Char) :
    Token.read ((quote s).toList ++ rest) = (.string s, rest) := by
  have hscan := scanString_escape s.toList rest []
  have htext : (quote s).toList ++ rest = '"' :: (s.toList.flatMap escapeChar ++ '"' :: rest) := by
    simp [quote, escape]
  rw [htext, Token.read.eq_def]
  simp [hscan, text_map_char]

/-! ## Places -/

/-- The token is a property key that stands for `name`. -/
def IsKey (name : String) (token : Token) : Prop :=
  token = .word name ∨ token = .string name

theorem skipBlanks_word {s : String} (hs : needsQuoting s = false) (b : Bool) (rest : List Char) :
    skipBlanks b (s.toList ++ rest) = (b, s.toList ++ rest) := by
  rcases hcs : s.toList with _ | ⟨c, cs⟩
  · simp [needsQuoting, hcs] at hs
  · simp only [needsQuoting, hcs, Bool.or_eq_false_iff, Bool.not_eq_false'] at hs
    exact skipBlanks_ink (isInk_of_isKeyPart (isKeyPart_of_isKeyStart hs.1)) b _

theorem skipBlanks_quote (s : String) (b : Bool) (rest : List Char) :
    skipBlanks b ((quote s).toList ++ rest) = (b, (quote s).toList ++ rest) := by
  have htext : (quote s).toList ++ rest = '"' :: (s.toList.flatMap escapeChar ++ '"' :: rest) := by
    simp [quote, escape]
  rw [htext]
  exact skipBlanks_ink (by decide) b _

theorem at_word {s : String} (hs : needsQuoting s = false) {rest : List Char}
    (hrest : Boundary rest) : Cursor.at (s.toList ++ rest) = ⟨.word s, false, rest⟩ := by
  simp only [Cursor.at, Token.next, skipBlanks_word hs, read_word hs hrest]

theorem at_quote (s : String) (rest : List Char) :
    Cursor.at ((quote s).toList ++ rest) = ⟨.string s, false, rest⟩ := by
  simp only [Cursor.at, Token.next, skipBlanks_quote, read_quote]

/-- The key of a field is the first token of its line. -/
theorem at_propertyKey (name : String) (n : Nat) {rest : List Char} (hrest : Boundary rest) :
    ∃ token, IsKey name token ∧
      Cursor.at ('\n' :: (List.replicate n ' ' ++ ((propertyKey name).toList ++ rest))) =
        ⟨token, true, rest⟩ := by
  have hblanks : ∀ cs, skipBlanks false ('\n' :: (List.replicate n ' ' ++ cs)) =
      skipBlanks true cs := skipBlanks_spaces true n
  simp only [Cursor.at, Token.next, hblanks, propertyKey]
  cases hs : needsQuoting name
  · refine ⟨.word name, .inl rfl, ?_⟩
    simp [skipBlanks_word hs, read_word hs hrest]
  · refine ⟨.string name, .inr rfl, ?_⟩
    simp [skipBlanks_quote, read_quote]

end ApiShapes.Source
