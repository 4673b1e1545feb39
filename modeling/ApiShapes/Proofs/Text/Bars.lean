import ApiShapes.Text.Quoted

/-!
# Bars outside of brackets

* `Text.hasOpenBar` : a text has a bar outside of its brackets and its quoted texts;
* `Text.Closes bar cs` : the text leaves as many brackets open as there were, and `bar` tells whether it
  has such a bar (`Closes.append`, `Closes.enclosed`);
* `Text.closes_plain`, `Text.closes_quote` : texts without any such mark, and quoted texts, close and
  have none.
-/

namespace ApiShapes.Text

/-! ## Reading along a text -/

/-- How many brackets are open at a place of a text, and whether the place is within quotes, maybe right
behind a backslash there. -/
inductive Nesting where
  | bare (brackets : Nat)
  | quoted (brackets : Nat)
  | escaped (brackets : Nat)

def openings : List Char := ['(', '[', '{']

def closings : List Char := [')', ']', '}']

def Nesting.step : Nesting → Char → Nesting
  | bare n, c =>
    if c = '"' then quoted n
    else if c ∈ openings then bare (n + 1)
    else if c ∈ closings then bare (n - 1)
    else bare n
  | quoted n, c => if c = '"' then bare n else if c = '\\' then escaped n else quoted n
  | escaped n, _ => quoted n

def Nesting.isOutside : Nesting → Bool
  | bare 0 => true
  | _ => false

/-- A text that is read on from such a place has a bar where nothing is open. -/
def hasBarFrom : Nesting → List Char → Bool
  | _, [] => false
  | nesting, c :: cs => (nesting.isOutside && c == '|') || hasBarFrom (nesting.step c) cs

/-- A text has a bar outside of its brackets and its quoted texts. -/
def hasOpenBar (text : String) : Bool :=
  hasBarFrom (.bare 0) text.toList

theorem hasBarFrom_append (nesting : Nesting) (cs ds : List Char) :
    hasBarFrom nesting (cs ++ ds) =
      (hasBarFrom nesting cs || hasBarFrom (cs.foldl Nesting.step nesting) ds) := by
  induction cs generalizing nesting with
  | nil => rfl
  | cons c cs ih => rw [List.cons_append, hasBarFrom, hasBarFrom, ih, Bool.or_assoc, List.foldl_cons]

/-! ## Texts that close -/

/-- At the end of the text as many brackets are open as before it, and no quotes, and `bar` tells whether
there is a bar outside of the brackets and quotes in it. -/
structure Closes (bar : Bool) (cs : List Char) : Prop where
  foldl_step : ∀ n, cs.foldl Nesting.step (.bare n) = .bare n
  hasBarFrom : ∀ n, hasBarFrom (.bare n) cs = ((Nesting.bare n).isOutside && bar)

variable {bar bar' : Bool} {cs ds : List Char}

theorem Closes.hasOpenBar {text : String} (h : Closes bar text.toList) : hasOpenBar text = bar := by
  rw [Text.hasOpenBar, h.hasBarFrom 0]
  rfl

theorem Closes.nil : Closes false [] where
  foldl_step _ := rfl
  hasBarFrom n := by rw [Bool.and_false]; rfl

theorem Closes.append (h : Closes bar cs) (h' : Closes bar' ds) : Closes (bar || bar') (cs ++ ds) where
  foldl_step n := by rw [List.foldl_append, h.foldl_step, h'.foldl_step]
  hasBarFrom n := by
    rw [hasBarFrom_append, h.foldl_step, h.hasBarFrom, h'.hasBarFrom, Bool.and_or_distrib_left]

theorem step_opening {c : Char} (h : c ∈ openings) (n : Nat) :
    Nesting.step (.bare n) c = .bare (n + 1) := by
  have hquote : c ≠ '"' := ne_of_mem_of_not_mem h (by decide)
  rw [Nesting.step, if_neg hquote, if_pos h]

theorem step_closing {c : Char} (h : c ∈ closings) (n : Nat) :
    Nesting.step (.bare (n + 1)) c = .bare n := by
  have hquote : c ≠ '"' := ne_of_mem_of_not_mem h (by decide)
  have hall : closings.all (fun c => !openings.contains c) = true := by decide
  have hopening : c ∉ openings := by simpa using List.all_eq_true.1 hall c h
  rw [Nesting.step, if_neg hquote, if_neg hopening, if_pos h, Nat.add_sub_cancel]

/-- Bars within brackets do not count. -/
theorem Closes.enclosed {opening closing : Char} (hopening : opening ∈ openings)
    (hclosing : closing ∈ closings) (h : Closes bar cs) :
    Closes false (opening :: (cs ++ [closing])) where
  foldl_step n := by
    rw [List.foldl_cons, step_opening hopening, List.foldl_append, h.foldl_step, List.foldl_cons,
      step_closing hclosing, List.foldl_nil]
  hasBarFrom n := by
    have hbar : (opening == '|') = false :=
      beq_eq_false_iff_ne.2 (ne_of_mem_of_not_mem hopening (by decide))
    rw [Text.hasBarFrom, step_opening hopening, hbar, hasBarFrom_append, h.foldl_step, h.hasBarFrom]
    simp [Text.hasBarFrom, Nesting.isOutside]

/-- The characters that open or close something, and the bar. -/
def marks : List Char := '"' :: '|' :: (openings ++ closings)

def isPlain (c : Char) : Bool :=
  !marks.contains c

/-- A kind of characters without any mark has plain ones only. -/
theorem isPlain_of_marks {kind : Char → Bool} (h : marks.all (fun c => !kind c) = true) {c : Char}
    (hc : kind c = true) : isPlain c = true := by
  rw [isPlain, Bool.not_eq_true', List.contains_eq_mem, decide_eq_false_iff_not]
  intro hmark
  have hkind := List.all_eq_true.1 h c hmark
  rw [hc] at hkind
  cases hkind

theorem closes_plain (h : cs.all isPlain = true) : Closes false cs := by
  induction cs with
  | nil => exact .nil
  | cons c cs ih =>
    rw [List.all_cons, Bool.and_eq_true] at h
    obtain ⟨hc, hcs⟩ := h
    simp only [isPlain, marks, Bool.not_eq_true', List.contains_eq_mem, decide_eq_false_iff_not,
      List.mem_cons, List.mem_append, not_or] at hc
    obtain ⟨hquote, hbar, hopening, hclosing⟩ := hc
    have hstep : ∀ n, Nesting.step (.bare n) c = .bare n := by
      intro n
      rw [Nesting.step, if_neg hquote, if_neg hopening, if_neg hclosing]
    refine ⟨fun n => ?_, fun n => ?_⟩
    · rw [List.foldl_cons, hstep, (ih hcs).foldl_step]
    · rw [hasBarFrom, hstep, (ih hcs).hasBarFrom, beq_eq_false_iff_ne.2 hbar, Bool.and_false,
        Bool.false_or]

theorem closes_bar : Closes true ['|'] where
  foldl_step _ := rfl
  hasBarFrom n := by cases n <;> rfl

/-! ## Quoted texts -/

/-- A character within quotes, behind a backslash if it needs one, leaves the quotes open. -/
theorem foldl_step_escapeChar (c : Char) (n : Nat) :
    (escapeChar c).foldl Nesting.step (.quoted n) = .quoted n := by
  fun_cases escapeChar c
  case case6 hbackslash hquote _ _ _ =>
    rw [List.foldl_cons, List.foldl_nil, Nesting.step, if_neg hquote, if_neg hbackslash]
  all_goals rfl

theorem hasBarFrom_escapeChar (c : Char) (n : Nat) :
    hasBarFrom (.quoted n) (escapeChar c) = false := by
  fun_cases escapeChar c <;> rfl

theorem reads_escaped (cs : List Char) (n : Nat) :
    (cs.flatMap escapeChar).foldl Nesting.step (.quoted n) = .quoted n ∧
      hasBarFrom (.quoted n) (cs.flatMap escapeChar) = false := by
  induction cs with
  | nil => exact ⟨rfl, rfl⟩
  | cons c cs ih =>
    rw [List.flatMap_cons, List.foldl_append, foldl_step_escapeChar, hasBarFrom_append,
      foldl_step_escapeChar, hasBarFrom_escapeChar, Bool.false_or]
    exact ih

/-- A quoted text closes, whatever it says. -/
theorem closes_quote (s : String) : Closes false (quote s).toList := by
  have hchars : (quote s).toList = '"' :: (s.toList.flatMap escapeChar ++ ['"']) := by
    simp [quote, escape]
  have hopen : ∀ n, Nesting.step (.bare n) '"' = .quoted n := fun _ => rfl
  rw [hchars]
  refine ⟨fun n => ?_, fun n => ?_⟩
  · rw [List.foldl_cons, hopen, List.foldl_append, (reads_escaped s.toList n).1]
    rfl
  · rw [hasBarFrom, hopen, hasBarFrom_append, (reads_escaped s.toList n).1,
      (reads_escaped s.toList n).2]
    simp [hasBarFrom, Nesting.isOutside]

end ApiShapes.Text
