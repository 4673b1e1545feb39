import ApiShapes.Proofs.Json.Lexemes
import Mathlib.Data.List.TakeWhile

/-!
# Commas in front of closing brackets

* `withoutTrailing` : tokens without one comma in front of each closing bracket;
* `closeUp` : tokens without one comma in front of each closing bracket, where gaps in between do not count
  and go as well;
* `closeUp_eq_withoutTrailing_iff` : gaps make a difference wherever there are any;
* `closeUp_closing` : what becomes of the tokens up to a closing bracket, by a look back.
-/

namespace ApiShapes.Json

variable {lexeme : Lexeme} {lexemes done : List Lexeme}

namespace Lexeme

def isClosing : Lexeme → Bool
  | mark c => c == ']' || c == '\x7d'
  | _ => false

/-- A run of blanks, which are none of JSON's. -/
def isGap : Lexeme → Bool
  | run cs => cs.all Text.isBlank
  | _ => false

/-- What a look back for a comma passes over. -/
def isPassed (lexeme : Lexeme) : Bool :=
  !lexeme.isToken || lexeme.isGap

theorem isGap_of_isToken (h : lexeme.isPassed = true) (htoken : lexeme.isToken = true) :
    lexeme.isGap = true := by
  rw [isPassed, htoken] at h
  exact h

theorem isGap_eq_false_of_isClosing (h : lexeme.isClosing = true) : lexeme.isGap = false := by
  cases lexeme with
  | mark c => rfl
  | _ => cases h

end Lexeme

/-! ## Commas in front of closing brackets -/

/-- Without one comma in front of each closing bracket. -/
def withoutTrailing : List Lexeme → List Lexeme
  | [] => []
  | lexeme :: rest =>
    if lexeme = .mark ',' ∧ rest.head?.any Lexeme.isClosing then withoutTrailing rest
    else lexeme :: withoutTrailing rest

/-- A closing bracket comes next, or behind gaps. -/
def closesNext (rest : List Lexeme) : Bool :=
  (rest.dropWhile Lexeme.isGap).head?.any Lexeme.isClosing

/-- Without one comma in front of each closing bracket, and without the gaps in between. -/
def closeUp : List Lexeme → List Lexeme
  | [] => []
  | lexeme :: rest =>
    if lexeme = .mark ',' ∧ closesNext rest then closeUp (rest.dropWhile Lexeme.isGap)
    else lexeme :: closeUp rest
termination_by lexemes => lexemes.length
decreasing_by
  · exact Nat.lt_succ_of_le (List.dropWhile_suffix _).length_le
  · exact Nat.lt_succ_self _

/-- There is a gap between a comma and a closing bracket. -/
def Gap (lexemes : List Lexeme) : Prop :=
  ∃ gap rest, .mark ',' :: gap :: rest <:+ lexemes ∧ gap.isGap = true ∧ closesNext rest = true

theorem closesNext_cons_of_isGap (h : lexeme.isGap = true) :
    closesNext (lexeme :: lexemes) = closesNext lexemes := by
  rw [closesNext, List.dropWhile_cons_of_pos h, ← closesNext]

theorem closesNext_cons_of_not_isGap (h : lexeme.isGap = false) :
    closesNext (lexeme :: lexemes) = lexeme.isClosing := by
  rw [closesNext, List.dropWhile_cons_of_neg (Bool.eq_false_iff.1 h)]
  rfl

/-- A closing bracket right behind a comma is one that comes next, with no gap in front of it. -/
theorem head?_isClosing_iff : lexemes.head?.any Lexeme.isClosing = true ↔
    closesNext lexemes = true ∧ lexemes.head?.any Lexeme.isGap = false := by
  cases lexemes with
  | nil => exact ⟨fun h => (by cases h), fun h => h.1⟩
  | cons lexeme rest =>
    cases hgap : lexeme.isGap with
    | true =>
      rw [List.head?_cons, Option.any_some, Option.any_some, hgap]
      constructor
      · intro h
        rw [Lexeme.isGap_eq_false_of_isClosing h] at hgap
        cases hgap
      · rintro ⟨-, ⟨⟩⟩
    | false =>
      rw [List.head?_cons, Option.any_some, Option.any_some, hgap, closesNext_cons_of_not_isGap hgap]
      exact ⟨fun h => ⟨h, rfl⟩, fun h => h.1⟩

theorem gap_cons_iff : Gap (lexeme :: lexemes) ↔
    (lexeme = .mark ',' ∧ closesNext lexemes = true ∧ lexemes.head?.any Lexeme.isGap = true) ∨
      Gap lexemes := by
  constructor
  · rintro ⟨gap, rest, hsuffix, hgap, hclose⟩
    rcases List.suffix_cons_iff.1 hsuffix with heq | hsuffix
    · cases heq
      exact .inl ⟨rfl, by rwa [closesNext_cons_of_isGap hgap], hgap⟩
    · exact .inr ⟨gap, rest, hsuffix, hgap, hclose⟩
  · rintro (⟨rfl, hclose, hgap⟩ | ⟨gap, rest, hsuffix, hgap, hclose⟩)
    · cases lexemes with
      | nil => cases hgap
      | cons gap rest =>
        have hgap : gap.isGap = true := hgap
        rw [closesNext_cons_of_isGap hgap] at hclose
        exact ⟨gap, rest, List.suffix_refl _, hgap, hclose⟩
    · exact ⟨gap, rest, hsuffix.trans (List.suffix_cons ..), hgap, hclose⟩

theorem dropWhile_isGap (h : lexemes.head?.any Lexeme.isGap = false) :
    lexemes.dropWhile Lexeme.isGap = lexemes := by
  cases lexemes with
  | nil => rfl
  | cons lexeme rest => exact List.dropWhile_cons_of_neg (Bool.eq_false_iff.1 h)

theorem closeUp_eq_withoutTrailing (h : ¬ Gap lexemes) : closeUp lexemes = withoutTrailing lexemes := by
  fun_induction closeUp lexemes with
  | case1 => rfl
  | case2 lexeme rest htrailing ih =>
    obtain ⟨rfl, hclose⟩ := htrailing
    rw [gap_cons_iff, not_or] at h
    have hhead : rest.head?.any Lexeme.isGap = false :=
      Bool.eq_false_iff.2 fun hgap => h.1 ⟨rfl, hclose, hgap⟩
    rw [withoutTrailing, if_pos ⟨rfl, head?_isClosing_iff.2 ⟨hclose, hhead⟩⟩]
    rw [dropWhile_isGap hhead] at ih ⊢
    exact ih h.2
  | case3 lexeme rest htrailing ih =>
    rw [gap_cons_iff, not_or] at h
    rw [withoutTrailing, ih h.2,
      if_neg fun ⟨hcomma, hhead⟩ => htrailing ⟨hcomma, (head?_isClosing_iff.1 hhead).1⟩]

theorem countP_withoutTrailing (lexemes : List Lexeme) :
    (withoutTrailing lexemes).countP Lexeme.isGap = lexemes.countP Lexeme.isGap := by
  fun_induction withoutTrailing lexemes with
  | case1 => rfl
  | case2 lexeme rest htrailing ih =>
    obtain ⟨rfl, -⟩ := htrailing
    rw [ih, List.countP_cons_of_neg (by simp [Lexeme.isGap])]
  | case3 lexeme rest _ ih => rw [List.countP_cons, List.countP_cons, ih]

theorem countP_closeUp_le (lexemes : List Lexeme) :
    (closeUp lexemes).countP Lexeme.isGap ≤ lexemes.countP Lexeme.isGap := by
  fun_induction closeUp lexemes with
  | case1 => exact le_rfl
  | case2 lexeme rest _ ih =>
    exact ih.trans (((List.dropWhile_suffix _).trans (List.suffix_cons ..)).sublist.countP_le)
  | case3 lexeme rest _ ih =>
    rw [List.countP_cons, List.countP_cons]
    omega

theorem countP_closeUp_lt (h : Gap lexemes) :
    (closeUp lexemes).countP Lexeme.isGap < lexemes.countP Lexeme.isGap := by
  fun_induction closeUp lexemes with
  | case1 =>
    obtain ⟨gap, rest, hsuffix, -⟩ := h
    cases List.suffix_nil.1 hsuffix
  | case2 lexeme rest htrailing ih =>
    cases hhead : rest.head?.any Lexeme.isGap with
    | false =>
      rw [dropWhile_isGap hhead] at ih ⊢
      rcases gap_cons_iff.1 h with ⟨-, -, hgap⟩ | hrest
      · rw [hhead] at hgap
        cases hgap
      · exact (ih hrest).trans_le (List.sublist_cons_self ..).countP_le
    | true =>
      cases rest with
      | nil => cases hhead
      | cons gap rest =>
        have hgap : gap.isGap = true := hhead
        rw [List.dropWhile_cons_of_pos hgap]
        calc (closeUp (rest.dropWhile Lexeme.isGap)).countP Lexeme.isGap
            ≤ (rest.dropWhile Lexeme.isGap).countP Lexeme.isGap := countP_closeUp_le _
          _ ≤ rest.countP Lexeme.isGap := (List.dropWhile_sublist _).countP_le
          _ < (gap :: rest).countP Lexeme.isGap := by
            rw [List.countP_cons_of_pos hgap]
            exact Nat.lt_succ_self _
          _ ≤ (lexeme :: gap :: rest).countP Lexeme.isGap := (List.sublist_cons_self ..).countP_le
  | case3 lexeme rest htrailing ih =>
    rcases gap_cons_iff.1 h with ⟨hcomma, hclose, -⟩ | hrest
    · exact absurd ⟨hcomma, hclose⟩ htrailing
    · have hlt := ih hrest
      rw [List.countP_cons, List.countP_cons]
      omega

/-- Gaps make a difference wherever there are any. -/
theorem closeUp_eq_withoutTrailing_iff : closeUp lexemes = withoutTrailing lexemes ↔ ¬ Gap lexemes := by
  refine ⟨fun heq hgap => ?_, closeUp_eq_withoutTrailing⟩
  have hlt := countP_closeUp_lt hgap
  rw [heq, countP_withoutTrailing] at hlt
  exact lt_irrefl _ hlt

/-! ## Up to a closing bracket -/

theorem closeUp_cons (h : ¬ (lexeme = .mark ',' ∧ closesNext lexemes = true)) :
    closeUp (lexeme :: lexemes) = lexeme :: closeUp lexemes := by
  rw [closeUp, if_neg h]

theorem closesNext_append (hopen : ∀ token ∈ lexemes, token.isClosing = false)
    (hgap : lexeme.isGap = false) (hclosing : lexeme.isClosing = false) (rest : List Lexeme) :
    closesNext (lexemes ++ lexeme :: rest) = false := by
  induction lexemes with
  | nil => rw [List.nil_append, closesNext_cons_of_not_isGap hgap, hclosing]
  | cons first others ih =>
    obtain ⟨hfirst, hothers⟩ := List.forall_mem_cons.1 hopen
    rw [List.cons_append]
    cases hpassed : first.isGap with
    | true => rw [closesNext_cons_of_isGap hpassed, ih hothers]
    | false => rw [closesNext_cons_of_not_isGap hpassed, hfirst]

/-- Without closing brackets, nothing changes up to a token that is neither one nor a gap. -/
theorem closeUp_append (hopen : ∀ token ∈ lexemes, token.isClosing = false) (hgap : lexeme.isGap = false)
    (hclosing : lexeme.isClosing = false) (rest : List Lexeme) :
    closeUp (lexemes ++ lexeme :: rest) = lexemes ++ closeUp (lexeme :: rest) := by
  induction lexemes with
  | nil => rfl
  | cons first others ih =>
    have hothers := (List.forall_mem_cons.1 hopen).2
    rw [List.cons_append, closeUp_cons, ih hothers, List.cons_append]
    rw [closesNext_append hothers hgap hclosing]
    rintro ⟨-, ⟨⟩⟩

/-- Gaps stay where no comma is in front of them. -/
theorem closeUp_gaps (hgaps : ∀ token ∈ lexemes, token.isGap = true) (rest : List Lexeme) :
    closeUp (lexemes ++ rest) = lexemes ++ closeUp rest := by
  induction lexemes with
  | nil => rfl
  | cons gap gaps ih =>
    obtain ⟨hgap, hgaps⟩ := List.forall_mem_cons.1 hgaps
    rw [List.cons_append, closeUp_cons, ih hgaps, List.cons_append]
    rintro ⟨rfl, -⟩
    cases hgap

theorem closesNext_of_open (hopen : ∀ token ∈ lexemes, token.isClosing = false) :
    closesNext lexemes = false := by
  rw [closesNext]
  cases hhead : (lexemes.dropWhile Lexeme.isGap).head? with
  | none => rfl
  | some first =>
    exact hopen first ((List.dropWhile_sublist _).subset (List.mem_of_mem_head? hhead))

theorem closeUp_of_open (hopen : ∀ token ∈ lexemes, token.isClosing = false) :
    closeUp lexemes = lexemes := by
  induction lexemes with
  | nil => rw [closeUp]
  | cons first others ih =>
    have hothers := (List.forall_mem_cons.1 hopen).2
    rw [closeUp_cons, ih hothers]
    rw [closesNext_of_open hothers]
    rintro ⟨-, ⟨⟩⟩

/-- What stands in front of a comma that nothing but blanks parts from the end; the last lexeme first. -/
def beforeComma? (done : List Lexeme) : Option (List Lexeme) :=
  match done.dropWhile Lexeme.isPassed with
  | .mark ',' :: before => some before
  | _ => none

theorem beforeComma?_of_comma {before : List Lexeme}
    (h : done.dropWhile Lexeme.isPassed = .mark ',' :: before) : beforeComma? done = some before := by
  rw [beforeComma?, h]
  rfl

theorem beforeComma?_of_other (h : ∀ before, done.dropWhile Lexeme.isPassed ≠ .mark ',' :: before) :
    beforeComma? done = none := by
  unfold beforeComma?
  split
  · next before heq => exact absurd heq (h before)
  · rfl

/-- A closing bracket stays, and what follows it does not depend on it. -/
theorem closeUp_cons_of_isClosing (h : lexeme.isClosing = true) (rest : List Lexeme) :
    closeUp (lexeme :: rest) = lexeme :: closeUp rest := by
  refine closeUp_cons ?_
  rintro ⟨rfl, -⟩
  cases h

/-- A comma goes with the gaps behind it. -/
theorem closeUp_comma {gaps : List Lexeme} (hgaps : ∀ token ∈ gaps, token.isGap = true)
    (hclosing : lexeme.isClosing = true) (rest : List Lexeme) :
    closeUp (.mark ',' :: (gaps ++ lexeme :: rest)) = lexeme :: closeUp rest := by
  have hstop : lexeme.isGap = false := Lexeme.isGap_eq_false_of_isClosing hclosing
  have hbehind : (gaps ++ lexeme :: rest).dropWhile Lexeme.isGap = lexeme :: rest := by
    rw [List.dropWhile_append_of_pos hgaps, List.dropWhile_cons_of_neg (by simp [hstop])]
  have hclose : closesNext (gaps ++ lexeme :: rest) = true := by
    rw [closesNext, hbehind]
    exact hclosing
  rw [closeUp, if_pos ⟨rfl, hclose⟩, hbehind, closeUp_cons_of_isClosing hclosing]

/-- Behind the last token that counts there are gaps only. -/
theorem exists_gaps (done : List Lexeme) : ∃ gaps : List Lexeme,
    (∀ token ∈ gaps, token.isGap = true) ∧
      tokens done.reverse = tokens (done.dropWhile Lexeme.isPassed).reverse ++ gaps := by
  refine ⟨tokens (done.takeWhile Lexeme.isPassed).reverse, fun token hmem => ?_, ?_⟩
  · obtain ⟨hmem, htoken⟩ := List.mem_filter.1 hmem
    exact Lexeme.isGap_of_isToken (List.mem_takeWhile_imp (List.mem_reverse.1 hmem)) htoken
  · rw [← tokens_append, ← List.reverse_append, List.takeWhile_append_dropWhile]

theorem isPassed_of_dropWhile {before : List Lexeme}
    (h : done.dropWhile Lexeme.isPassed = lexeme :: before) :
    lexeme.isToken = true ∧ lexeme.isGap = false := by
  have hhead := List.head?_dropWhile_not Lexeme.isPassed done
  rw [h] at hhead
  simpa [Lexeme.isPassed] using hhead

/-- What becomes of the tokens up to a closing bracket. -/
theorem closeUp_closing {opened : List Lexeme} (hopen : ∀ token ∈ opened, token.isClosing = false)
    (hclosing : lexeme.isClosing = true) (rest : List Lexeme) :
    closeUp (tokens opened.reverse ++ lexeme :: rest) =
      tokens ((beforeComma? opened).getD opened).reverse ++ lexeme :: closeUp rest := by
  obtain ⟨gaps, hgaps, hopened⟩ := exists_gaps opened
  have hrest : closeUp (gaps ++ lexeme :: rest) = gaps ++ lexeme :: closeUp rest := by
    rw [closeUp_gaps hgaps, closeUp_cons_of_isClosing hclosing]
  cases hdrop : opened.dropWhile Lexeme.isPassed with
  | nil =>
    rw [beforeComma?_of_other (by simp [hdrop]), Option.getD_none, hopened, hdrop]
    exact hrest
  | cons last before =>
    obtain ⟨hlast, hgap⟩ := isPassed_of_dropWhile hdrop
    have hkept : ∀ token ∈ last :: before, token.isClosing = false := by
      intro token hmem
      rw [← hdrop] at hmem
      exact hopen token ((List.dropWhile_sublist _).subset hmem)
    have hbefore : ∀ token ∈ tokens before.reverse, token.isClosing = false := by
      intro token hmem
      exact hkept token (List.mem_cons_of_mem _ (List.mem_reverse.1 (List.mem_of_mem_filter hmem)))
    have hlasts : tokens (last :: before).reverse = tokens before.reverse ++ [last] := by
      rw [List.reverse_cons, tokens_append]
      congr 1
      exact List.filter_cons_of_pos hlast
    have hsplit : tokens opened.reverse ++ lexeme :: rest =
        tokens before.reverse ++ last :: (gaps ++ lexeme :: rest) := by
      rw [hopened, hdrop, hlasts, List.append_assoc, List.append_assoc, List.singleton_append]
    rw [hsplit, closeUp_append hbefore hgap (hkept last (List.mem_cons_self ..))]
    by_cases hcomma : last = .mark ','
    · subst hcomma
      rw [beforeComma?_of_comma hdrop, Option.getD_some, closeUp_comma hgaps hclosing]
    · have hother : ∀ before', opened.dropWhile Lexeme.isPassed ≠ .mark ',' :: before' := by
        intro before' heq
        rw [hdrop] at heq
        exact hcomma (List.cons.inj heq).1
      rw [beforeComma?_of_other hother, Option.getD_none, hopened, hdrop, hlasts,
        closeUp_cons fun h => hcomma h.1, hrest]
      simp

end ApiShapes.Json
