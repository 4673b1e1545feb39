import ApiShapes.Json.Comments
import ApiShapes.Proofs.Json.Trailing

/-!
# What is left of JSON with comments

* `keep` : what is left, lexeme by lexeme, and `put` : character by character;
* `tokens_foldl_keep` : the tokens that are left;
* `Joins` : what is left and what is still to come could follow each other in a text;
* `lexes_stripPlain` : what is left of a text consists of the lexemes that are left;
* `stripComments_lexes` : it has the tokens of the text, without commas in front of closing brackets.
-/

namespace ApiShapes.Json

variable {text rest : List Char} {c : Char} {lexeme : Lexeme} {lexemes done : List Lexeme}

/-! ## Lexeme by lexeme -/

/-- The lexemes that are left, when one more comes behind them; the last one first. -/
def keep (done : List Lexeme) : Lexeme → List Lexeme
  | .mark c =>
    if c == ']' || c == '\x7d' then .mark c :: (beforeComma? done).getD done else .mark c :: done
  | .line _ => done
  | .block _ => .blank ' ' :: done
  | lexeme => lexeme :: done

theorem keep_of_isClosing (h : lexeme.isClosing = true) :
    keep done lexeme = lexeme :: (beforeComma? done).getD done := by
  cases lexeme with
  | mark c => exact if_pos h
  | _ => cases h

/-- Any other lexeme is a token that stays, or adds no token. -/
theorem keep_of_not_isClosing (done : List Lexeme) (h : lexeme.isClosing = false) : ∃ added : List Lexeme,
    keep done lexeme = added ++ done ∧ tokens added.reverse = tokens [lexeme] ∧
      ∀ token ∈ added, token.isClosing = false := by
  cases lexeme with
  | mark c => exact ⟨[.mark c], if_neg (Bool.eq_false_iff.1 h), rfl, by simpa using h⟩
  | line body => exact ⟨[], rfl, rfl, by simp⟩
  | block body => exact ⟨[.blank ' '], rfl, rfl, by simp [Lexeme.isClosing]⟩
  | quoted body => exact ⟨[.quoted body], rfl, rfl, by simp [Lexeme.isClosing]⟩
  | run cs => exact ⟨[.run cs], rfl, rfl, by simp [Lexeme.isClosing]⟩
  | blank c => exact ⟨[.blank c], rfl, rfl, by simp [Lexeme.isClosing]⟩

theorem beforeComma?_cons_of_isClosing (h : lexeme.isClosing = true) :
    beforeComma? (lexeme :: done) = none := by
  cases lexeme with
  | mark c =>
    refine beforeComma?_of_other fun before heq => ?_
    have heq : Lexeme.mark c :: done = .mark ',' :: before := heq
    cases heq
    cases h
  | _ => cases h

/-- A look back does not go past where one finds nothing. -/
theorem beforeComma?_append {opened : List Lexeme} (h : beforeComma? done = none) :
    (beforeComma? (opened ++ done)).getD (opened ++ done) = (beforeComma? opened).getD opened ++ done := by
  cases hdrop : opened.dropWhile Lexeme.isPassed with
  | nil =>
    have hall : beforeComma? (opened ++ done) = none := by
      rw [← h, beforeComma?, beforeComma?, List.dropWhile_append, hdrop]
      rfl
    rw [hall, beforeComma?_of_other (by simp [hdrop])]
    rfl
  | cons last before =>
    have happend : (opened ++ done).dropWhile Lexeme.isPassed = last :: (before ++ done) := by
      rw [List.dropWhile_append, hdrop]
      rfl
    by_cases hcomma : last = .mark ','
    · subst hcomma
      rw [beforeComma?_of_comma happend, beforeComma?_of_comma hdrop]
      rfl
    · rw [beforeComma?_of_other (by simp [happend, hcomma]), beforeComma?_of_other (by simp [hdrop, hcomma])]
      rfl

/-- The tokens that are left, where `opened` has come since the last closing bracket. -/
theorem tokens_foldl_keep (opened done lexemes : List Lexeme)
    (hopen : ∀ token ∈ opened, token.isClosing = false) (hdone : beforeComma? done = none) :
    tokens (lexemes.foldl keep (opened ++ done)).reverse =
      tokens done.reverse ++ closeUp (tokens opened.reverse ++ tokens lexemes) := by
  induction lexemes generalizing opened done with
  | nil =>
    have hopened : ∀ token ∈ tokens opened.reverse, token.isClosing = false := fun token hmem =>
      hopen token (List.mem_reverse.1 (List.mem_of_mem_filter hmem))
    rw [List.foldl_nil, List.reverse_append, tokens_append, tokens_nil, List.append_nil,
      closeUp_of_open hopened]
  | cons lexeme lexemes ih =>
    rw [List.foldl_cons, tokens_cons]
    cases hclosing : lexeme.isClosing with
    | true =>
      have htoken : tokens [lexeme] = [lexeme] := by
        cases lexeme with
        | mark c => rfl
        | _ => cases hclosing
      have hrest := ih [] (lexeme :: ((beforeComma? opened).getD opened ++ done)) (by simp)
        (beforeComma?_cons_of_isClosing hclosing)
      rw [List.nil_append] at hrest
      rw [keep_of_isClosing hclosing, beforeComma?_append hdone, hrest, htoken, List.singleton_append,
        closeUp_closing hopen hclosing]
      simp [htoken]
    | false =>
      obtain ⟨added, hkeep, htokens, hadded⟩ := keep_of_not_isClosing (opened ++ done) hclosing
      have hopen' : ∀ token ∈ added ++ opened, token.isClosing = false := by
        intro token hmem
        rcases List.mem_append.1 hmem with hmem | hmem
        · exact hadded token hmem
        · exact hopen token hmem
      rw [hkeep, ← List.append_assoc, ih _ _ hopen' hdone, List.reverse_append, tokens_append, htokens,
        List.append_assoc]

/-! ## Character by character -/

/-- The text that is left, when one more lexeme comes behind it; the last character first. -/
def put (done : List Char) : Lexeme → List Char
  | .mark c => if c == ']' || c == '\x7d' then c :: dropComma done else c :: done
  | .line _ => done
  | .block _ => ' ' :: done
  | lexeme => lexeme.text.reverse ++ done

theorem stripQuoted_body {done body rest : List Char} (h : isBody body = true) :
    stripQuoted done (body ++ '"' :: rest) = stripPlain ('"' :: (body.reverse ++ done)) rest := by
  fun_induction isBody body generalizing done with
  | case1 => simp [stripQuoted]
  | case2 => cases h
  | case3 c body ih =>
    rw [List.cons_append, List.cons_append, stripQuoted, ih h]
    simp
  | case4 c body hlast hescape ih =>
    rw [Bool.and_eq_true, bne_iff_ne] at h
    rw [List.cons_append, stripQuoted, if_neg (by simpa using h.1), ih h.2]
    · simp
    · rintro next after rfl hafter
      cases body with
      | nil => exact hlast rfl rfl
      | cons next body => exact hescape next body rfl rfl

theorem stripPlain_cons {done : List Char} (hquote : c ≠ '"')
    (hcomment : opensComment (c :: rest) = false) :
    stripPlain done (c :: rest) =
      if c == ']' || c == '\x7d' then stripPlain (c :: dropComma done) rest
      else stripPlain (c :: done) rest := by
  rw [stripPlain]
  · exact hquote
  · rintro after rfl rfl
    cases hcomment
  · rintro after rfl rfl
    cases hcomment

/-- The end of the line stays. -/
theorem stripLine_eq (done text : List Char) :
    stripLine done text = stripPlain done (text.dropWhile (· != '\n')) := by
  induction text with
  | nil => rw [stripLine, List.dropWhile_nil, stripPlain]
  | cons c text ih =>
    rw [stripLine]
    cases hc : c == '\n' with
    | true =>
      rw [eq_of_beq hc, if_pos rfl, List.dropWhile_cons_of_neg (by simp), stripPlain_cons (by decide) rfl]
      rfl
    | false => rw [if_neg Bool.false_ne_true, ih, List.dropWhile_cons_of_pos (by rw [bne, hc]; rfl)]

theorem stripBlock_scan {done body : List Char} (h : scanBlock text = some (body, rest)) :
    stripBlock done text = stripPlain (' ' :: done) rest := by
  fun_induction scanBlock text generalizing body with
  | case1 => cases h
  | case2 text =>
    cases h
    rw [stripBlock]
  | case3 c text hend ih =>
    obtain ⟨⟨inner, after⟩, hscan, heq⟩ := Option.map_eq_some_iff.1 h
    cases heq
    rw [stripBlock, ih hscan]
    exact hend

theorem stripPlain_of_not_isMark {done : List Char} (hquote : c ≠ '"') (hmark : isMark c = false)
    (hcomment : opensComment (c :: rest) = false) :
    stripPlain done (c :: rest) = stripPlain (c :: done) rest := by
  simp only [isMark, Bool.or_eq_false_iff] at hmark
  obtain ⟨⟨⟨⟨⟨-, hbracket⟩, -⟩, hbrace⟩, -⟩, -⟩ := hmark
  rw [stripPlain_cons hquote hcomment, hbracket, hbrace]
  rfl

theorem stripPlain_run (done text : List Char) :
    stripPlain done text = stripPlain ((scanRun true text).1.reverse ++ done) (scanRun true text).2 := by
  fun_induction scanRun true text generalizing done with
  | case1 => rfl
  | case2 c text hc ih =>
    simp only [startsRun, isOther, Bool.true_and, Bool.and_eq_true, Bool.not_eq_true',
      Bool.or_eq_false_iff, beq_eq_false_iff_ne] at hc
    obtain ⟨⟨⟨hmark, -⟩, hquote⟩, hcomment⟩ := hc
    rw [stripPlain_of_not_isMark hquote hmark hcomment, ih]
    simp
  | case3 => rfl

/-- What is left of a text, from its first lexeme. -/
theorem stripPlain_next {done : List Char} (h : next? true text = some (lexeme, rest)) :
    stripPlain done text = stripPlain (put done lexeme) rest := by
  unfold next? at h
  split at h
  · cases h
  · obtain ⟨⟨body, after⟩, hscan, heq⟩ := Option.map_eq_some_iff.1 h
    cases heq
    obtain ⟨hbody, rfl⟩ := scanQuoted_eq_some hscan
    rw [stripPlain, stripQuoted_body hbody]
    simp [put, Lexeme.text]
  · cases h
    rw [stripPlain, stripLine_eq]
    rfl
  · obtain ⟨⟨body, after⟩, hscan, heq⟩ := Option.map_eq_some_iff.1 h
    cases heq
    rw [stripPlain, stripBlock_scan hscan]
    rfl
  · next c text hquote hline hblock =>
    have hother : c ≠ '"' := hquote
    have hopens : opensComment (c :: text) = false :=
      opensComment_eq_false (fun _ => hline _ rfl) (fun _ => hblock _ rfl)
    split at h
    · next hmark =>
      cases h
      rw [stripPlain_cons hother hopens, put]
      split <;> rfl
    · next hmark =>
      rw [stripPlain_of_not_isMark hother (Bool.eq_false_iff.2 hmark) hopens]
      split at h
      · cases h
        rfl
      · cases h
        rw [stripPlain_run]
        simp [put, Lexeme.text]

theorem stripPlain_eq {done : List Char} (h : Lexes true text lexemes) :
    stripPlain done text = (lexemes.foldl put done).reverse := by
  induction h generalizing done with
  | nil => rw [stripPlain, List.foldl_nil]
  | cons hnext _ ih => rw [stripPlain_next hnext, ih, List.foldl_cons]

/-! ## Lexemes that are left -/

def Plain (lexemes : List Lexeme) : Prop :=
  ∀ lexeme ∈ lexemes, lexeme.Sound ∧ lexeme.isComment = false

/-- The text of lexemes whose last one comes first, its last character first. -/
def back (done : List Lexeme) : List Char :=
  (written done.reverse).reverse

theorem back_cons (lexeme : Lexeme) (done : List Lexeme) :
    back (lexeme :: done) = lexeme.text.reverse ++ back done := by
  simp [back]

theorem back_append {before : List Lexeme} : back (done ++ before) = back done ++ back before := by
  simp [back]

theorem Plain.sublist {before : List Lexeme} (h : Plain done) (hsublist : before.Sublist done) :
    Plain before :=
  fun lexeme hmem => h lexeme (hsublist.subset hmem)

theorem isBlank_of_isSpace (h : isSpace c = true) : Text.isBlank c = true := by
  simp only [isSpace, Bool.or_eq_true, beq_iff_eq] at h
  rcases h with ((rfl | rfl) | rfl) | rfl <;> rfl

theorem isBlank_eq_false_of_isMark (h : isMark c = true) : Text.isBlank c = false := by
  simp only [isMark, Bool.or_eq_true, beq_iff_eq] at h
  rcases h with ((((rfl | rfl) | rfl) | rfl) | rfl) | rfl <;> rfl

theorem ne_comma_of_isOther (h : isOther c = true) : c ≠ ',' := by
  rintro rfl
  cases h

/-- What is passed over is written in blanks. -/
theorem isBlank_back (h : Plain done) (hpassed : ∀ lexeme ∈ done, lexeme.isPassed = true) :
    ∀ c ∈ back done, Text.isBlank c = true := by
  intro c hmem
  obtain ⟨lexeme, hlexeme, hc⟩ := List.mem_flatMap.1 (List.mem_reverse.1 hmem)
  rw [List.mem_reverse] at hlexeme
  obtain ⟨hsound, hcomment⟩ := h lexeme hlexeme
  have hpass := hpassed lexeme hlexeme
  cases lexeme with
  | blank other =>
    rw [List.mem_singleton.1 hc]
    exact isBlank_of_isSpace hsound
  | run cs => exact List.all_eq_true.1 hpass c hc
  | mark other => cases hpass
  | quoted body => cases hpass
  | line body => cases hcomment
  | block body => cases hcomment

/-- What is not passed over, and is no comma, shows none to a look back. -/
theorem dropWhile_isBlank_back (hsound : lexeme.Sound) (htoken : lexeme.isToken = true)
    (hgap : lexeme.isGap = false) (hcomma : lexeme ≠ .mark ',') (cs before : List Char) :
    (lexeme.text.reverse ++ cs).dropWhile Text.isBlank ≠ ',' :: before := by
  intro heq
  cases lexeme with
  | mark c =>
    have hc : Text.isBlank c = false := isBlank_eq_false_of_isMark hsound
    rw [Lexeme.text, List.reverse_singleton, List.singleton_append,
      List.dropWhile_cons_of_neg (Bool.eq_false_iff.1 hc)] at heq
    exact hcomma (by rw [(List.cons.inj heq).1])
  | quoted body =>
    have hlast : (Lexeme.quoted body).text.reverse ++ cs = '"' :: (body.reverse ++ '"' :: cs) := by
      simp [Lexeme.text]
    rw [hlast, List.dropWhile_cons_of_neg (by decide)] at heq
    cases heq
  | run other =>
    have hlast : other.reverse.dropWhile Text.isBlank ≠ [] := by
      intro hnil
      rw [List.dropWhile_eq_nil_iff] at hnil
      refine Bool.false_ne_true (hgap.symm.trans (List.all_eq_true.2 fun c hc => ?_))
      exact hnil c (List.mem_reverse.2 hc)
    obtain ⟨c, others, hc⟩ := List.exists_cons_of_ne_nil hlast
    rw [Lexeme.text, List.dropWhile_append, hc] at heq
    have hmem : c ∈ other := by
      have hfirst : c ∈ other.reverse.dropWhile Text.isBlank := by simp [hc]
      exact List.mem_reverse.1 ((List.dropWhile_sublist _).subset hfirst)
    exact ne_comma_of_isOther (hsound.2 c hmem) (List.cons.inj heq).1
  | blank c => cases htoken
  | line body => cases htoken
  | block body => cases htoken

theorem dropComma_of_comma {cs before : List Char} (h : cs.dropWhile Text.isBlank = ',' :: before) :
    dropComma cs = before := by
  rw [dropComma, h]
  rfl

theorem dropComma_of_other {cs : List Char} (h : ∀ before, cs.dropWhile Text.isBlank ≠ ',' :: before) :
    dropComma cs = cs := by
  unfold dropComma
  split
  · next before heq => exact absurd heq (h before)
  · rfl

/-- A look back over the text is one over the lexemes. -/
theorem dropComma_back (h : Plain done) :
    dropComma (back done) = back ((beforeComma? done).getD done) := by
  have hpassed : ∀ c ∈ back (done.takeWhile Lexeme.isPassed), Text.isBlank c = true :=
    isBlank_back (h.sublist (List.takeWhile_sublist _)) fun lexeme hmem => List.mem_takeWhile_imp hmem
  have hsplit : back done =
      back (done.takeWhile Lexeme.isPassed) ++ back (done.dropWhile Lexeme.isPassed) := by
    rw [← back_append, List.takeWhile_append_dropWhile]
  have hblanks : (back done).dropWhile Text.isBlank =
      (back (done.dropWhile Lexeme.isPassed)).dropWhile Text.isBlank := by
    rw [hsplit, List.dropWhile_append_of_pos hpassed]
  cases hdrop : done.dropWhile Lexeme.isPassed with
  | nil =>
    rw [hdrop] at hblanks
    rw [beforeComma?_of_other (by simp [hdrop])]
    refine dropComma_of_other fun before heq => ?_
    rw [hblanks] at heq
    cases heq
  | cons last before =>
    obtain ⟨htoken, hgap⟩ := isPassed_of_dropWhile hdrop
    rw [hdrop, back_cons] at hblanks
    by_cases hcomma : last = .mark ','
    · subst hcomma
      rw [beforeComma?_of_comma hdrop]
      exact dropComma_of_comma hblanks
    · have hlast : last ∈ done := by
        refine (List.dropWhile_sublist Lexeme.isPassed).subset ?_
        rw [hdrop]
        exact List.mem_cons_self ..
      rw [beforeComma?_of_other (by simp [hdrop, hcomma])]
      refine dropComma_of_other fun before' => ?_
      rw [hblanks]
      exact dropWhile_isBlank_back (h last hlast).1 htoken hgap hcomma _ _

theorem put_back (h : Plain done) : put (back done) lexeme = back (keep done lexeme) := by
  cases lexeme with
  | mark c =>
    rw [put, keep, dropComma_back h]
    split
    · exact (back_cons (.mark c) _).symm
    · exact (back_cons (.mark c) done).symm
  | line body => rfl
  | block body => exact (back_cons (.blank ' ') done).symm
  | quoted body => exact (back_cons (.quoted body) done).symm
  | run cs => exact (back_cons (.run cs) done).symm
  | blank c => exact (back_cons (.blank c) done).symm

theorem beforeComma?_cases (done : List Lexeme) :
    beforeComma? done = none ∨
      ∃ before, beforeComma? done = some before ∧ .mark ',' :: before <:+ done := by
  unfold beforeComma?
  split
  · next before heq =>
    refine .inr ⟨before, rfl, ?_⟩
    rw [← heq]
    exact List.dropWhile_suffix _
  · exact .inl rfl

/-- A line comment leaves nothing, a block comment a blank, and what else comes stays; in front of a closing
bracket a comma may go, with what is behind it. -/
theorem keep_cases (done : List Lexeme) (lexeme : Lexeme) :
    (∃ body, lexeme = .line body ∧ keep done lexeme = done) ∨
      (∃ body, lexeme = .block body ∧ keep done lexeme = .blank ' ' :: done) ∨
      (lexeme.isComment = false ∧ keep done lexeme = lexeme :: done) ∨
      ∃ before, lexeme.isClosing = true ∧ keep done lexeme = lexeme :: before ∧
        .mark ',' :: before <:+ done := by
  cases lexeme with
  | mark c =>
    right; right
    cases hclosing : (Lexeme.mark c).isClosing with
    | true =>
      rw [keep_of_isClosing hclosing]
      rcases beforeComma?_cases done with hnone | ⟨before, hsome, hsuffix⟩
      · exact .inl ⟨rfl, by rw [hnone]; rfl⟩
      · exact .inr ⟨before, rfl, by rw [hsome]; rfl, hsuffix⟩
    | false => exact .inl ⟨rfl, if_neg (Bool.eq_false_iff.1 hclosing)⟩
  | line body => exact .inl ⟨body, rfl, rfl⟩
  | block body => exact .inr (.inl ⟨body, rfl, rfl⟩)
  | quoted body => exact .inr (.inr (.inl ⟨rfl, rfl⟩))
  | run cs => exact .inr (.inr (.inl ⟨rfl, rfl⟩))
  | blank c => exact .inr (.inr (.inl ⟨rfl, rfl⟩))

theorem isComment_of_isClosing (h : lexeme.isClosing = true) : lexeme.isComment = false := by
  cases lexeme with
  | mark c => rfl
  | _ => cases h

/-- Only a run has to be kept apart, and only from another one. -/
theorem apart_of_not_run {next : Lexeme} (hcomment : lexeme.isComment = false)
    (hnext : ∀ cs, next ≠ .run cs) : lexeme.Apart next := by
  cases lexeme with
  | run cs => exact hnext
  | line body => cases hcomment
  | _ => trivial

/-- What is left so far and what is still to come: lexemes that could follow each other in a text. -/
structure Joins (done lexemes : List Lexeme) : Prop where
  plain : Plain done
  apart : done.IsChain fun next lexeme => lexeme.Apart next
  coming : WellFormed lexemes
  meet : ∀ last ∈ done.head?, ∀ next ∈ lexemes.head?, last.Apart next

/-- No two runs meet that were apart, since a line comment ends at the end of its line and a block comment
leaves a blank. -/
theorem Joins.keep (h : Joins done (lexeme :: lexemes)) : Joins (keep done lexeme) lexemes := by
  obtain ⟨hsound, hsounds⟩ := List.forall_mem_cons.1 h.coming.sound
  obtain ⟨hnext, htail⟩ := List.isChain_cons.1 h.coming.apart
  have hcoming : WellFormed lexemes := ⟨hsounds, htail⟩
  have hfollows : ∀ before : List Lexeme, ∀ last ∈ (lexeme :: before).head?,
      ∀ next ∈ lexemes.head?, last.Apart next := by
    intro before last hmem
    cases Option.mem_some_iff.1 hmem
    exact hnext
  rcases keep_cases done lexeme with
    ⟨body, rfl, hkeep⟩ | ⟨body, rfl, hkeep⟩ | ⟨hcomment, hkeep⟩ | ⟨before, hclosing, hkeep, hbefore⟩
  · rw [hkeep]
    refine ⟨h.plain, h.apart, hcoming, fun last hmem next hnextmem => ?_⟩
    have hline : next = .blank '\n' := hnext next hnextmem
    exact apart_of_not_run (h.plain last (List.mem_of_mem_head? hmem)).2 (by simp [hline])
  · have hblank : ∀ last ∈ done.head?, last.Apart (.blank ' ') := fun last hmem =>
      apart_of_not_run (h.plain last (List.mem_of_mem_head? hmem)).2 (by simp)
    rw [hkeep]
    refine ⟨List.forall_mem_cons.2 ⟨⟨rfl, rfl⟩, h.plain⟩, h.apart.cons hblank, hcoming, ?_⟩
    rintro last hmem next -
    cases Option.mem_some_iff.1 hmem
    trivial
  · rw [hkeep]
    exact ⟨List.forall_mem_cons.2 ⟨⟨hsound, hcomment⟩, h.plain⟩,
      h.apart.cons fun last hmem => h.meet last hmem lexeme rfl, hcoming, hfollows done⟩
  · have hrun : ∀ cs, lexeme ≠ .run cs := by
      rintro cs rfl
      cases hclosing
    have hsuffix : before <:+ done := (List.suffix_cons ..).trans hbefore
    have hbracket : ∀ last ∈ before.head?, last.Apart lexeme := fun last hmem =>
      apart_of_not_run (h.plain last (hsuffix.subset (List.mem_of_mem_head? hmem))).2 hrun
    rw [hkeep]
    exact ⟨List.forall_mem_cons.2 ⟨⟨hsound, isComment_of_isClosing hclosing⟩,
      h.plain.sublist hsuffix.sublist⟩, (h.apart.suffix hsuffix).cons hbracket, hcoming, hfollows before⟩

theorem Joins.foldl_keep (h : Joins done lexemes) : Joins (lexemes.foldl Json.keep done) [] := by
  induction lexemes generalizing done with
  | nil => exact h
  | cons lexeme lexemes ih => exact ih h.keep

theorem Joins.foldl_put (h : Joins done lexemes) :
    lexemes.foldl put (back done) = back (lexemes.foldl Json.keep done) := by
  induction lexemes generalizing done with
  | nil => rfl
  | cons lexeme lexemes ih =>
    rw [List.foldl_cons, put_back h.plain]
    exact ih h.keep

/-- What is left of a text consists of the lexemes that are left. -/
theorem lexes_stripPlain (h : Lexes true text lexemes) :
    Lexes false (stripPlain [] text) (lexemes.foldl keep []).reverse := by
  have hjoins : Joins [] lexemes := ⟨by rintro _ ⟨⟩, .nil, h.wellFormed, by rintro _ ⟨⟩⟩
  have hleft := hjoins.foldl_keep
  have hback : stripPlain [] text = written (lexemes.foldl keep []).reverse := by
    have hput : lexemes.foldl put [] = back (lexemes.foldl keep []) := hjoins.foldl_put
    rw [stripPlain_eq h, hput, back, List.reverse_reverse]
  have hplain : ∀ lexeme ∈ (lexemes.foldl keep []).reverse, lexeme.Sound ∧ lexeme.isComment = false :=
    fun lexeme hmem => hleft.plain lexeme (List.mem_reverse.1 hmem)
  rw [hback]
  exact lexes_written ⟨fun lexeme hmem => (hplain lexeme hmem).1, List.isChain_reverse.2 hleft.apart⟩
    fun lexeme hmem => (hplain lexeme hmem).2

/-! ## What stays as it is -/

/-- Of lexemes that are no comments, none goes unless a token does. -/
theorem foldl_keep_eq (done : List Lexeme) (hcomments : ∀ lexeme ∈ lexemes, lexeme.isComment = false) :
    (tokens (lexemes.foldl keep done)).length ≤ (tokens lexemes).length + (tokens done).length ∧
      ((tokens lexemes).length + (tokens done).length ≤ (tokens (lexemes.foldl keep done)).length →
        lexemes.foldl keep done = lexemes.reverse ++ done) := by
  induction lexemes generalizing done with
  | nil => exact ⟨by simp, fun _ => rfl⟩
  | cons lexeme lexemes ih =>
    obtain ⟨hcomment, hothers⟩ := List.forall_mem_cons.1 hcomments
    have hcount : ∀ before : List Lexeme, (tokens (lexeme :: before)).length =
        (tokens [lexeme]).length + (tokens before).length := fun before => by
      rw [tokens_cons, List.length_append]
    rw [List.foldl_cons, List.reverse_cons, List.append_assoc, List.singleton_append, hcount lexemes]
    rcases keep_cases done lexeme with
      ⟨_, rfl, -⟩ | ⟨_, rfl, -⟩ | ⟨-, hkeep⟩ | ⟨before, -, hkeep, hbefore⟩
    · cases hcomment
    · cases hcomment
    · obtain ⟨hle, heq⟩ := ih (lexeme :: done) hothers
      rw [hcount done] at hle heq
      rw [hkeep]
      exact ⟨by omega, fun h => heq (by omega)⟩
    · obtain ⟨hle, -⟩ := ih (lexeme :: before) hothers
      have hless : (tokens (.mark ',' :: before)).length ≤ (tokens done).length :=
        (hbefore.sublist.filter _).length_le
      have hcomma : (tokens (.mark ',' :: before)).length = (tokens before).length + 1 := rfl
      rw [hcount before] at hle
      rw [hkeep]
      exact ⟨by omega, fun h => absurd h (by omega)⟩

/-- **What is left of a text keeps its tokens.** A text that can be cut into the lexemes of JSON with
comments leaves one that can be cut into those of JSON. Its tokens are those of the text, without one comma
in front of each closing bracket, exactly if no gap parts such a comma from its bracket; otherwise the comma
goes, and the gap with it. A text without comments and without such commas stays as it is, under the same
condition. -/
theorem stripComments_lexes {source : String} {lexemes : List Lexeme}
    (h : Lexes true source.toList lexemes) :
    ∃ plain, Lexes false (stripComments source).toList plain ∧
      tokens plain = closeUp (tokens lexemes) ∧
      (tokens plain = withoutTrailing (tokens lexemes) ↔ ¬ Gap (tokens lexemes)) ∧
      ((∀ lexeme ∈ lexemes, lexeme.isComment = false) →
        withoutTrailing (tokens lexemes) = tokens lexemes →
        (stripComments source = source ↔ ¬ Gap (tokens lexemes))) := by
  have hplain : Lexes false (stripComments source).toList (lexemes.foldl keep []).reverse := by
    rw [stripComments, String.toList_ofList]
    exact lexes_stripPlain h
  have htokens : tokens (lexemes.foldl keep []).reverse = closeUp (tokens lexemes) :=
    tokens_foldl_keep [] [] lexemes (by simp) rfl
  have hgap : tokens (lexemes.foldl keep []).reverse = withoutTrailing (tokens lexemes) ↔
      ¬ Gap (tokens lexemes) := by
    rw [htokens]
    exact closeUp_eq_withoutTrailing_iff
  refine ⟨_, hplain, htokens, hgap, fun hcomments htrailing => ?_⟩
  rw [htrailing] at hgap
  rw [← hgap]
  constructor
  · intro hsource
    have hself : Lexes false source.toList lexemes := by
      rw [← h.written_eq]
      exact lexes_written h.wellFormed hcomments
    rw [hsource] at hplain
    rw [hplain.unique hself]
  · intro hsame
    have hcount : (tokens lexemes).length + (tokens []).length ≤
        (tokens (lexemes.foldl keep [])).length := by
      rw [← hsame, tokens, List.filter_reverse, List.length_reverse]
      exact le_rfl
    have hkeep := (foldl_keep_eq [] hcomments).2 hcount
    rw [hkeep, List.append_nil, List.reverse_reverse] at hplain
    rw [← String.toList_inj, ← hplain.written_eq, h.written_eq]

/-- A text with comments that hold marks, and a string that holds comments. -/
def commented : String :=
  "[\"a//,]\\\"\", 1/*,**/2 , // ]\n ]"

def commentedLexemes : List Lexeme :=
  [.mark '[', .quoted "a//,]\\\"".toList, .mark ',', .blank ' ', .run ['1'], .block [',', '*'], .run ['2'],
    .blank ' ', .mark ',', .blank ' ', .line " ]".toList, .blank '\n', .blank ' ', .mark ']']

/-- The string stays, the numbers stay apart, and the last comma goes. -/
theorem stripComments_lexes_commented :
    Lexes true commented.toList commentedLexemes ∧ ∃ plain,
      Lexes false (stripComments commented).toList plain ∧
        tokens plain =
          [.mark '[', .quoted "a//,]\\\"".toList, .mark ',', .run ['1'], .run ['2'], .mark ']'] := by
  have hlexes : Lexes true commented.toList commentedLexemes := by
    repeat' first | exact .nil | refine .cons rfl ?_
  obtain ⟨plain, hplain, -, htokens, -⟩ := stripComments_lexes hlexes
  refine ⟨hlexes, plain, hplain, htokens.2 fun hgap => ?_⟩
  have hnone : ∀ token ∈ tokens commentedLexemes, token.isGap = false := by decide
  obtain ⟨gap, rest, hsuffix, hgap, -⟩ := hgap
  rw [hnone gap (hsuffix.subset (by simp))] at hgap
  cases hgap

/-- A gap goes with the comma in front of it. -/
example : stripComments "[1,\u00a0]" = "[1]" := by decide +kernel

end ApiShapes.Json
