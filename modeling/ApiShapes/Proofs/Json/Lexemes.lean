import ApiShapes.Text.Blank
import Mathlib.Data.List.Chain

/-!
# Lexemes of JSON, with comments or without

* `Lexeme` : a token, a blank or a comment;
* `next?`, `Lexes` : a text cut into lexemes, each as long as can be;
* `Lexes.unique` : there is one way to cut it;
* `Lexes.written_eq`, `Lexes.wellFormed` : the lexemes add up to the text, and none could go on into the next;
* `lexes_written` : conversely, such lexemes without comments are those of the text they add up to.
-/

namespace ApiShapes.Json

inductive Lexeme where
  /-- a bracket, a comma or a colon -/
  | mark (c : Char)
  /-- a string, by what stands between its quotes -/
  | quoted (body : List Char)
  /-- other characters in a row -/
  | run (cs : List Char)
  | blank (c : Char)
  /-- a comment up to the end of its line -/
  | line (body : List Char)
  /-- a comment up to the end that it names -/
  | block (body : List Char)
  deriving DecidableEq

/-! ## Characters -/

def isMark (c : Char) : Bool :=
  c == '[' || c == ']' || c == '\x7b' || c == '\x7d' || c == ',' || c == ':'

def isSpace (c : Char) : Bool :=
  c == ' ' || c == '\t' || c == '\n' || c == '\r'

def isOther (c : Char) : Bool :=
  !(isMark c || isSpace c || c == '"')

/-- What can stand between the quotes of a string: a backslash takes the next character with it. -/
def isBody : List Char → Bool
  | [] => true
  | ['\\'] => false
  | '\\' :: _ :: rest => isBody rest
  | c :: rest => c != '"' && isBody rest

def opensComment : List Char → Bool
  | '/' :: '/' :: _ => true
  | '/' :: '*' :: _ => true
  | _ => false

/-- A run starts here, or goes on. -/
def startsRun (comments : Bool) : List Char → Bool
  | [] => false
  | c :: rest => isOther c && !(comments && opensComment (c :: rest))

/-! ## Cutting -/

/-- What stands in front of the closing quote, and what follows it. -/
def scanQuoted : List Char → Option (List Char × List Char)
  | [] => none
  | '\\' :: c :: rest => (scanQuoted rest).map fun (body, rest) => ('\\' :: c :: body, rest)
  | c :: rest =>
    if c == '"' then some ([], rest)
    else (scanQuoted rest).map fun (body, rest) => (c :: body, rest)

/-- What stands in front of the end of a block comment, and what follows it. -/
def scanBlock : List Char → Option (List Char × List Char)
  | [] => none
  | '*' :: '/' :: rest => some ([], rest)
  | c :: rest => (scanBlock rest).map fun (body, rest) => (c :: body, rest)

/-- The rest of a run, and what follows it. -/
def scanRun (comments : Bool) : List Char → List Char × List Char
  | [] => ([], [])
  | c :: rest =>
    if startsRun comments (c :: rest) then
      (c :: (scanRun comments rest).1, (scanRun comments rest).2)
    else ([], c :: rest)

def next? : Bool → List Char → Option (Lexeme × List Char)
  | _, [] => none
  | _, '"' :: rest => (scanQuoted rest).map fun (body, rest) => (.quoted body, rest)
  | true, '/' :: '/' :: rest =>
    some (.line (rest.takeWhile (· != '\n')), rest.dropWhile (· != '\n'))
  | true, '/' :: '*' :: rest => (scanBlock rest).map fun (body, rest) => (.block body, rest)
  | comments, c :: rest =>
    if isMark c then some (.mark c, rest)
    else if isSpace c then some (.blank c, rest)
    else some (.run (c :: (scanRun comments rest).1), (scanRun comments rest).2)

inductive Lexes (comments : Bool) : List Char → List Lexeme → Prop
  | nil : Lexes comments [] []
  | cons {text rest : List Char} {lexeme : Lexeme} {lexemes : List Lexeme}
      (hnext : next? comments text = some (lexeme, rest)) (hrest : Lexes comments rest lexemes) :
      Lexes comments text (lexeme :: lexemes)

namespace Lexeme

def text : Lexeme → List Char
  | mark c => [c]
  | quoted body => '"' :: (body ++ ['"'])
  | run cs => cs
  | blank c => [c]
  | line body => '/' :: '/' :: body
  | block body => '/' :: '*' :: (body ++ ['*', '/'])

def isComment : Lexeme → Bool
  | line _ => true
  | block _ => true
  | _ => false

def isToken : Lexeme → Bool
  | mark _ => true
  | quoted _ => true
  | run _ => true
  | _ => false

/-- The characters are of the kind that the lexeme consists of. -/
def Sound : Lexeme → Prop
  | mark c => isMark c = true
  | quoted body => isBody body = true
  | run cs => cs ≠ [] ∧ ∀ c ∈ cs, isOther c = true
  | blank c => isSpace c = true
  | line _ => True
  | block _ => True

/-- The second lexeme can stand right behind the first. -/
def Apart : Lexeme → Lexeme → Prop
  | run _, next => ∀ cs, next ≠ run cs
  | line _, next => next = blank '\n'
  | _, _ => True

end Lexeme

def written (lexemes : List Lexeme) : List Char :=
  lexemes.flatMap Lexeme.text

def tokens (lexemes : List Lexeme) : List Lexeme :=
  lexemes.filter Lexeme.isToken

/-- Lexemes that a text can be cut into. -/
structure WellFormed (lexemes : List Lexeme) : Prop where
  sound : ∀ lexeme ∈ lexemes, lexeme.Sound
  apart : lexemes.IsChain Lexeme.Apart

variable {comments : Bool} {text rest body cs : List Char} {c : Char} {lexeme : Lexeme}
  {lexemes : List Lexeme}

@[simp] theorem written_nil : written [] = [] := rfl

@[simp] theorem written_cons : written (lexeme :: lexemes) = lexeme.text ++ written lexemes := rfl

@[simp] theorem written_append {more : List Lexeme} :
    written (lexemes ++ more) = written lexemes ++ written more :=
  List.flatMap_append

@[simp] theorem tokens_nil : tokens [] = [] := rfl

theorem tokens_cons : tokens (lexeme :: lexemes) = tokens [lexeme] ++ tokens lexemes :=
  List.filter_append [lexeme] lexemes

@[simp] theorem tokens_append {more : List Lexeme} :
    tokens (lexemes ++ more) = tokens lexemes ++ tokens more :=
  List.filter_append ..

theorem isOther_eq_false_of_isMark (h : isMark c = true) : isOther c = false := by
  rw [isOther, h]
  rfl

theorem isOther_eq_false_of_isSpace (h : isSpace c = true) : isOther c = false := by
  rw [isOther, h, Bool.or_true]
  rfl

theorem isMark_eq_false_of_isSpace (h : isSpace c = true) : isMark c = false := by
  simp only [isSpace, Bool.or_eq_true, beq_iff_eq] at h
  rcases h with ((rfl | rfl) | rfl) | rfl <;> rfl

/-! ## The parts of a text -/

theorem scanQuoted_append (h : isBody body = true) :
    scanQuoted (body ++ '"' :: rest) = some (body, rest) := by
  fun_induction isBody body with
  | case1 => rfl
  | case2 => cases h
  | case3 c body ih =>
    rw [List.cons_append, List.cons_append, scanQuoted, ih h, Option.map_some]
  | case4 c body hlast hescape ih =>
    rw [Bool.and_eq_true, bne_iff_ne] at h
    rw [List.cons_append, scanQuoted, if_neg (by simpa using h.1), ih h.2, Option.map_some]
    rintro next after rfl hafter
    cases body with
    | nil => exact hlast rfl rfl
    | cons next body => exact hescape next body rfl rfl

theorem scanQuoted_eq_some (h : scanQuoted text = some (body, rest)) :
    isBody body = true ∧ text = body ++ '"' :: rest := by
  fun_induction scanQuoted text generalizing body rest with
  | case1 => cases h
  | case2 c text ih =>
    obtain ⟨⟨inner, after⟩, hscan, heq⟩ := Option.map_eq_some_iff.1 h
    cases heq
    obtain ⟨hinner, rfl⟩ := ih hscan
    exact ⟨hinner, rfl⟩
  | case3 c text hescape hquote =>
    cases h
    rw [eq_of_beq hquote]
    exact ⟨rfl, rfl⟩
  | case4 c text hescape hquote ih =>
    obtain ⟨⟨inner, after⟩, hscan, heq⟩ := Option.map_eq_some_iff.1 h
    cases heq
    obtain ⟨hinner, rfl⟩ := ih hscan
    refine ⟨?_, rfl⟩
    have hback : c ≠ '\\' := by
      rintro rfl
      cases inner <;> exact hescape _ _ rfl rfl
    rw [isBody, hinner, Bool.and_true, bne_iff_ne]
    · simpa using hquote
    · rintro rfl
      exact absurd rfl hback
    · rintro _ _ rfl
      exact absurd rfl hback

theorem scanBlock_eq_some (h : scanBlock text = some (body, rest)) :
    text = body ++ '*' :: '/' :: rest := by
  fun_induction scanBlock text generalizing body rest with
  | case1 => cases h
  | case2 text =>
    cases h
    rfl
  | case3 c text hend ih =>
    obtain ⟨⟨inner, after⟩, hscan, heq⟩ := Option.map_eq_some_iff.1 h
    cases heq
    rw [ih hscan, List.cons_append]

theorem scanRun_append (comments : Bool) (text : List Char) :
    (scanRun comments text).1 ++ (scanRun comments text).2 = text := by
  fun_induction scanRun comments text with
  | case1 => rfl
  | case2 c text hc ih => rw [List.cons_append, ih]
  | case3 => rfl

theorem isOther_of_mem_scanRun (h : c ∈ (scanRun comments text).1) : isOther c = true := by
  fun_induction scanRun comments text with
  | case1 => cases h
  | case2 first text hfirst ih =>
    rcases List.mem_cons.1 h with rfl | h
    · exact (Bool.and_eq_true_iff.1 hfirst).1
    · exact ih h
  | case3 => cases h

theorem startsRun_scanRun : startsRun comments (scanRun comments text).2 = false := by
  fun_induction scanRun comments text with
  | case1 => rfl
  | case2 c text hc ih => exact ih
  | case3 c text hc => exact Bool.eq_false_iff.2 hc

/-- A run goes on as long as there are characters for it. -/
theorem scanRun_of_isOther (hcs : ∀ c ∈ cs, isOther c = true) (hrest : startsRun false rest = false) :
    scanRun false (cs ++ rest) = (cs, rest) := by
  induction cs with
  | nil =>
    cases rest with
    | nil => rfl
    | cons c rest => rw [List.nil_append, scanRun, hrest, if_neg Bool.false_ne_true]
  | cons c cs ih =>
    have hc : startsRun false (c :: (cs ++ rest)) = true := by
      rw [startsRun, hcs c (List.mem_cons_self ..)]
      rfl
    rw [List.cons_append, scanRun, if_pos hc, ih fun c hmem => hcs c (List.mem_cons_of_mem _ hmem)]

/-! ## The first lexeme -/

theorem opensComment_eq_false (hline : ∀ after, c = '/' → rest ≠ '/' :: after)
    (hblock : ∀ after, c = '/' → rest ≠ '*' :: after) : opensComment (c :: rest) = false := by
  unfold opensComment
  split
  · next heq =>
    cases heq
    exact (hline _ rfl rfl).elim
  · next heq =>
    cases heq
    exact (hblock _ rfl rfl).elim
  · rfl

theorem next?_cons (hquote : c ≠ '"') (hcomment : comments = true → opensComment (c :: rest) = false) :
    next? comments (c :: rest) =
      if isMark c then some (.mark c, rest)
      else if isSpace c then some (.blank c, rest)
      else some (.run (c :: (scanRun comments rest).1), (scanRun comments rest).2) := by
  rw [next?]
  · exact hquote
  · rintro after hcomments rfl rfl
    exact absurd (hcomment hcomments) (by simp [opensComment])
  · rintro after hcomments rfl rfl
    exact absurd (hcomment hcomments) (by simp [opensComment])

/-- The first lexeme and the rest add up to the text. -/
theorem next?_eq_some (h : next? comments text = some (lexeme, rest)) :
    text = lexeme.text ++ rest ∧ lexeme.Sound := by
  unfold next? at h
  split at h
  · cases h
  · obtain ⟨⟨body, after⟩, hscan, heq⟩ := Option.map_eq_some_iff.1 h
    cases heq
    obtain ⟨hbody, rfl⟩ := scanQuoted_eq_some hscan
    exact ⟨by simp [Lexeme.text], hbody⟩
  · cases h
    refine ⟨?_, trivial⟩
    rw [Lexeme.text, List.cons_append, List.cons_append, List.takeWhile_append_dropWhile]
  · obtain ⟨⟨body, after⟩, hscan, heq⟩ := Option.map_eq_some_iff.1 h
    cases heq
    rw [scanBlock_eq_some hscan]
    exact ⟨by simp [Lexeme.text], trivial⟩
  · next c rest hquote hline hblock =>
    split at h
    · next hmark =>
      cases h
      exact ⟨rfl, hmark⟩
    · next hmark =>
      split at h
      · next hspace =>
        cases h
        exact ⟨rfl, hspace⟩
      · next hspace =>
        cases h
        refine ⟨by rw [Lexeme.text, List.cons_append, scanRun_append], by simp, fun other hmem => ?_⟩
        rcases List.mem_cons.1 hmem with rfl | hmem
        · have hother : other ≠ '"' := hquote
          simp [isOther, hmark, hspace, hother]
        · exact isOther_of_mem_scanRun hmem

/-- A lexeme without a comment is the first one of any text that it starts and that does not go on with a
run, if it is one. -/
theorem next?_append (hsound : lexeme.Sound) (hcomment : lexeme.isComment = false)
    (hrest : ∀ cs, lexeme = .run cs → startsRun false rest = false) :
    next? false (lexeme.text ++ rest) = some (lexeme, rest) := by
  cases lexeme with
  | mark c =>
    have hc : isMark c = true := hsound
    have hquote : c ≠ '"' := by
      rintro rfl
      cases hc
    rw [Lexeme.text, List.singleton_append, next?_cons hquote (by rintro ⟨⟩), if_pos hc]
  | quoted body =>
    rw [Lexeme.text, List.cons_append, List.append_assoc, List.singleton_append, next?,
      scanQuoted_append hsound, Option.map_some]
  | run cs =>
    obtain ⟨hne, hcs⟩ := hsound
    obtain ⟨c, cs, rfl⟩ := List.exists_cons_of_ne_nil hne
    have hc : isOther c = true := hcs c (List.mem_cons_self ..)
    simp only [isOther, Bool.not_eq_true', Bool.or_eq_false_iff, beq_eq_false_iff_ne] at hc
    rw [Lexeme.text, List.cons_append, next?_cons hc.2 (by rintro ⟨⟩), hc.1.1, hc.1.2,
      scanRun_of_isOther (fun c hmem => hcs c (List.mem_cons_of_mem _ hmem)) (hrest _ rfl)]
    rfl
  | blank c =>
    have hc : isSpace c = true := hsound
    have hquote : c ≠ '"' := by
      rintro rfl
      cases hc
    rw [Lexeme.text, List.singleton_append, next?_cons hquote (by rintro ⟨⟩),
      isMark_eq_false_of_isSpace hc, hc]
    rfl
  | line body => cases hcomment
  | block body => cases hcomment

/-- Where the first lexeme is a run, one starts there. -/
theorem startsRun_of_next? (h : next? comments text = some (.run cs, rest)) :
    startsRun comments text = true := by
  unfold next? at h
  split at h
  · cases h
  · obtain ⟨_, -, heq⟩ := Option.map_eq_some_iff.1 h
    cases heq
  · cases h
  · obtain ⟨_, -, heq⟩ := Option.map_eq_some_iff.1 h
    cases heq
  · next c rest hquote hline hblock =>
    have hother : c ≠ '"' := hquote
    have hopens : comments = true → opensComment (c :: rest) = false := fun hcomments =>
      opensComment_eq_false (fun _ => hline _ hcomments) (fun _ => hblock _ hcomments)
    split at h
    · cases h
    · next hmark =>
      split at h
      · cases h
      · next hspace => cases comments <;> simp_all [startsRun, isOther]

theorem next?_scanRun {next : Lexeme} {after : List Char}
    (h : next? comments (scanRun comments text).2 = some (next, after)) : ∀ cs, next ≠ .run cs := by
  rintro cs rfl
  have hstarts := startsRun_of_next? h
  rw [startsRun_scanRun] at hstarts
  cases hstarts

/-- What follows the first lexeme could not belong to it. -/
theorem apart_of_next? {next : Lexeme} {after : List Char}
    (h : next? comments text = some (lexeme, rest)) (hnext : next? comments rest = some (next, after)) :
    lexeme.Apart next := by
  unfold next? at h
  split at h
  · cases h
  · obtain ⟨_, -, heq⟩ := Option.map_eq_some_iff.1 h
    cases heq
    trivial
  · next text =>
    cases h
    have hhead := List.head?_dropWhile_not (· != '\n') text
    cases hrest : text.dropWhile (· != '\n') with
    | nil =>
      rw [hrest] at hnext
      cases hnext
    | cons c rest =>
      rw [hrest] at hnext hhead
      have hc : c = '\n' := by simpa using hhead
      subst hc
      cases hnext
      rfl
  · obtain ⟨_, -, heq⟩ := Option.map_eq_some_iff.1 h
    cases heq
    trivial
  · next c text _ _ _ =>
    split at h
    · cases h
      trivial
    · split at h
      · cases h
        trivial
      · cases h
        exact next?_scanRun hnext

/-! ## All lexemes -/

theorem Lexes.unique {other : List Lexeme} (h : Lexes comments text lexemes)
    (hother : Lexes comments text other) : lexemes = other := by
  induction h generalizing other with
  | nil =>
    cases hother with
    | nil => rfl
    | cons hnext => cases hnext
  | cons hnext _ ih =>
    cases hother with
    | nil => cases hnext
    | cons hnext' hrest' =>
      rw [hnext] at hnext'
      cases hnext'
      rw [ih hrest']

/-- The lexemes of a text add up to it. -/
theorem Lexes.written_eq (h : Lexes comments text lexemes) : written lexemes = text := by
  induction h with
  | nil => rfl
  | cons hnext _ ih => rw [written_cons, ih, ← (next?_eq_some hnext).1]

theorem Lexes.wellFormed (h : Lexes comments text lexemes) : WellFormed lexemes := by
  induction h with
  | nil => exact ⟨by simp, .nil⟩
  | cons hnext hrest ih =>
    refine ⟨List.forall_mem_cons.2 ⟨(next?_eq_some hnext).2, ih.sound⟩, ?_⟩
    cases hrest with
    | nil => exact .singleton _
    | cons hnext' hrest' => exact .cons_cons (apart_of_next? hnext hnext') ih.apart

/-- No run starts where a lexeme stands that is none. -/
theorem startsRun_text (hsound : lexeme.Sound) (hrun : ∀ cs, lexeme ≠ .run cs)
    (hcomment : lexeme.isComment = false) : startsRun comments (lexeme.text ++ rest) = false := by
  cases lexeme with
  | mark c =>
    rw [Lexeme.text, List.singleton_append, startsRun, isOther_eq_false_of_isMark hsound, Bool.false_and]
  | quoted body => rfl
  | run cs => exact absurd rfl (hrun cs)
  | blank c =>
    rw [Lexeme.text, List.singleton_append, startsRun, isOther_eq_false_of_isSpace hsound, Bool.false_and]
  | line body => cases hcomment
  | block body => cases hcomment

/-- Lexemes without comments are those of the text that they add up to. -/
theorem lexes_written (h : WellFormed lexemes) (hcomments : ∀ lexeme ∈ lexemes, lexeme.isComment = false) :
    Lexes false (written lexemes) lexemes := by
  induction lexemes with
  | nil => exact .nil
  | cons lexeme lexemes ih =>
    obtain ⟨hcomment, hrest⟩ := List.forall_mem_cons.1 hcomments
    obtain ⟨hsound, hsounds⟩ := List.forall_mem_cons.1 h.sound
    refine .cons (next?_append hsound hcomment ?_) (ih ⟨hsounds, h.apart.tail⟩ hrest)
    rintro cs rfl
    cases lexemes with
    | nil => rfl
    | cons next lexemes =>
      have hapart : ∀ other, next ≠ .run other := (List.isChain_cons_cons.1 h.apart).1
      exact startsRun_text (hsounds _ (List.mem_cons_self ..)) hapart
        (hrest _ (List.mem_cons_self ..))

end ApiShapes.Json
