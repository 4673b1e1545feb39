import ApiShapes.Proofs.Shape.Printed
import ApiShapes.Source.Module

/-!
# Printed shapes read back

A printed shape is read with the type grammar that modules are read with.

* `readType?`, `Shape.read?` : the type expression, and the shape, that a whole text is;
* `Continues` : what stands behind a printed shape, by the tokens that may come next; `Opens` : how
  it begins;
* `Legible.stuck` : no printed shape is taken for a parameter, so that a parenthesis in front of an
  open union opens no function type;
* `Spine` : the text as a type without operators and its array brackets; `Reads` : the text as a
  type; `Legible.reads` : by induction on the shape, both;
* `print_reads_back` : a legible shape is read back from its text, whatever its depth.
-/

namespace ApiShapes

open Source Source.Grammar

/-- TypeScript with type annotations and without markup. -/
def typeScript : Language := ⟨true, false⟩

/-- The type expression that a text is, if it is one from its start to its end. As in a module, the
text's length bounds the depth. -/
def readType? (text : String) : Option TypeTree := do
  let cs := text.toList
  let (type, c) ← (Grammar.ofDepth typeScript (cs.length + 1)).type (Cursor.at cs)
  if c.token = .done then some type else none

def Shape.read? (text : String) : Option Shape :=
  (readType? text).bind TypeTree.shape?

/-! ## What comes next -/

/-- After `rest` has begun the text goes on with one of these tokens, on the same line and not as a
part of a word. -/
structure Continues (tokens : List Token) (rest : List Char) : Prop where
  token : (Cursor.at rest).token ∈ tokens
  line : (Cursor.at rest).newLine = false
  boundary : Boundary rest

/-- What stands behind a printed shape. -/
def closers : List Token := [.done, .mark ";", .mark ")"]

/-- What stands behind a member of a union. -/
def separators : List Token := .mark "|" :: closers

/-- What stands behind the innermost element of arrays. -/
def extensions : List Token := .mark "[" :: separators

theorem Continues.mono {tokens tokens' : List Token} {rest : List Char}
    (h : Continues tokens rest) (hsub : tokens ⊆ tokens') : Continues tokens' rest :=
  ⟨hsub h.token, h.line, h.boundary⟩

theorem boundary_cons {c : Char} (hc : Text.isIdentifierPart c = false) (hslash : c ≠ '\\')
    (rest : List Char) : Boundary (c :: rest) := by
  rintro _ ⟨⟩
  exact ⟨hc, hslash⟩

theorem continues_nil : Continues closers [] :=
  ⟨by decide, rfl, by rintro _ ⟨⟩⟩

theorem continues_semicolon (rest : List Char) : Continues closers (';' :: rest) :=
  ⟨by simp [closers], by simp, boundary_cons (by decide) (by decide) rest⟩

theorem continues_close (rest : List Char) : Continues closers (')' :: rest) :=
  ⟨by simp [closers], by simp, boundary_cons (by decide) (by decide) rest⟩

theorem continues_bar (rest : List Char) : Continues separators (' ' :: '|' :: ' ' :: rest) :=
  ⟨by simp [separators], by simp, boundary_cons (by decide) (by decide) _⟩

theorem continues_brackets {rest : List Char} (h : Continues separators rest) (k : Nat) :
    Continues extensions (brackets k ++ rest) := by
  cases k with
  | zero => exact h.mono (by simp [extensions])
  | succ k =>
    rw [brackets_succ]
    exact ⟨by simp [extensions], by simp, boundary_cons (by decide) (by decide) _⟩

/-! ## How a printed shape begins -/

/-- A printed shape can begin at `c`. A parenthesis opens no parameter list there. -/
inductive Opens : Cursor → Prop
  | word {c : Cursor} {w : String} (hc : c.token = .word w) (hw : w ∈ Shape.typeWords) : Opens c
  | string {c : Cursor} {s : String} (hc : c.token = .string s) : Opens c
  | brace {c : Cursor} (hc : c.token = .mark "\x7b") : Opens c
  | paren {c : Cursor} (hc : c.token = .mark "(")
      (stuck : ∀ n, Stuck (.ofDepth typeScript n) (.at c.rest)) (inner : Opens (.at c.rest)) :
      Opens c

theorem Opens.ne_mark {c : Cursor} (h : Opens c) {m : String} (hm : m ≠ "\x7b" ∧ m ≠ "(") :
    c.token ≠ .mark m := by
  cases h <;> simp_all [eq_comm]

theorem Opens.ne_word {c : Cursor} (h : Opens c) {w : String} (hw : w ∉ Shape.typeWords) :
    c.token ≠ .word w := by
  cases h with
  | word hc hmem =>
    rw [hc]
    rintro ⟨⟩
    exact hw hmem
  | string hc => simp [hc]
  | brace hc => simp [hc]
  | paren hc => simp [hc]

theorem Opens.functionType {c : Cursor} (h : Opens c) (hc : c.token = .mark "(") (n : Nat) :
    functionType (.ofDepth typeScript n) c = none := by
  cases h with
  | paren _ stuck inner =>
    refine functionType_of_stuck hc (stuck n) (fun m hm => inner.ne_mark ?_)
      (fun w hw => inner.ne_word ?_)
    · revert m; decide
    · revert w; decide
  | _ => simp_all

namespace Shape

/-- Where a pattern ends here, nothing goes on that stands behind a pattern. -/
structure Halts (rest : List Char) : Prop where
  boundary : Boundary rest
  token : ∀ m ∈ ["?", ":", "=", ",", ")", "\x7d"], (Cursor.at rest).token ≠ .mark m

theorem halts_semicolon (rest : List Char) : Halts (';' :: rest) :=
  ⟨(continues_semicolon rest).boundary, by simp⟩

theorem halts_bar (rest : List Char) : Halts (' ' :: '|' :: ' ' :: rest) :=
  ⟨(continues_bar rest).boundary, by simp⟩

theorem halts_bracket (rest : List Char) : Halts ('[' :: rest) :=
  ⟨boundary_cons (by decide) (by decide) rest, by simp⟩

theorem stuck_of_word? {t : Shape} {w : String} (ht : t.word? = some w) (n depth : Nat)
    {rest : List Char} (hrest : Halts rest) :
    Stuck (.ofDepth typeScript n) (.at (t.chars depth ++ rest)) := by
  cases n with
  | zero => exact stuck_of_none rfl
  | succ n =>
    have hc := at_word (needsQuoting_of_mem_typeWords (mem_typeWords ht)) hrest.boundary
    rw [chars_of_word? ht, hc]
    intro x c' hx
    obtain rfl := patternStep_word rfl hx
    exact hrest.token

theorem stuck_of_not_name {c : Cursor} (hword : ∀ w, c.token ≠ .word w)
    (hbrace : c.token ≠ .mark "\x7b") (hbracket : c.token ≠ .mark "[") (n : Nat) :
    Stuck (.ofDepth typeScript n) c := by
  cases n with
  | zero => exact stuck_of_none rfl
  | succ n => exact stuck_of_none (patternStep_of_not_name hword hbrace hbracket)

theorem fieldTail_boundary (optional : Bool) (text tail : List Char) :
    Boundary (fieldTail optional text tail) := by
  cases optional
  · exact boundary_cons (by decide) (by decide) _
  · exact boundary_cons (by decide) (by decide) _

/-- The first field of an object: its key is the first token behind the brace. -/
theorem at_fieldLines (depth : Nat) (f : Field) (fields : List Field) (rest : List Char) :
    IsKey f.name (Cursor.at (fieldLines depth (f :: fields) ++ rest)).token ∧
      (Cursor.at (fieldLines depth (f :: fields) ++ rest)).rest =
        fieldTail f.optional (f.type.chars (depth + 1)) (fieldLines depth fields ++ rest) := by
  obtain ⟨token, hkey, hline⟩ :=
    at_propertyKey f.name (2 * (depth + 1)) (fieldTail_boundary f.optional
      (f.type.chars (depth + 1)) (fieldLines depth fields ++ rest))
  rw [fieldLines_cons, blanks, hline]
  exact ⟨hkey, rfl⟩

/-- A printed shape is no pattern with what stands behind patterns. A word and an empty object can
be one, but then the text goes on with a bracket, a bar or a semicolon; an object with a field is
none, since its fields end in semicolons. -/
theorem Legible.stuck {t : Shape} (ht : t.Legible) :
    ∀ (n depth : Nat) {rest : List Char}, Halts rest →
      Stuck (.ofDepth typeScript n) (.at (t.chars depth ++ rest)) := by
  induction ht with
  | primitive kind => exact fun n depth _ => stuck_of_word? rfl n depth
  | string s =>
    intro n depth rest _
    have hc : Cursor.at (chars depth (literal (.string s)) ++ rest) = _ := at_quote s rest
    exact stuck_of_not_name (by simp [hc]) (by simp [hc]) (by simp [hc]) n
  | bool b => cases b <;> exact fun n depth _ => stuck_of_word? rfl n depth
  | unknown => exact fun n depth _ => stuck_of_word? rfl n depth
  | @union members count _ _ ih =>
    match members with
    | [] => exact fun n depth _ => stuck_of_word? rfl n depth
    | [_] => exact (count rfl).elim
    | t :: u :: ts =>
      intro n depth rest _
      rw [chars_union, List.append_assoc]
      exact ih t List.mem_cons_self n depth (halts_bar _)
  | @array element _ ih =>
    intro n depth rest _
    rw [chars_array]
    split
    · rw [List.cons_append, List.cons_append]
      exact stuck_of_not_name (by simp) (by simp) (by simp) n
    · rw [List.append_assoc]
      exact ih n depth (halts_bracket _)
  | @object fields _ ih =>
    intro n depth rest hrest
    cases n with
    | zero => exact stuck_of_none rfl
    | succ n =>
      match fields with
      | [] =>
        have hempty : patternStep (.ofDepth typeScript n) (.at ('{' :: '}' :: rest)) =
            some (none, .at rest) := by
          rw [patternStep_empty (by simp) (by simp)]
          simp
        intro x c' hx
        rw [chars_object_nil] at hx
        obtain ⟨-, rfl⟩ := Prod.mk.inj (Option.some.inj (hempty.symm.trans hx))
        exact hrest.token
      | f :: fields =>
        obtain ⟨hkey, hrest⟩ := at_fieldLines depth f fields ('\n' :: (blanks depth ++ '}' :: rest))
        rw [chars_object_append]
        exact stuck_of_none (patternStep_field (by simp) hkey hrest
          (ih f List.mem_cons_self n (depth + 1) (halts_semicolon _)))

theorem exists_of_isOpenUnion {t : Shape} (h : t.isOpenUnion = true) :
    ∃ u v ts, t = union (u :: v :: ts) := by
  unfold isOpenUnion at h
  split at h
  · exact ⟨_, _, _, rfl⟩
  · cases h

/-- How a printed shape begins. -/
theorem Legible.opens {t : Shape} (ht : t.Legible) :
    ∀ (depth : Nat) {rest : List Char}, Boundary rest → Opens (.at (t.chars depth ++ rest)) := by
  have hword : ∀ {t : Shape} {w : String}, t.word? = some w → ∀ (depth : Nat) {rest : List Char},
      Boundary rest → Opens (.at (t.chars depth ++ rest)) := by
    intro t w hw depth rest hrest
    rw [chars_of_word? hw, at_word (needsQuoting_of_mem_typeWords (mem_typeWords hw)) hrest]
    exact .word rfl (mem_typeWords hw)
  induction ht with
  | primitive kind => exact hword rfl
  | string s =>
    intro depth rest _
    have hc : Cursor.at (chars depth (literal (.string s)) ++ rest) = _ := at_quote s rest
    exact .string (by rw [hc])
  | bool b => cases b <;> exact hword rfl
  | unknown => exact hword rfl
  | @union members count _ _ ih =>
    match members with
    | [] => exact hword rfl
    | [_] => exact (count rfl).elim
    | t :: u :: ts =>
      intro depth rest _
      rw [chars_union, List.append_assoc]
      exact ih t List.mem_cons_self depth (continues_bar _).boundary
  | @array element legible ih =>
    intro depth rest _
    rw [chars_array]
    split
    · rename_i hopen
      obtain ⟨t, u, ts, rfl⟩ := exists_of_isOpenUnion hopen
      simp only [List.cons_append, List.append_assoc, List.nil_append]
      refine .paren (by simp) (fun n => ?_) ?_
      · cases legible with
        | union _ _ members =>
          simp only [at_openParen, chars_union, List.append_assoc]
          exact (members t List.mem_cons_self).stuck n depth (halts_bar _)
      · exact ih depth (continues_close _).boundary
    · rw [List.append_assoc]
      exact ih depth (halts_bracket _).boundary
  | @object fields _ _ =>
    intro depth rest _
    match fields with
    | [] =>
      rw [chars_object_nil]
      exact .brace (by simp)
    | f :: fields =>
      rw [chars_object_append]
      exact .brace (by simp)

/-! ## Operands -/

/-- The text of `t` is that of a type without operators and array brackets behind it. -/
def Spine (t : Shape) (n depth : Nat) : Prop :=
  ∃ (text : List Char) (start : TypeTree) (k : Nat),
    t.chars depth = text ++ brackets k ∧ t.tree = TypeTree.array^[k] start ∧
      ∀ rest, Continues extensions rest →
        primaryType (.ofDepth typeScript n) (.at (text ++ rest)) = some (start, .at rest)

theorem Spine.of_primary {t : Shape} {n depth : Nat}
    (h : ∀ rest, Continues extensions rest →
      primaryType (.ofDepth typeScript n) (.at (t.chars depth ++ rest)) = some (t.tree, .at rest)) :
    Spine t n depth :=
  ⟨t.chars depth, t.tree, 0, by simp [brackets], rfl, h⟩

theorem Spine.array {t : Shape} {n depth : Nat} (h : Spine t n depth)
    (hclosed : t.isOpenUnion = false) : Spine (.array t) n depth := by
  obtain ⟨text, start, k, hchars, htree, hprimary⟩ := h
  refine ⟨text, start, k + 1, ?_, ?_, hprimary⟩
  · rw [chars_array, hclosed, hchars]
    simp [brackets, List.replicate_succ']
  · rw [tree, htree, Function.iterate_succ_apply']

theorem Spine.operatorType_run {t : Shape} {n depth : Nat} (h : Spine t n depth)
    (ht : t.Legible) {rest : List Char} (hrest : Continues separators rest) :
    operatorType (.ofDepth typeScript n) (.at (t.chars depth ++ rest)) =
      some (t.tree, .at rest) := by
  obtain ⟨text, start, k, hchars, htree, hprimary⟩ := h
  have hne : ∀ m, Token.mark m ∉ separators → (Cursor.at rest).token ≠ .mark m := by
    intro m hm heq
    exact hm (heq ▸ hrest.token)
  refine Source.operatorType_run ?_ fun w hw => (ht.opens depth hrest.boundary).ne_word ?_
  · rw [hchars, List.append_assoc, htree]
    exact postfixType_run (hprimary _ (continues_brackets hrest k)) hrest.line
      (hne _ (by simp [separators, closers])) (hne _ (by simp [separators, closers]))
  · revert w
    decide

/-- A printed shape between its neighbours, as a type. -/
def Reads (t : Shape) (n depth : Nat) : Prop :=
  ∀ rest, Continues closers rest →
    (Grammar.ofDepth typeScript n).type (.at (t.chars depth ++ rest)) = some (t.tree, .at rest)

/-- A member of a union, read up to the next bar. -/
theorem Spine.part_run {t : Shape} {n depth : Nat} (h : Spine t n depth)
    (ht : t.Legible) {rest : List Char} (hrest : Continues separators rest) :
    joinedTypes "&" .intersection (operatorType (.ofDepth typeScript n))
      (.at (t.chars depth ++ rest)) = some (t.tree, .at rest) :=
  joinedTypes_one (h.operatorType_run ht hrest)
    ((ht.opens depth hrest.boundary).ne_mark (by decide))
    fun hand => absurd (hand ▸ hrest.token) (by simp [separators, closers])

theorem reads_of_union {t : Shape} (ht : t.Legible) {n depth : Nat}
    (h : ∀ rest, Continues closers rest →
      joinedTypes "|" .union (joinedTypes "&" .intersection (operatorType (.ofDepth typeScript n)))
        (.at (t.chars depth ++ rest)) = some (t.tree, .at rest)) :
    Reads t (n + 1) depth := by
  intro rest hrest
  have hopens := ht.opens depth hrest.boundary
  exact typeStep_run (h rest hrest) (hopens.ne_mark (by decide)) (hopens.ne_word (by decide))
    (hopens.ne_word (by decide)) (fun hc => hopens.functionType hc n)
    fun hextends => absurd (hextends ▸ hrest.token) (by simp [closers])

theorem Spine.reads {t : Shape} (ht : t.Legible) {n depth : Nat} (h : Spine t n depth) :
    Reads t (n + 1) depth :=
  reads_of_union ht fun rest hrest =>
    joinedTypes_one (h.part_run ht (hrest.mono (by simp [separators])))
      ((ht.opens depth hrest.boundary).ne_mark (by decide))
      fun hbar => absurd (hbar ▸ hrest.token) (by simp [closers])

/-! ## Unions -/

theorem barred_cons (depth : Nat) (t : Shape) (ts : List Shape) (rest : List Char) :
    barred depth (t :: ts) ++ rest =
      ' ' :: '|' :: ' ' :: (t.chars depth ++ (barred depth ts ++ rest)) := by
  simp [barred]

theorem continues_barred {rest : List Char} (hrest : Continues closers rest) (depth : Nat)
    (ts : List Shape) : Continues separators (barred depth ts ++ rest) := by
  cases ts with
  | nil => exact hrest.mono (by simp [separators])
  | cons t ts =>
    rw [barred_cons]
    exact continues_bar _

theorem length_le_barred (depth : Nat) (ts : List Shape) : ts.length ≤ (barred depth ts).length := by
  induction ts with
  | nil => exact Nat.zero_le _
  | cons t ts ih =>
    simp [barred] at ih ⊢
    omega

theorem further_barred {n depth : Nat} {rest : List Char} (hrest : Continues closers rest) :
    ∀ {ts : List Shape}, (∀ t ∈ ts, t.Legible ∧ Spine t n depth) →
      Repeats (further "|" (joinedTypes "&" .intersection (operatorType (.ofDepth typeScript n))))
        (.at (barred depth ts ++ rest)) (trees ts) (.at rest)
  | [], _ => by
    refine .stop ?_
    have hbar : (Cursor.at rest).token ≠ .mark "|" := fun hbar =>
      absurd (hbar ▸ hrest.token) (by simp [closers])
    simp [barred, further, hbar]
  | t :: ts, h => by
    obtain ⟨ht, hspine⟩ := h t List.mem_cons_self
    refine .again ?_ (further_barred hrest fun u hu => h u (List.mem_cons_of_mem t hu))
    rw [barred_cons]
    simp [further, hspine.part_run ht (continues_barred hrest depth ts)]

theorem reads_union {t u : Shape} {ts : List Shape} {n depth : Nat}
    (hlegible : (union (t :: u :: ts)).Legible)
    (h : ∀ m ∈ t :: u :: ts, m.Legible ∧ Spine m n depth) :
    Reads (union (t :: u :: ts)) (n + 1) depth := by
  refine reads_of_union hlegible fun rest hrest => ?_
  obtain ⟨ht, hspine⟩ := h t List.mem_cons_self
  have hcontinues := continues_barred hrest depth (u :: ts)
  rw [chars_union, List.append_assoc, tree]
  refine joinedTypes_many ((ht.opens depth hcontinues.boundary).ne_mark (by decide))
    (hspine.part_run ht hcontinues)
    (further_barred hrest fun m hm => h m (List.mem_cons_of_mem t hm)) ?_ (by simp [trees])
  have hcount := length_le_barred depth ts
  simp [barred_cons, trees_eq_map]
  omega

/-! ## Objects -/

theorem length_le_fieldLines (depth : Nat) (fields : List Field) :
    fields.length ≤ (fieldLines depth fields).length := by
  induction fields with
  | nil => exact Nat.zero_le _
  | cons f fields ih =>
    simp [fieldLines] at ih ⊢
    omega

theorem ofDepth_language (language : Language) (n : Nat) :
    (Grammar.ofDepth language n).language = language := by
  induction n with
  | zero => rfl
  | succ n ih => exact ih

/-- The closing brace of an object, on a line of its own. -/
theorem at_closeLine (depth : Nat) (rest : List Char) :
    Cursor.at ('\n' :: (blanks depth ++ '}' :: rest)) = ⟨.mark "\x7d", true, rest⟩ := by
  have hblanks : skipBlanks false ('\n' :: (blanks depth ++ '}' :: rest)) = (true, '}' :: rest) :=
    (skipBlanks_spaces true _ _).trans (skipBlanks_ink (by decide) true rest)
  simp only [Cursor.at, Token.next, hblanks]
  rfl

theorem repeats_members {n depth : Nat} {close : List Char}
    (hclose : (Cursor.at close).token = .mark "\x7d") :
    ∀ {fields : List Field}, (∀ f ∈ fields, Reads f.type n (depth + 1)) →
      Repeats (do
          if ← atMark "\x7d" then return none
          return some (← member (.ofDepth typeScript n)))
        (.at (fieldLines depth fields ++ close)) (memberTrees fields) (.at close)
  | [], _ => by
    refine .stop ?_
    simp [fieldLines, hclose]
  | f :: fields, h => by
    obtain ⟨hkey, hrest⟩ := at_fieldLines depth f fields close
    refine .again ?_ (repeats_members hclose fun f' hf' => h f' (List.mem_cons_of_mem f hf'))
    have hmember := member_run (by rw [ofDepth_language]; rfl) hkey hrest
      (h f List.mem_cons_self _ (continues_semicolon (fieldLines depth fields ++ close)))
    have htoken : (Cursor.at (fieldLines depth (f :: fields) ++ close)).token ≠ .mark "\x7d" := by
      obtain hkey | hkey := hkey <;> simp [hkey]
    simp [hmember, htoken]

theorem length_memberTrees (fields : List Field) :
    (memberTrees fields).length = fields.length := by
  induction fields with
  | nil => rfl
  | cons f fields ih => rw [memberTrees, List.length_cons, ih, List.length_cons]

theorem primaryType_fields {n depth : Nat} {fields : List Field}
    (h : ∀ f ∈ fields, Reads f.type n (depth + 1)) (rest : List Char) :
    primaryType (.ofDepth typeScript n) (.at ((object fields).chars depth ++ rest)) =
      some ((object fields).tree, .at rest) := by
  cases fields with
  | nil =>
    rw [chars_object_nil]
    refine primaryType_object (by simp) (mappedStart_of_close (by simp)) ?_
    have hclose : (Cursor.at ('}' :: rest)).token = .mark "\x7d" := by simp
    have hmembers := members_run (c := .at ('{' :: '}' :: rest)) (by simp)
      (repeats_members hclose h) (Nat.zero_le _) hclose
    simpa using hmembers
  | cons f fields =>
    obtain ⟨hkey, hrest⟩ := at_fieldLines depth f fields ('\n' :: (blanks depth ++ '}' :: rest))
    have hclose := at_closeLine depth rest
    have hcount := length_le_fieldLines depth fields
    rw [chars_object_append]
    refine primaryType_object (by simp) (mappedStart_of_field hkey hrest) ?_
    have hmembers := members_run (c := .at ('{' ::
      (fieldLines depth (f :: fields) ++ '\n' :: (blanks depth ++ '}' :: rest)))) (by simp)
      (repeats_members (by rw [hclose]) h) ?_ (by rw [hclose])
    · simpa [hclose] using hmembers
    · rw [at_openBrace, hrest, length_memberTrees]
      simp [fieldTail]
      omega

/-! ## Every legible shape -/

theorem length_lt_of_mem {fields : List Field} {f : Field} (hf : f ∈ fields) (depth : Nat) :
    (f.type.chars (depth + 1)).length < ((object fields).chars depth).length := by
  have hlines : (f.type.chars (depth + 1)).length ≤ (fieldLines depth fields).length := by
    obtain ⟨before, after, rfl⟩ := List.append_of_mem hf
    simp [fieldLines, fieldTail]
    omega
  cases fields with
  | nil => cases hf
  | cons f' fields =>
    rw [chars_object]
    simp
    omega

theorem length_le_of_mem {t u m : Shape} {ts : List Shape} (hm : m ∈ t :: u :: ts) (depth : Nat) :
    (m.chars depth).length ≤ ((union (t :: u :: ts)).chars depth).length := by
  rw [chars_union, List.length_append]
  obtain rfl | hm := List.mem_cons.mp hm
  · exact Nat.le_add_right _ _
  · obtain ⟨before, after, hsplit⟩ := List.append_of_mem hm
    rw [hsplit]
    simp [barred]
    omega

theorem spine_of_word? {t : Shape} {w : String} (ht : t.word? = some w) (n depth : Nat) :
    Spine t n depth := by
  refine .of_primary fun rest hrest => ?_
  have hc := at_word (needsQuoting_of_mem_typeWords (mem_typeWords ht)) hrest.boundary
  rw [chars_of_word? ht, hc]
  have hdot : (Cursor.at rest).token ≠ .mark "." := fun hdot =>
    absurd (hdot ▸ hrest.token) (by simp [extensions, separators, closers])
  unfold word? at ht
  split at ht <;> cases ht
  · rename_i kind
    cases kind <;> exact primaryType_keyword rfl rfl hdot
  · exact primaryType_bool true rfl
  · exact primaryType_bool false rfl
  · exact primaryType_keyword rfl rfl hdot
  · exact primaryType_keyword rfl rfl hdot

/-- A legible shape is read back as it is: as a type where a type can end, and up to the bar of a
union where it is no open union itself. The text is long enough for the depth of what is in it. -/
theorem Legible.reads {t : Shape} (ht : t.Legible) : ∀ depth : Nat,
    (∀ n, (t.chars depth).length < n → Reads t n depth) ∧
      (t.isOpenUnion = false → ∀ n, (t.chars depth).length ≤ n → Spine t n depth) := by
  have of_spine : ∀ {t : Shape}, t.Legible → ∀ depth : Nat,
      (∀ n, (t.chars depth).length ≤ n → Spine t n depth) →
      (∀ n, (t.chars depth).length < n → Reads t n depth) ∧
        (t.isOpenUnion = false → ∀ n, (t.chars depth).length ≤ n → Spine t n depth) := by
    intro t ht depth h
    refine ⟨fun n hn => ?_, fun _ => h⟩
    obtain ⟨n, rfl⟩ := Nat.exists_eq_succ_of_ne_zero (Nat.ne_zero_of_lt hn)
    exact (h n (Nat.le_of_lt_succ hn)).reads ht
  induction ht with
  | primitive kind =>
    exact fun depth => of_spine (.primitive kind) depth fun n _ => spine_of_word? rfl n depth
  | string s =>
    refine fun depth => of_spine (.string s) depth fun n _ => .of_primary fun rest hrest => ?_
    have hc : Cursor.at (chars depth (literal (.string s)) ++ rest) = _ := at_quote s rest
    rw [hc]
    exact primaryType_string rfl
  | bool b =>
    exact fun depth => of_spine (.bool b) depth fun n _ => by
      cases b <;> exact spine_of_word? rfl n depth
  | unknown => exact fun depth => of_spine .unknown depth fun n _ => spine_of_word? rfl n depth
  | @union members count flat legible ih =>
    match members with
    | [] =>
      exact fun depth => of_spine (.union count flat legible) depth fun n _ =>
        spine_of_word? rfl n depth
    | [_] => exact (count rfl).elim
    | t :: u :: ts =>
      refine fun depth => ⟨fun n hn => ?_, fun h => by cases h⟩
      obtain ⟨n, rfl⟩ := Nat.exists_eq_succ_of_ne_zero (Nat.ne_zero_of_lt hn)
      refine reads_union (.union count flat legible) fun m hm => ⟨legible m hm, ?_⟩
      have hclosed : m.isOpenUnion = false := isOpenUnion_of_not_union (flat m hm)
      exact (ih m hm depth).2 hclosed n
        (Nat.le_trans (length_le_of_mem hm depth) (Nat.le_of_lt_succ hn))
  | @array element legible ih =>
    refine fun depth => of_spine (.array legible) depth fun n hn => ?_
    rw [chars_array] at hn
    cases hopen : element.isOpenUnion
    · refine ((ih depth).2 hopen n ?_).array hopen
      simp [hopen] at hn
      omega
    · -- parentheses make an open union a type without operators
      refine ⟨'(' :: (element.chars depth ++ [')']), element.tree, 1, ?_, rfl, fun rest hrest => ?_⟩
      · rw [chars_array, hopen]
        rfl
      · have hreads := (ih depth).1 n (by simp [hopen] at hn; omega) (')' :: rest)
          (continues_close rest)
        rw [List.cons_append, List.append_assoc]
        have hparen := primaryType_paren (g := .ofDepth typeScript n)
          (c := .at ('(' :: (element.chars depth ++ ')' :: rest))) (by simp) hreads (by simp)
        simpa using hparen
  | @object fields legible ih =>
    exact fun depth => of_spine (.object legible) depth fun n hn =>
      .of_primary fun rest _ => primaryType_fields (fun f hf =>
        (ih f hf (depth + 1)).1 n (Nat.lt_of_lt_of_le (length_lt_of_mem hf depth) hn)) rest

end Shape

theorem readType?_printAt {t : Shape} (ht : t.Legible) (depth : Nat) :
    readType? (t.printAt depth) = some t.tree := by
  have hreads := (ht.reads depth).1 _ (Nat.lt_succ_self _) [] continues_nil
  rw [List.append_nil] at hreads
  simp only [readType?]
  rw [← Shape.chars, hreads]
  rfl

/-- A legible shape is the type expression that its text is, whatever the depth it is printed at.
So no two of them have one text. -/
theorem print_reads_back :
    (∀ t : Shape, t.Legible → ∀ depth, Shape.read? (t.printAt depth) = some t) ∧
      ∀ t u : Shape, t.Legible → u.Legible → t.print = u.print → t = u := by
  have hread : ∀ t : Shape, t.Legible → ∀ depth, Shape.read? (t.printAt depth) = some t := by
    intro t ht depth
    rw [Shape.read?, readType?_printAt ht, Option.bind_some, t.shape?_tree]
  refine ⟨hread, fun t u ht hu htext => ?_⟩
  have hsome : some t = some u := by
    rw [← hread t ht 0, ← hread u hu 0]
    exact congrArg Shape.read? htext
  exact Option.some.inj hsome

/-- A union in front of brackets, a key that is a modifier elsewhere, and a text that looks like
the end of its string and the next member. -/
theorem print_reads_back_union :
    let t : Shape := .array (.union [.literal (.string "\" | "),
      .object [⟨"get", .array (.union []), true⟩]])
    t.print = "(\"\\\" | \" | \x7b\n  get?: never[];\n\x7d)[]" ∧ Shape.read? t.print = some t := by
  refine ⟨by decide +kernel, print_reads_back.1 _ (.array ?_) 0⟩
  refine .union (by decide) (by simp [Shape.isUnion]) fun m hm => ?_
  obtain rfl | rfl : m = _ ∨ m = _ := by simpa using hm
  · exact .string _
  · refine .object fun f hf => ?_
    obtain rfl := List.mem_singleton.mp hf
    exact .array (.union (by decide) (by simp) (by simp))

end ApiShapes
