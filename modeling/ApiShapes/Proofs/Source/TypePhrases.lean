import ApiShapes.Proofs.Source.Stepping
import ApiShapes.Proofs.Source.Tokens
import ApiShapes.Source.Parser.Type
import Mathlib.Logic.Function.Iterate

/-!
# Phrases of types

What the parsers of type expressions do at a place whose next tokens are known.

* `at_semicolon`, `at_colon` and their like : the marks of printed types;
* `fieldTail`, `member_run`, `members_run` : the fields of an object type, whatever their keys;
* `Stuck`, `functionType_of_stuck` : where no pattern can be read, an opening parenthesis begins no
  function type; `patternStep_field` : no object with a field is a pattern;
* `primaryType_keyword` … `typeStep_run` : type expressions, by precedence from words to unions.
-/

namespace ApiShapes.Source

open Grammar

variable {g : Grammar} {c c' : Cursor}

/-! ## Marks -/

@[simp]
theorem at_semicolon (rest : List Char) : Cursor.at (';' :: rest) = ⟨.mark ";", false, rest⟩ := by
  rfl

@[simp]
theorem at_colon (rest : List Char) : Cursor.at (':' :: rest) = ⟨.mark ":", false, rest⟩ := by
  rfl

@[simp]
theorem at_doubt (rest : List Char) :
    Cursor.at ('?' :: ':' :: rest) = ⟨.mark "?", false, ':' :: rest⟩ := by
  rfl

@[simp]
theorem at_space (rest : List Char) : Cursor.at (' ' :: rest) = Cursor.at rest := by
  rfl

@[simp]
theorem at_bar (rest : List Char) :
    Cursor.at ('|' :: ' ' :: rest) = ⟨.mark "|", false, ' ' :: rest⟩ := by
  rfl

@[simp]
theorem at_openParen (rest : List Char) :
    Cursor.at ('(' :: rest) = ⟨.mark "(", false, rest⟩ := by
  rfl

@[simp]
theorem at_closeParen (rest : List Char) :
    Cursor.at (')' :: rest) = ⟨.mark ")", false, rest⟩ := by
  rfl

@[simp]
theorem at_openBracket (rest : List Char) :
    Cursor.at ('[' :: rest) = ⟨.mark "[", false, rest⟩ := by
  rfl

@[simp]
theorem at_closeBracket (rest : List Char) :
    Cursor.at (']' :: rest) = ⟨.mark "]", false, rest⟩ := by
  rfl

@[simp]
theorem at_openBrace (rest : List Char) :
    Cursor.at ('{' :: rest) = ⟨.mark "\x7b", false, rest⟩ := by
  rfl

@[simp]
theorem at_closeBrace (rest : List Char) :
    Cursor.at ('}' :: rest) = ⟨.mark "\x7d", false, rest⟩ := by
  rfl

/-! ## Members -/

/-- What stands behind the key of a printed field. -/
def fieldTail (optional : Bool) (text tail : List Char) : List Char :=
  (if optional then ['?'] else []) ++ ':' :: ' ' :: (text ++ ';' :: tail)

theorem fieldTail_token (optional : Bool) (text tail : List Char) :
    (Cursor.at (fieldTail optional text tail)).token = .mark (if optional then "?" else ":") := by
  cases optional <;> rfl

/-- A word is no modifier when neither a key follows it nor a mark that starts what it modifies. -/
theorem modifiers_run (words starts : List String)
    (h : ∀ w, c.token = .word w → words.contains w = true →
      ∃ m, (Cursor.at c.rest).token = .mark m ∧ m ≠ "[" ∧ starts.contains m = false) :
    modifiers words starts c = some ((), c) := by
  have hnone : ∀ p : Parser (Option Unit), p c = some (none, c) →
      (do let _ ← repeated p : Parser Unit) c = some ((), c) := by
    intro p hp
    simp [repeated_of_none hp]
  apply hnone
  rw [bind_run, peek_run, Option.bind_some]
  cases hc : c.token with
  | word w =>
    by_cases hw : words.contains w = true
    · obtain ⟨m, hm, hbracket, hstarts⟩ := h w hc hw
      have hstarts : m ∉ starts := by simpa using hstarts
      cases hline : (Cursor.at c.rest).newLine <;> simp [hm, hline, atKey, hbracket, hstarts]
    · have hw : w ∉ words := by simpa using hw
      simp [hw]
  | _ => rfl

theorem key_run {name : String} (hkey : IsKey name c.token) :
    key g c = some ((some name, false), .at c.rest) := by
  obtain hkey | hkey := hkey <;> simp [key, hkey]

theorem member_run {name : String} {optional : Bool} {text tail : List Char} {type : TypeTree}
    (hg : g.language.types = true) (hkey : IsKey name c.token)
    (hrest : c.rest = fieldTail optional text tail)
    (htype : g.type (Cursor.at (text ++ ';' :: tail)) = some (type, Cursor.at (';' :: tail))) :
    member g c = some (.property name optional (some type), Cursor.at tail) := by
  have hnext : (Cursor.at c.rest).token = .mark (if optional then "?" else ":") := by
    rw [hrest, fieldTail_token]
  have hmark : ∀ m, c.token ≠ .mark m := by
    obtain hkey | hkey := hkey <;> simp [hkey]
  have hsignature : atSignature c = some (false, c) := by
    simp [atSignature, hmark]
  have hnew : sees (needWord "new" *> do check (← atSignature)) c = some (false, c) := by
    apply sees_of_none
    by_cases hname : c.token = .word "new" <;> cases optional <;> simp [atSignature, hnext, hname]
  have hmodifiers := modifiers_run (c := c) ["readonly", "public", "private", "protected", "static",
    "declare", "abstract", "override", "async", "const", "export", "default", "in", "out",
    "accessor"] [] fun _ _ _ => ⟨_, hnext, by cases optional <;> simp, rfl⟩
  have hindex : sees (needMark "[" *> identifier *> needMark ":") c = some (false, c) := by
    apply sees_of_none
    simp [hmark]
  have haccessor : sees (do
      check ((← takeWord "get") || (← takeWord "set"))
      check (← atKey)) c = some (false, c) := by
    apply sees_of_none
    by_cases hget : c.token = .word "get" <;> by_cases hset : c.token = .word "set" <;>
      cases optional <;> simp [hget, hset, atKey, hnext]
  simp only [member, bind_run, hsignature, hnew, hmodifiers, hindex, haccessor,
    key_run hkey, Option.bind_some, ite_run, Bool.false_eq_true, if_false, takeMark_run, hnext]
  cases optional
  · simp [fieldTail] at hrest
    simp [hrest, atSignature, ascription, hg, htype, endOfMember, endOfStatement]
  · simp [fieldTail] at hrest
    simp [hrest, atSignature, ascription, hg, htype, endOfMember, endOfStatement]

theorem mappedStart_of_field {name : String} {optional : Bool} {text tail : List Char}
    (hkey : IsKey name (Cursor.at c.rest).token)
    (hrest : (Cursor.at c.rest).rest = fieldTail optional text tail) : mappedStart c = none := by
  have hnext : (Cursor.at (Cursor.at c.rest).rest).token = .mark (if optional then "?" else ":") := by
    rw [hrest, fieldTail_token]
  have hmark : ∀ m, (Cursor.at c.rest).token ≠ .mark m := by
    obtain hkey | hkey := hkey <;> simp [hkey]
  by_cases hopen : c.token = .mark "\x7b" <;>
    by_cases hword : (Cursor.at c.rest).token = .word "readonly" <;> cases optional <;>
      simp [mappedStart, mappedModifier, attempt, hopen, hmark, hword, hnext]

theorem mappedStart_of_close (hclose : (Cursor.at c.rest).token = .mark "\x7d") :
    mappedStart c = none := by
  by_cases hopen : c.token = .mark "\x7b" <;>
    simp [mappedStart, mappedModifier, attempt, hopen, hclose]

theorem members_run {listed : List MemberTree} (hopen : c.token = .mark "\x7b")
    (hrepeats : Repeats (do if ← atMark "\x7d" then return none else return some (← member g))
      (.at c.rest) listed c')
    (hlen : listed.length ≤ (Cursor.at c.rest).rest.length + 1) (hclose : c'.token = .mark "\x7d") :
    members g c = some (listed, .at c'.rest) := by
  simp only [members, bind_run, needMark_run, hopen, if_true, Option.bind_some, pure_run,
    hrepeats.repeated_run hlen, hclose]

/-! ## Types without operators -/

theorem primaryType_keyword {w : String} {k : Keyword} (hc : c.token = .word w)
    (hk : keywordType w = some k) (hdot : (Cursor.at c.rest).token ≠ .mark ".") :
    primaryType g c = some (.keyword k, .at c.rest) := by
  simp [primaryType, hc, hk, hdot]

theorem primaryType_string {s : String} (hc : c.token = .string s) :
    primaryType g c = some (.literal (.string s), .at c.rest) := by
  simp [primaryType, hc]

theorem primaryType_bool (b : Bool) (hc : c.token = .word (if b then "true" else "false")) :
    primaryType g c = some (.literal (.bool b), .at c.rest) := by
  cases b <;> simp [primaryType, hc, keywordType]

theorem primaryType_paren {type : TypeTree} (hc : c.token = .mark "(")
    (htype : g.type (.at c.rest) = some (type, c')) (hclose : c'.token = .mark ")") :
    primaryType g c = some (type, .at c'.rest) := by
  simp [primaryType, hc, htype, hclose]

theorem primaryType_object {listed : List MemberTree} (hc : c.token = .mark "\x7b")
    (hmapped : mappedStart c = none) (hmembers : members g c = some (listed, c')) :
    primaryType g c = some (.object listed, c') := by
  simp [primaryType, hc, hmapped, hmembers]

/-! ## What is no parameter list -/

/-- At `c` no pattern can be read, or only one behind which neither a parameter nor a property of a
pattern goes on or ends. -/
def Stuck (g : Grammar) (c : Cursor) : Prop :=
  ∀ x c', g.pattern c = some (x, c') →
    ∀ m ∈ ["?", ":", "=", ",", ")", "\x7d"], c'.token ≠ .mark m

theorem stuck_of_none (h : g.pattern c = none) : Stuck g c := by
  intro x c' hx
  rw [h] at hx
  cases hx

theorem functionType_of_stuck (hc : c.token = .mark "(") (hstuck : Stuck g (.at c.rest))
    (hmarks : ∀ m ∈ [")", "@", "..."], (Cursor.at c.rest).token ≠ .mark m)
    (hwords : ∀ w ∈ ["public", "private", "protected", "readonly", "override", "this"],
      (Cursor.at c.rest).token ≠ .word w) :
    functionType g c = none := by
  have hdecorators : decorators g (.at c.rest) = some ((), .at c.rest) := by
    have hnone : ∀ p : Parser (Option Unit), p (.at c.rest) = some (none, .at c.rest) →
        repeated p (.at c.rest) = some ([], .at c.rest) := fun p => repeated_of_none
    rw [decorators, bind_run, hnone]
    · simp
    · simp [hmarks]
  have hmodifiers := modifiers_run (c := .at c.rest)
    ["public", "private", "protected", "readonly", "override"] ["\x7b"] fun w hw hmem =>
      (hwords w (List.mem_append_left ["this"] (List.contains_iff_mem.mp hmem)) hw).elim
  have hparams : params g c = none := by
    have hnone : ∀ p : Parser (Option (Option ParamTree)), p (.at c.rest) = none →
        repeated p (.at c.rest) = none := fun p => repeated_of_failure
    simp only [params, separated, bind_run, needMark_run, hc, if_true, Option.bind_some]
    rw [hnone]
    · rfl
    simp [hmarks, hdecorators, hmodifiers, hwords]
    cases hpattern : g.pattern (.at c.rest) with
    | none => simp
    | some read =>
      obtain ⟨x, c'⟩ := read
      have hc' := hstuck x c' hpattern
      cases htypes : g.language.types <;> simp [hc', ascription, initializer, htypes]
  simp [functionType, typeParams, hc, hparams]

theorem patternStep_of_not_name (hword : ∀ w, c.token ≠ .word w) (hbrace : c.token ≠ .mark "\x7b")
    (hbracket : c.token ≠ .mark "[") : patternStep g c = none := by
  simp only [patternStep, bind_run, peek_run, Option.bind_some, identifier_of_not_word hword]
  rfl

theorem patternStep_word {w : String} (hc : c.token = .word w) {x : Option String}
    (h : patternStep g c = some (x, c')) : c' = .at c.rest := by
  simp only [patternStep, bind_run, peek_run, Option.bind_some, hc, identifier_word hc] at h
  split at h
  · cases h
  · cases h
    rfl

theorem patternStep_empty (hc : c.token = .mark "\x7b")
    (hclose : (Cursor.at c.rest).token = .mark "\x7d") :
    patternStep g c = some (none, .at (Cursor.at c.rest).rest) := by
  have hnone : ∀ p : Parser (Option Unit), p (.at c.rest) = some (none, .at c.rest) →
      repeated p (.at c.rest) = some ([], .at c.rest) := fun p => repeated_of_none
  simp only [patternStep, separated, bind_run, peek_run, Option.bind_some, hc, advance_run]
  rw [hnone]
  · simp [hclose]
  · simp [hclose]

/-- A printed field ends in a semicolon, which no property of a pattern does. -/
theorem patternStep_field {name : String} {optional : Bool} {text tail : List Char}
    (hc : c.token = .mark "\x7b") (hkey : IsKey name (Cursor.at c.rest).token)
    (hrest : (Cursor.at c.rest).rest = fieldTail optional text tail)
    (hstuck : Stuck g (.at (text ++ ';' :: tail))) : patternStep g c = none := by
  have hnone : ∀ p : Parser (Option Unit), p (.at c.rest) = none →
      repeated p (.at c.rest) = none := fun p => repeated_of_failure
  simp only [patternStep, separated, bind_run, peek_run, Option.bind_some, hc, advance_run]
  rw [hnone]
  · simp
  have hmark : ∀ m, (Cursor.at c.rest).token ≠ .mark m := by
    obtain hkey | hkey := hkey <;> simp [hkey]
  have hdefault : patternWithDefault g (.at (text ++ ';' :: tail)) = none ∨ ∃ c',
      patternWithDefault g (.at (text ++ ';' :: tail)) = some ((), c') ∧
        ∀ m ∈ [",", "\x7d"], c'.token ≠ .mark m := by
    cases hpattern : g.pattern (.at (text ++ ';' :: tail)) with
    | none => simp [patternWithDefault, hpattern]
    | some read =>
      obtain ⟨x, c'⟩ := read
      have hc' := hstuck x c' hpattern
      exact .inr ⟨c', by simp [patternWithDefault, hpattern, initializer, hc'], by simp [hc']⟩
  cases optional
  · -- the colon behind a key makes it no name of its own, and its pattern is stuck
    simp only [fieldTail, Bool.false_eq_true, if_false, List.nil_append] at hrest
    have hnamed : sees (identifier *> do check (!(← atMark ":"))) (.at c.rest) =
        some (false, .at c.rest) := by
      apply sees_of_none
      obtain hkey | hkey := hkey
      · by_cases hreserved : name ∈ reservedWords <;>
          simp [identifier_word hkey, hrest]
      · simp [identifier_of_not_word, hkey]
    simp only [bind_run, atMark_run, takeMark_run, needMark_run, hmark, if_false, ite_run,
      Option.bind_some, beq_eq_false_iff_ne.mpr (hmark _), Bool.false_eq_true, hnamed,
      key_run hkey, hrest, at_colon, at_space, if_true]
    obtain hdefault | ⟨c', hdefault, hc'⟩ := hdefault
    · simp [hdefault]
    · simp [hdefault, hc']
  · -- the mark of doubt behind a key ends its property
    simp only [fieldTail, if_true, List.cons_append, List.nil_append] at hrest
    simp [hmark, key_run hkey, hrest]
    obtain hkey | hkey := hkey
    · by_cases hreserved : name ∈ reservedWords <;>
        simp [identifier_word hkey, hrest, initializer, hreserved]
    · simp [identifier_of_not_word, hkey]

/-! ## Types with operators -/

def brackets (k : Nat) : List Char :=
  (List.replicate k ['[', ']']).flatten

theorem brackets_succ (k : Nat) (rest : List Char) :
    brackets (k + 1) ++ rest = '[' :: ']' :: (brackets k ++ rest) := by
  simp [brackets, List.replicate_succ]

theorem length_brackets (k : Nat) : (brackets k).length = k * 2 := by
  simp [brackets]

theorem foldl_replicate (k : Nat) (type : TypeTree) :
    (List.replicate k TypeTree.array).foldl (fun type step => step type) type =
      TypeTree.array^[k] type := by
  induction k generalizing type with
  | zero => rfl
  | succ k ih => rw [List.replicate_succ, List.foldl_cons, ih, Function.iterate_succ_apply]

theorem postfixType_run {k : Nat} {start : TypeTree} {rest : List Char}
    (hstart : primaryType g c = some (start, .at (brackets k ++ rest)))
    (hline : (Cursor.at rest).newLine = false)
    (hbracket : (Cursor.at rest).token ≠ .mark "[") (hbang : (Cursor.at rest).token ≠ .mark "!") :
    postfixType g c = some (TypeTree.array^[k] start, .at rest) := by
  have hlen : (List.replicate k TypeTree.array).length ≤
      (Cursor.at (brackets k ++ rest)).rest.length + 1 := by
    cases k with
    | zero => simp
    | succ k =>
      simp [brackets_succ, length_brackets]
      omega
  have hrepeats : ∀ k, Repeats (do
      if ← onNewLine then return none
      if ← takeMark "[" then
        if ← takeMark "]" then return some TypeTree.array
        let _ ← g.type
        needMark "]"
        return some fun _ => .unsupported "indexed access"
      if ← takeMark "!" then return some fun _ => .unsupported "type"
      return none) (Cursor.at (brackets k ++ rest)) (List.replicate k TypeTree.array)
        (Cursor.at rest) := by
    intro k
    induction k with
    | zero => exact .stop (by simp [brackets, hline, hbracket, hbang])
    | succ k ih => exact .again (by simp [brackets_succ]) ih
  simp only [postfixType, bind_run, hstart, Option.bind_some, (hrepeats k).repeated_run hlen,
    pure_run, foldl_replicate]

theorem operatorType_run {type : TypeTree} (htype : postfixType g c = some (type, c'))
    (hwords : ∀ w ∈ ["keyof", "unique", "readonly", "infer"], c.token ≠ .word w) :
    operatorType g c = some (type, c') := by
  have hnone : ∀ p : Parser (Option Bool), p c = some (none, c) → repeated p c = some ([], c) :=
    fun p => repeated_of_none
  rw [operatorType, bind_run, hnone]
  · simp [hwords, htype]
  · simp [hwords]

/-- Further parts are taken while the mark is here. -/
abbrev further (m : String) (part : Parser TypeTree) : Parser (Option TypeTree) := do
  if ← takeMark m then return some (← part)
  return none

theorem joinedTypes_one {m : String} {join : List TypeTree → TypeTree} {part : Parser TypeTree}
    {type : TypeTree} (hpart : part c = some (type, c')) (hc : c.token ≠ .mark m)
    (hc' : c'.token ≠ .mark m) : joinedTypes m join part c = some (type, c') := by
  have hothers : repeated (further m part) c' = some ([], c') :=
    repeated_of_none (by simp [further, hc'])
  simp only [joinedTypes, chained, bind_run, takeMark_run, hc, if_false, Option.bind_some, hpart,
    hothers, pure_run]
  rfl

theorem joinedTypes_many {m : String} {join : List TypeTree → TypeTree} {part : Parser TypeTree}
    {type : TypeTree} {types : List TypeTree} {c₁ : Cursor} (hc : c.token ≠ .mark m)
    (hpart : part c = some (type, c₁)) (hothers : Repeats (further m part) c₁ types c')
    (hlen : types.length ≤ c₁.rest.length + 1) (htypes : types ≠ []) :
    joinedTypes m join part c = some (join (type :: types), c') := by
  obtain ⟨other, types, rfl⟩ := List.exists_cons_of_ne_nil htypes
  simp only [joinedTypes, chained, bind_run, takeMark_run, hc, if_false, Option.bind_some, hpart,
    hothers.repeated_run hlen, pure_run]

theorem typeStep_run {type : TypeTree}
    (hunion : joinedTypes "|" .union (joinedTypes "&" .intersection (operatorType g)) c =
      some (type, c'))
    (hangle : c.token ≠ .mark "<") (hnew : c.token ≠ .word "new")
    (habstract : c.token ≠ .word "abstract")
    (hfunction : c.token = .mark "(" → functionType g c = none)
    (hextends : c'.token ≠ .word "extends") :
    typeStep g c = some (type, c') := by
  have hplain : plainType g c = some (type, c') := by
    by_cases hc : c.token = .mark "("
    · simp [plainType, hc, attempt_of_none (hfunction hc), hunion]
    · simp [plainType, hc, hangle, hnew, habstract, hunion]
  simp only [typeStep, bind_run, hplain, Option.bind_some, onNewLine_run]
  cases c'.newLine <;> simp [hextends]

end ApiShapes.Source
