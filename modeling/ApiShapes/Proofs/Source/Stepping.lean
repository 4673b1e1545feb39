import ApiShapes.Source.Parser.Basic

/-!
# Running a parser step by step

* `bind_run`, `pure_run`, `takeMark_run` and their like : what one step of a parser does at a
  cursor, as equations;
* `Repeats` : the items that a repeated phrase reads one after the other; `repeated_run` : a
  repetition reads them, if the text is long enough for their number.
-/

namespace ApiShapes.Source

variable {α β : Type}

/-! ## Combinators -/

@[simp]
theorem bind_run (p : Parser α) (f : α → Parser β) (c : Cursor) :
    (p >>= f) c = (p c).bind fun x => f x.1 x.2 := rfl

@[simp]
theorem pure_run (a : α) (c : Cursor) : (pure a : Parser α) c = some (a, c) := rfl

@[simp]
theorem map_run (f : α → β) (p : Parser α) (c : Cursor) :
    (f <$> p) c = (p c).map fun x => (f x.1, x.2) := by
  change (p c).bind _ = _
  cases p c <;> rfl

@[simp]
theorem ite_run (P : Prop) [Decidable P] (p q : Parser α) (c : Cursor) :
    (if P then p else q) c = if P then p c else q c := by
  split <;> rfl

@[simp]
theorem failure_run (c : Cursor) : (failure : Parser α) c = none := rfl

@[simp]
theorem seqRight_run (p : Parser α) (q : Parser β) (c : Cursor) :
    (p *> q) c = (p c).bind fun x => q x.2 := rfl

@[simp]
theorem orElse_run (p q : Parser α) (c : Cursor) : (p <|> q) c = (p c).or (q c) := by
  change (p c <|> q c) = _
  cases p c <;> rfl

@[simp]
theorem sees_run (p : Parser α) (c : Cursor) : sees p c = some ((p c).isSome, c) := rfl

theorem sees_of_none {p : Parser α} {c : Cursor} (h : p c = none) :
    sees p c = some (false, c) := by
  rw [sees_run, h, Option.isSome_none]

theorem attempt_of_none {p : Parser α} {c : Cursor} (h : p c = none) :
    attempt p c = some (none, c) := by
  simp [attempt, h]

@[simp]
theorem check_run (b : Bool) (c : Cursor) : check b c = if b then some ((), c) else none := by
  cases b <;> rfl

/-! ## Single tokens -/

@[simp]
theorem peek_run (c : Cursor) : peek c = some (c.token, c) := rfl

@[simp]
theorem onNewLine_run (c : Cursor) : onNewLine c = some (c.newLine, c) := rfl

@[simp]
theorem advance_run (c : Cursor) : advance c = some ((), .at c.rest) := rfl

@[simp]
theorem atMark_run (m : String) (c : Cursor) : atMark m c = some (c.token == .mark m, c) := rfl

@[simp]
theorem takeMark_run (m : String) (c : Cursor) :
    takeMark m c = if c.token = .mark m then some (true, .at c.rest) else some (false, c) := by
  simp only [takeMark, bind_run, atMark_run, Option.bind_some, beq_iff_eq]
  split <;> rfl

@[simp]
theorem takeWord_run (w : String) (c : Cursor) :
    takeWord w c = if c.token = .word w then some (true, .at c.rest) else some (false, c) := by
  have hat : atWord w c = some (c.token == .word w, c) := rfl
  simp only [takeWord, bind_run, hat, Option.bind_some, beq_iff_eq]
  split <;> rfl

@[simp]
theorem needMark_run (m : String) (c : Cursor) :
    needMark m c = if c.token = .mark m then some ((), .at c.rest) else none := by
  simp only [needMark, bind_run, takeMark_run]
  split <;> rfl

@[simp]
theorem needWord_run (w : String) (c : Cursor) :
    needWord w c = if c.token = .word w then some ((), .at c.rest) else none := by
  simp only [needWord, bind_run, takeWord_run]
  split <;> rfl

theorem identifier_word {c : Cursor} {w : String} (h : c.token = .word w) :
    identifier c = if w ∈ reservedWords then none else some (w, .at c.rest) := by
  simp only [identifier, bind_run, peek_run, Option.bind_some, h, check_run]
  split <;> simp_all

theorem identifier_of_not_word {c : Cursor} (h : ∀ w, c.token ≠ .word w) : identifier c = none := by
  rw [identifier, bind_run, peek_run, Option.bind_some]
  cases hc : c.token with
  | word w => exact (h w hc).elim
  | _ => rfl

/-! ## Repetitions -/

/-- Time after time from `c` on, `p` reads these items, and then gives nothing. -/
inductive Repeats (p : Parser (Option α)) : Cursor → List α → Cursor → Prop
  | stop {c c' : Cursor} (h : p c = some (none, c')) : Repeats p c [] c'
  | again {c c₁ c' : Cursor} {a : α} {as : List α} (h : p c = some (some a, c₁))
      (rest : Repeats p c₁ as c') : Repeats p c (a :: as) c'

theorem Repeats.repeatedUpTo_run {p : Parser (Option α)} {c c' : Cursor} {as : List α}
    (h : Repeats p c as c') :
    ∀ {bound : Nat}, as.length < bound → repeatedUpTo p bound c = some (as, c') := by
  induction h with
  | stop h =>
    intro bound hbound
    obtain ⟨bound, rfl⟩ := Nat.exists_eq_succ_of_ne_zero (Nat.ne_of_gt hbound)
    simp [repeatedUpTo, h]
  | again h _ ih =>
    intro bound hbound
    obtain ⟨bound, rfl⟩ := Nat.exists_eq_succ_of_ne_zero (Nat.ne_zero_of_lt hbound)
    simp [repeatedUpTo, h, ih (Nat.lt_of_succ_lt_succ hbound)]

theorem Repeats.repeated_run {p : Parser (Option α)} {c c' : Cursor} {as : List α}
    (h : Repeats p c as c') (hlen : as.length ≤ c.rest.length + 1) :
    repeated p c = some (as, c') :=
  h.repeatedUpTo_run (Nat.lt_succ_of_le hlen)

/-- A phrase that gives nothing at once is repeated no time. -/
theorem repeated_of_none {p : Parser (Option α)} {c : Cursor} (h : p c = some (none, c)) :
    repeated p c = some ([], c) :=
  (Repeats.stop h).repeated_run (Nat.zero_le _)

theorem repeated_of_failure {p : Parser (Option α)} {c : Cursor} (h : p c = none) :
    repeated p c = none := by
  change repeatedUpTo p (c.rest.length + 2) c = none
  simp [repeatedUpTo, h]

end ApiShapes.Source
