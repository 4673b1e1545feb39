/-!
# Steps that may fail

* `bind_eq_ok` : two steps in a row have a result if the first has one, and the second with that;
* `foldlM_eq_ok_of_imp`, `foldlM_induction` : steps over a list, by what each single step does;
* `bind_eq_error`, `exists_step_of_foldlM_error` : a failure is that of one of the steps.
-/

namespace ApiShapes

variable {ε α β : Type}

theorem bind_eq_ok {x : Except ε α} {f : α → Except ε β} {b : β} :
    (x >>= f) = .ok b ↔ ∃ a, x = .ok a ∧ f a = .ok b := by
  cases x with
  | error e =>
    constructor
    · intro h
      cases h
    · rintro ⟨a, h, -⟩
      cases h
  | ok a =>
    constructor
    · exact fun h => ⟨a, rfl, h⟩
    · rintro ⟨_, h, hf⟩
      cases h
      exact hf

theorem exists_bind_eq_ok {x : Except ε α} {f : α → Except ε β} :
    (∃ b, (x >>= f) = .ok b) ↔ ∃ a, x = .ok a ∧ ∃ b, f a = .ok b := by
  simp only [bind_eq_ok]
  exact ⟨fun ⟨b, a, ha, hb⟩ => ⟨a, ha, b, hb⟩, fun ⟨a, ha, b, hb⟩ => ⟨b, a, ha, hb⟩⟩

theorem exists_return_eq_ok {x : Except ε α} {f : α → β} :
    (∃ b, (do return f (← x) : Except ε β) = .ok b) ↔ ∃ a, x = .ok a :=
  exists_bind_eq_ok.trans (exists_congr fun a => and_iff_left ⟨f a, rfl⟩)

theorem bind_eq_error {x : Except ε α} {f : α → Except ε β} {e : ε} :
    (x >>= f) = .error e ↔ x = .error e ∨ ∃ a, x = .ok a ∧ f a = .error e := by
  cases x with
  | error found =>
    constructor
    · rintro ⟨⟩
      exact .inl rfl
    · rintro (⟨⟨⟩⟩ | ⟨a, ⟨⟩, -⟩)
      rfl
  | ok a =>
    constructor
    · exact fun h => .inr ⟨a, rfl, h⟩
    · rintro (⟨⟨⟩⟩ | ⟨_, ⟨⟩, h⟩)
      exact h

variable {f g : β → α → Except ε β} {as : List α} {start result : β}

theorem foldlM_cons_eq_ok {a : α} : (a :: as).foldlM f start = .ok result ↔
    ∃ next, f start a = .ok next ∧ as.foldlM f next = .ok result := by
  rw [List.foldlM_cons]
  exact bind_eq_ok

/-- If all steps together have a result, so has each of them. -/
theorem exists_step_of_foldlM {a : α} (hfold : as.foldlM f start = .ok result) (ha : a ∈ as) :
    ∃ before after, f before a = .ok after := by
  induction as generalizing start with
  | nil => cases ha
  | cons first as ih =>
    obtain ⟨next, hnext, hrest⟩ := foldlM_cons_eq_ok.1 hfold
    rcases List.mem_cons.1 ha with rfl | ha
    · exact ⟨start, next, hnext⟩
    · exact ih hrest ha

/-- If the steps together fail, one of them does so. -/
theorem exists_step_of_foldlM_error {e : ε} (hfold : as.foldlM f start = .error e) :
    ∃ a ∈ as, ∃ before, f before a = .error e := by
  induction as generalizing start with
  | nil => cases hfold
  | cons first as ih =>
    rw [List.foldlM_cons] at hfold
    rcases bind_eq_error.1 hfold with hfirst | ⟨next, -, hrest⟩
    · exact ⟨first, List.mem_cons_self, start, hfirst⟩
    · obtain ⟨a, ha, hstep⟩ := ih hrest
      exact ⟨a, List.mem_cons_of_mem first ha, hstep⟩

/-- Steps that have the same results as others, but fail less often. -/
theorem foldlM_eq_ok_of_imp (h : ∀ a ∈ as, ∀ b c, f b a = .ok c → g b a = .ok c)
    (hfold : as.foldlM f start = .ok result) : as.foldlM g start = .ok result := by
  induction as generalizing start with
  | nil => exact hfold
  | cons a as ih =>
    obtain ⟨next, hnext, hrest⟩ := foldlM_cons_eq_ok.1 hfold
    exact foldlM_cons_eq_ok.2 ⟨next, h a List.mem_cons_self start next hnext,
      ih (fun b hb => h b (List.mem_cons_of_mem a hb)) hrest⟩

/-- What every step keeps holds of the result. -/
theorem foldlM_induction {P : β → Prop} (hstart : P start)
    (h : ∀ a ∈ as, ∀ b c, P b → f b a = .ok c → P c) (hfold : as.foldlM f start = .ok result) :
    P result := by
  induction as generalizing start with
  | nil =>
    cases hfold
    exact hstart
  | cons a as ih =>
    obtain ⟨next, hnext, hrest⟩ := foldlM_cons_eq_ok.1 hfold
    exact ih (h a List.mem_cons_self start next hstart hnext)
      (fun b hb => h b (List.mem_cons_of_mem a hb)) hrest

/-- What a list of steps gives has the result of each of them. -/
theorem exists_of_mapM {f : α → Except ε β} {bs : List β} (hmap : as.mapM f = .ok bs) {a : α}
    (ha : a ∈ as) : ∃ b ∈ bs, f a = .ok b := by
  induction as generalizing bs with
  | nil => cases ha
  | cons first as ih =>
    rw [List.mapM_cons] at hmap
    obtain ⟨b, hb, hmap⟩ := bind_eq_ok.1 hmap
    obtain ⟨rest, hrest, hmap⟩ := bind_eq_ok.1 hmap
    cases hmap
    rcases List.mem_cons.1 ha with rfl | ha
    · exact ⟨b, List.mem_cons_self, hb⟩
    · obtain ⟨found, hfound, hstep⟩ := ih hrest ha
      exact ⟨found, List.mem_cons_of_mem b hfound, hstep⟩

/-- Lists that each step gives, together no longer than the steps allow. -/
theorem length_flatten_le_of_mapM {f : α → Except ε (List β)} {below : List (List β)} {bound : Nat}
    (h : ∀ a found, f a = .ok found → found.length ≤ bound) (hmap : as.mapM f = .ok below) :
    below.flatten.length ≤ as.length * bound := by
  induction as generalizing below with
  | nil =>
    cases hmap
    exact Nat.zero_le _
  | cons a as ih =>
    rw [List.mapM_cons] at hmap
    obtain ⟨found, hfound, hmap⟩ := bind_eq_ok.1 hmap
    obtain ⟨rest, hrest, hmap⟩ := bind_eq_ok.1 hmap
    cases hmap
    have hfirst := h a found hfound
    have hothers := ih hrest
    rw [List.flatten_cons, List.length_append, List.length_cons, Nat.succ_mul]
    omega

end ApiShapes
