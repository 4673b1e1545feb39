import ApiShapes.Proofs.Glob.Matching

/-!
# Patterns as texts

* `aligned_of_ofText` : a pattern that was read has every `**` at the start or behind a slash, so its search
  is right;
* `Covers` : tokens that were read, and a text that they take;
* `readRest_append` : a text without brackets is read as tokens that take this very text, be it that there
  are stars and question marks in it;
* `matches_of_ofText` : so such a text matches itself, and `matches_below_of_ofText` : with a slash and the
  wildcards for everything behind it, it matches whatever follows.
-/

namespace ApiShapes.GlobPattern

variable {token : GlobToken} {done tokens : GlobPattern} {before : Option Char} {position steps : Nat}
  {c : Char} {cs more text : List Char} {pattern : GlobPattern}

/-! ## Where `**` stands -/

theorem aligned_reverse_cons : Aligned (token :: done).reverse ↔
    (token = .anyDirectories → ∀ previous ∈ done.head?, previous.opens = true) ∧
      Aligned done.reverse := by
  rw [Aligned, Aligned, List.isChain_reverse, List.isChain_reverse, List.isChain_cons]
  exact and_congr_left fun _ => ⟨fun h htoken previous hmem => h previous hmem htoken,
    fun h previous hmem htoken => h htoken previous hmem⟩

theorem aligned_reverse_cons_of_ne (h : token ≠ .anyDirectories) (hdone : Aligned done.reverse) :
    Aligned (token :: done).reverse :=
  aligned_reverse_cons.2 ⟨fun htoken => absurd htoken h, hdone⟩

theorem aligned_addDirectories (hopen : ∀ token ∈ done.head?, token.opens = true)
    (hdone : Aligned done.reverse) : Aligned (addDirectories done).reverse := by
  unfold addDirectories
  split
  · exact hdone
  · exact aligned_reverse_cons.2 ⟨fun _ => hopen, hdone⟩

theorem opens_addDirectories (done : GlobPattern) :
    ∀ token ∈ (addDirectories done).head?, token.opens = true := by
  unfold addDirectories
  split <;> (rintro _ ⟨⟩; rfl)

theorem ne_anyDirectories_of_classToken {after : List Char} (h : classToken cs = some (token, after)) :
    token ≠ .anyDirectories := by
  unfold classToken at h
  split at h <;>
    (obtain ⟨_, -, hpair⟩ := Option.map_eq_some_iff.1 h
     obtain ⟨rfl, -⟩ := Prod.mk.inj hpair
     exact GlobToken.noConfusion)

/-- What is read stands as it should, if it did so far and the character in front tells it. -/
theorem aligned_of_readRest (hdone : Aligned done.reverse)
    (hopen : before = none ∨ before = some '/' → ∀ token ∈ done.head?, token.opens = true)
    (h : readRest steps done before position cs = .ok pattern) : Aligned pattern := by
  induction steps generalizing done before position cs with
  | zero =>
    cases h
    exact hdone
  | succ steps ih =>
    cases cs with
    | nil =>
      cases h
      exact hdone
    | cons c rest =>
      rw [readRest] at h
      split at h
      · rename_i hany
        obtain rfl := beq_iff_eq.1 hany
        refine ih ?_ (by simp) h
        exact aligned_reverse_cons_of_ne GlobToken.noConfusion hdone
      · split at h
        · dsimp only at h
          split at h
          · refine ih ?_ (by simp) h
            exact aligned_reverse_cons_of_ne GlobToken.noConfusion hdone
          · split at h
            · rename_i hplace
              have hhead := hopen (by simpa using hplace)
              have haligned := aligned_addDirectories hhead hdone
              split at h
              · exact ih haligned (fun _ => opens_addDirectories done) h
              · exact ih haligned (fun _ => opens_addDirectories done) h
              · cases h
            · cases h
          · cases h
        · split at h
          · split at h
            · rename_i htoken
              refine ih ?_ (by simp) h
              exact aligned_reverse_cons_of_ne (ne_anyDirectories_of_classToken htoken) hdone
            · cases h
          · refine ih ?_ (fun hbefore => ?_) h
            · exact aligned_reverse_cons_of_ne GlobToken.noConfusion hdone
            · obtain rfl : c = '/' := by simpa using hbefore
              rintro _ ⟨⟩
              rfl

theorem aligned_of_ofText {s : String} (h : ofText s = .ok pattern) : Aligned pattern := by
  refine aligned_of_readRest ?_ (fun _ token hmem => ?_) h
  · exact List.IsChain.nil
  · cases hmem

/-! ## A text that its own pattern takes -/

/-- Tokens, the last one first, and a text that they take whatever follows it. -/
inductive Covers : List GlobToken → List Char → Prop where
  | nil : Covers [] []
  | one {token : GlobToken} {done : List GlobToken} {text : List Char} {c : Char}
      (h : takes c token = true) (rest : Covers done text) : Covers (token :: done) (text ++ [c])
  | sequence {done : List GlobToken} {text stretch : List Char} (h : ∀ rest, Stops false stretch rest)
      (rest : Covers done text) : Covers (.anySequence :: done) (text ++ stretch)
  | directories {done : List GlobToken} {text stretch : List Char} (h : ∀ rest, Stops true stretch rest)
      (rest : Covers done text) : Covers (.anyDirectories :: done) (text ++ stretch)

theorem Covers.append (h : Covers done text) (hmatch : Matches tokens cs) :
    Matches (done.reverse ++ tokens) (text ++ cs) := by
  induction h generalizing tokens cs with
  | nil => exact hmatch
  | one h _ ih =>
    rw [List.reverse_cons, List.append_assoc, List.append_assoc]
    exact ih (.one h hmatch)
  | sequence h _ ih =>
    rw [List.reverse_cons, List.append_assoc, List.append_assoc]
    exact ih (.sequence (h _) hmatch)
  | directories h _ ih =>
    rw [List.reverse_cons, List.append_assoc, List.append_assoc]
    exact ih (.directories (h _) hmatch)

/-- A `**` and the slash behind it are taken by a new `**`, or by the one before together with what that
one takes already. -/
theorem Covers.addDirectories (h : Covers done text) :
    Covers (addDirectories done) (text ++ ['*', '*', '/']) := by
  have hstops : ∀ stretch rest, Stops true (stretch ++ ['*', '*', '/']) rest := fun stretch rest => by
    refine .inr (.inl ?_)
    rw [List.getLast?_append_of_ne_nil _ (by simp)]
    rfl
  unfold GlobPattern.addDirectories
  split
  · cases h with
    | one h => cases h
    | directories _ rest =>
      rw [List.append_assoc]
      exact .directories (hstops _) rest
  · exact .directories (hstops []) h

/-- Stars that do not reach the end of a text, and what follows them. -/
theorem exists_stars {rest : List Char} (hend : ('*' :: rest).getLast? ≠ some '*') :
    ∃ stars c after, c ≠ '*' ∧ (∀ d ∈ stars, d = '*') ∧ rest = stars ++ c :: after ∧
      ∀ more, (rest ++ more).takeWhile (· == '*') = stars ∧
        (rest ++ more).dropWhile (· == '*') = c :: after ++ more := by
  induction rest with
  | nil => exact absurd rfl hend
  | cons c rest ih =>
    by_cases hc : c = '*'
    · subst hc
      obtain ⟨stars, c, after, hc, hstars, rfl, hmore⟩ := ih (by rwa [List.getLast?_cons_cons] at hend)
      exact ⟨'*' :: stars, c, after, hc, by simpa using hstars, rfl, fun more => by simpa using hmore more⟩
    · exact ⟨[], c, rest, hc, by simp, rfl, fun more => by simp [hc]⟩

/-- A text that does not end in a star is read for itself, whatever follows it. -/
theorem readRest_append (hsteps : (cs ++ more).length ≤ steps) (hclass : '[' ∉ cs)
    (hend : cs.getLast? ≠ some '*') (hcovers : Covers done text)
    (h : readRest steps done before position (cs ++ more) = .ok pattern) :
    ∃ steps' done' before' position', more.length ≤ steps' ∧ Covers done' (text ++ cs) ∧
      readRest steps' done' before' position' more = .ok pattern := by
  induction steps generalizing done before position cs text with
  | zero =>
    obtain ⟨rfl, rfl⟩ := List.append_eq_nil_iff.1 (List.eq_nil_of_length_eq_zero (Nat.le_zero.1 hsteps))
    exact ⟨_, _, _, _, Nat.le_refl _, by rwa [List.append_nil], h⟩
  | succ steps ih =>
    cases cs with
    | nil => exact ⟨_, _, _, _, hsteps, by rwa [List.append_nil], h⟩
    | cons c rest =>
      rw [List.mem_cons, not_or] at hclass
      -- `taken` is read at once, and the rest of the text after it
      have hgo : ∀ (taken : List Char) {after : List Char} {done' before' position'}, taken ≠ [] →
          c :: rest = taken ++ after → Covers done' (text ++ taken) →
          readRest steps done' before' position' (after ++ more) = .ok pattern →
          ∃ steps' done' before' position', more.length ≤ steps' ∧
            Covers done' (text ++ c :: rest) ∧
            readRest steps' done' before' position' more = .ok pattern := by
        intro taken after done' before' position' htaken hsplit hcovers' h'
        have hpositive : 0 < taken.length := List.length_pos_iff.2 htaken
        rw [hsplit] at hsteps hend ⊢
        rw [← List.append_assoc]
        simp only [List.length_append] at hsteps
        refine ih (by simp only [List.length_append]; omega) (fun hmem => ?_) (fun hlast => ?_) hcovers' h'
        · have hmem' : '[' ∈ c :: rest := hsplit ▸ List.mem_append_right taken hmem
          exact (List.mem_cons.1 hmem').elim hclass.1 hclass.2
        · exact hend (by rw [List.getLast?_append, hlast]; rfl)
      rw [List.cons_append, readRest] at h
      split at h
      · rename_i hany
        obtain rfl := beq_iff_eq.1 hany
        exact hgo ['?'] (by simp) rfl (.one (by decide) hcovers) h
      · split at h
        · rename_i hstar
          obtain rfl := beq_iff_eq.1 hstar
          obtain ⟨stars, c, after, hc, hstars, rfl, hmore⟩ := exists_stars hend
          simp only [(hmore more).1, (hmore more).2] at h
          match stars, h with
          | [], h =>
            exact hgo ['*'] (by simp) rfl (.sequence (fun _ => by simp [Stops]) hcovers) h
          | [d], h =>
            obtain rfl := hstars d (by simp)
            dsimp only at h
            split at h
            · split at h
              · rename_i hnone
                cases hnone
              · rename_i hslash
                cases hslash
                exact hgo ['*', '*', '/'] (by simp) rfl hcovers.addDirectories h
              · cases h
            · cases h
          | _ :: _ :: _, h => cases h
        · split at h
          · rename_i hbracket
            exact absurd (beq_iff_eq.1 hbracket).symm hclass.1
          · exact hgo [c] (by simp) rfl (.one (by simp [takes]) hcovers) h

/-- A text without brackets, if it is a pattern, matches itself. -/
theorem matches_of_ofText {s : String} (hclass : '[' ∉ s.toList) (hend : s.toList.getLast? ≠ some '*')
    (h : ofText s = .ok pattern) : Matches pattern s.toList := by
  rw [ofText, ← List.append_nil s.toList] at h
  obtain ⟨steps, done, before, position, -, hcovers, h⟩ :=
    readRest_append (by rw [List.append_nil, String.length_toList]) hclass hend Covers.nil h
  obtain rfl : done.reverse = pattern := by cases steps <;> exact Except.ok.inj h
  have hmatch := hcovers.append .nil
  rwa [List.append_nil, List.append_nil, List.nil_append] at hmatch

/-! ## Everything below a directory -/

/-- Any text is directories and a last component. -/
theorem exists_lastComponent (cs : List Char) : ∃ directories leaf, cs = directories ++ leaf ∧
    (∀ rest, Stops true directories rest) ∧ '/' ∉ leaf := by
  induction cs using List.reverseRecOn with
  | nil => exact ⟨[], [], rfl, fun _ => .inl rfl, List.not_mem_nil⟩
  | append_singleton cs c ih =>
    by_cases hc : c = '/'
    · subst hc
      have hslash : (cs ++ ['/']).getLast? = some '/' := List.getLast?_concat
      exact ⟨cs ++ ['/'], [], by simp, fun _ => .inr (.inl hslash), List.not_mem_nil⟩
    · obtain ⟨directories, leaf, rfl, hstops, hleaf⟩ := ih
      exact ⟨directories, leaf ++ [c], by simp, hstops, by simp [hleaf, Ne.symm hc]⟩

theorem matches_everything (cs : List Char) :
    Matches [.char '/', .anyDirectories, .anySequence] ('/' :: cs) := by
  obtain ⟨directories, leaf, rfl, hdirectories, hleaf⟩ := exists_lastComponent cs
  have hsequence : Matches [.anySequence] leaf := by
    rw [← List.append_nil leaf]
    exact .sequence hleaf .nil
  exact .one rfl (.directories (hdirectories leaf) hsequence)

/-- A text without brackets, if it is a pattern with the wildcards for everything behind it, is matched by
what follows it after a slash. -/
theorem matches_below_of_ofText {s : String} (hclass : '[' ∉ s.toList)
    (hend : s.toList.getLast? ≠ some '*') (h : ofText (s ++ "/**/*") = .ok pattern) (below : List Char) :
    Matches pattern (s.toList ++ '/' :: below) := by
  have hchars : (s ++ "/**/*").toList = s.toList ++ ['/', '*', '*', '/', '*'] := by
    rw [String.toList_append]
    rfl
  rw [ofText, hchars] at h
  obtain ⟨steps, done, before, position, hsteps, hcovers, h⟩ :=
    readRest_append (by rw [← hchars, String.length_toList]) hclass hend Covers.nil h
  obtain ⟨k, rfl⟩ : ∃ k, steps = k + 5 := ⟨steps - 5, by simp at hsteps; omega⟩
  have hread : pattern = done.reverse ++ [.char '/', .anyDirectories, .anySequence] := by
    simpa [readRest, addDirectories] using h.symm
  rw [hread]
  exact hcovers.append (matches_everything below)

end ApiShapes.GlobPattern
