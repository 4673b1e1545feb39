import ApiShapes.Text.Split
import Mathlib.Data.List.Basic
import Mathlib.Data.String.Basic

/-!
# Pieces between separators

* `mem_of_mem_pieces`, `flatten_pieces` : the pieces hold what separates nothing, in its order;
* `pieces_append`, `pieces_of_none` : a separator ends a piece, and nothing else does;
* `dropStart_eq_some`, `dropFinish_eq_some` : a text without its beginning or end;
* `cutFirst_eq_some`, `cutFirst_eq_none` : what stands before and behind the first separator;
* `slashPieces_intercalate` : texts without slashes, written with a slash between each two, are the pieces.
-/

namespace ApiShapes.Text

section Pieces

variable {α : Type} {sep : α → Bool}

theorem mem_of_mem_pieces {cs piece : List α} {a : α}
    (hpiece : piece ∈ pieces sep cs) (ha : a ∈ piece) : a ∈ cs ∧ sep a = false := by
  induction cs generalizing piece with
  | nil =>
    rw [pieces, List.mem_singleton] at hpiece
    subst hpiece
    cases ha
  | cons c cs ih =>
    have hrest : ∀ p ∈ pieces sep cs, a ∈ p → a ∈ c :: cs ∧ sep a = false := fun p hp hap =>
      ⟨List.mem_cons_of_mem c (ih hp hap).1, (ih hp hap).2⟩
    rw [pieces] at hpiece
    by_cases hc : sep c = true
    · rw [if_pos hc] at hpiece
      rcases List.mem_cons.1 hpiece with rfl | hpiece
      · cases ha
      · exact hrest piece hpiece ha
    · rw [if_neg hc] at hpiece
      have hhere : a = c → a ∈ c :: cs ∧ sep a = false := by
        rintro rfl
        exact ⟨List.mem_cons_self, Bool.not_eq_true _ ▸ hc⟩
      cases hps : pieces sep cs with
      | nil =>
        rw [hps] at hpiece
        rw [List.mem_singleton.1 hpiece] at ha
        exact hhere (List.mem_singleton.1 ha)
      | cons p ps =>
        rw [hps] at hpiece hrest
        rcases List.mem_cons.1 hpiece with rfl | hpiece
        · rcases List.mem_cons.1 ha with ha | ha
          · exact hhere ha
          · exact hrest p List.mem_cons_self ha
        · exact hrest piece (List.mem_cons_of_mem p hpiece) ha

theorem flatten_pieces (sep : α → Bool) (cs : List α) :
    (pieces sep cs).flatten = cs.filter (!sep ·) := by
  induction cs with
  | nil => rfl
  | cons c cs ih =>
    rw [pieces]
    cases hc : sep c with
    | true => simp [hc, ih]
    | false =>
      rw [List.filter_cons_of_pos (by simp [hc]), ← ih, if_neg Bool.false_ne_true]
      cases pieces sep cs <;> simp

theorem pieces_ne_nil (sep : α → Bool) (cs : List α) : pieces sep cs ≠ [] := by
  cases cs with
  | nil => exact List.cons_ne_nil _ _
  | cons c cs =>
    rw [pieces]
    split
    · exact List.cons_ne_nil _ _
    · split <;> exact List.cons_ne_nil _ _

theorem pieces_cons_of_sep {c : α} (hc : sep c = true) (cs : List α) :
    pieces sep (c :: cs) = [] :: pieces sep cs := by
  rw [pieces, if_pos hc]

theorem pieces_cons_of_not {c : α} (hc : sep c = false) {cs piece : List α} {rest : List (List α)}
    (h : pieces sep cs = piece :: rest) : pieces sep (c :: cs) = (c :: piece) :: rest := by
  rw [pieces, if_neg (by simp [hc]), h]

/-- A separator ends the last piece of what stands in front of it. -/
theorem pieces_append {c : α} (hc : sep c = true) (cs ds : List α) :
    pieces sep (cs ++ c :: ds) = pieces sep cs ++ pieces sep ds := by
  induction cs with
  | nil => exact pieces_cons_of_sep hc ds
  | cons b cs ih =>
    cases hb : sep b with
    | true =>
      rw [List.cons_append, pieces_cons_of_sep hb, ih, pieces_cons_of_sep hb, List.cons_append]
    | false =>
      obtain ⟨piece, rest, hpieces⟩ := List.exists_cons_of_ne_nil (pieces_ne_nil sep cs)
      rw [hpieces, List.cons_append] at ih
      rw [List.cons_append, pieces_cons_of_not hb ih, pieces_cons_of_not hb hpieces, List.cons_append]

theorem pieces_of_none {cs : List α} (h : ∀ c ∈ cs, sep c = false) : pieces sep cs = [cs] := by
  induction cs with
  | nil => rfl
  | cons c cs ih =>
    have hrest := ih fun d hd => h d (List.mem_cons_of_mem c hd)
    exact pieces_cons_of_not (h c List.mem_cons_self) hrest

end Pieces

/-! ## Beginnings and ends -/

theorem dropStart_eq_some {start cs rest : List Char} :
    dropStart start cs = some rest ↔ cs = start ++ rest := by
  rw [dropStart, Option.ite_none_right_eq_some, List.isPrefixOf_iff_prefix, Option.some_inj]
  constructor
  · rintro ⟨⟨tail, rfl⟩, rfl⟩
    rw [List.drop_left]
  · rintro rfl
    exact ⟨List.prefix_append start rest, List.drop_left⟩

theorem dropStart_append (start cs : List Char) : dropStart start (start ++ cs) = some cs :=
  dropStart_eq_some.2 rfl

theorem dropFinish_eq_some {finish cs rest : List Char} :
    dropFinish finish cs = some rest ↔ cs = rest ++ finish := by
  rw [dropFinish, Option.ite_none_right_eq_some, List.isSuffixOf_iff_suffix, Option.some_inj]
  constructor
  · rintro ⟨⟨head, rfl⟩, rfl⟩
    rw [List.length_append, Nat.add_sub_cancel, List.take_left]
  · rintro rfl
    rw [List.length_append, Nat.add_sub_cancel, List.take_left]
    exact ⟨List.suffix_append rest finish, rfl⟩

/-! ## The first separator -/

theorem cutFirst_append {sep : Char} {s start finish : String} (hfirst : sep ∉ start.toList)
    (hs : s.toList = start.toList ++ sep :: finish.toList) :
    cutFirst sep s = some (start, finish) := by
  have hbefore : ∀ c ∈ start.toList, (c != sep) = true := fun c hc => by
    rw [bne_iff_ne]
    rintro rfl
    exact hfirst hc
  rw [cutFirst, hs, List.takeWhile_append_of_pos hbefore, List.dropWhile_append_of_pos hbefore]
  simp

theorem cutFirst_eq_some {sep : Char} {s start finish : String} :
    cutFirst sep s = some (start, finish) ↔
      s.toList = start.toList ++ sep :: finish.toList ∧ sep ∉ start.toList := by
  refine ⟨fun h => ?_, fun ⟨hs, hfirst⟩ => cutFirst_append hfirst hs⟩
  have hsep : sep ∈ s.toList := by
    rw [cutFirst, Option.ite_none_right_eq_some, List.contains_iff_mem] at h
    exact h.1
  obtain ⟨before, after, hsplit, hfirst⟩ := List.eq_append_cons_of_mem hsep
  have hcut : cutFirst sep s = some (String.ofList before, String.ofList after) :=
    cutFirst_append (by simpa using hfirst) (by simpa using hsplit)
  rw [hcut] at h
  cases h
  exact ⟨by simpa using hsplit, by simpa using hfirst⟩

theorem cutFirst_eq_none {sep : Char} {s : String} : cutFirst sep s = none ↔ sep ∉ s.toList := by
  rw [cutFirst]
  simp

/-! ## Slashes -/

theorem slashPieces_append (s t : String) :
    slashPieces (s ++ "/" ++ t) = slashPieces s ++ slashPieces t := by
  have hchars : (s ++ "/" ++ t).toList = s.toList ++ '/' :: t.toList := by
    simp only [String.toList_append, List.append_assoc]
    rfl
  rw [slashPieces, hchars, pieces_append rfl, List.map_append]
  rfl

theorem slashPieces_of_notMem {s : String} (h : '/' ∉ s.toList) : slashPieces s = [s] := by
  have hnone : ∀ c ∈ s.toList, (c == '/') = false := by
    rintro c hc
    rw [beq_eq_false_iff_ne]
    rintro rfl
    exact h hc
  rw [slashPieces, pieces_of_none hnone, List.map_singleton, String.ofList_toList]

theorem notMem_of_mem_slashPieces {s piece : String} (h : piece ∈ slashPieces s) : '/' ∉ piece.toList := by
  obtain ⟨cs, hcs, rfl⟩ := List.mem_map.1 h
  rw [String.toList_ofList]
  intro hmem
  cases (mem_of_mem_pieces hcs hmem).2

/-- Texts without slashes are the pieces of what they write with a slash between each two. -/
theorem slashPieces_intercalate {segments : List String} (hne : segments ≠ [])
    (h : ∀ segment ∈ segments, '/' ∉ segment.toList) :
    slashPieces ("/".intercalate segments) = segments := by
  induction segments with
  | nil => exact absurd rfl hne
  | cons segment rest ih =>
    have hsegment := slashPieces_of_notMem (h segment List.mem_cons_self)
    cases rest with
    | nil => rw [String.intercalate_singleton, hsegment]
    | cons next rest =>
      have hrest := ih (List.cons_ne_nil _ _) fun s hs => h s (List.mem_cons_of_mem segment hs)
      rw [String.intercalate_cons_cons, slashPieces_append, hsegment, hrest, List.singleton_append]

end ApiShapes.Text
