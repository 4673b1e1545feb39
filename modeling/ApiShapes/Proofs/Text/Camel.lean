import ApiShapes.Proofs.Text.Pieces
import ApiShapes.Text.Camel

/-!
# What camel case is made of

* `isGap` : the blank and the line break; no case mapping makes one (`CaseMapping.SparesGaps`,
  `lowerText_gap`);
* `upperCamel_gap` : a gap in a camel-case name is a line break of the text.
-/

namespace ApiShapes.Text

/-! ## Case mappings -/

/-- The blank and the line break. -/
def isGap (c : Char) : Bool :=
  c == ' ' || c == '\n'

/-- Code points beyond the blank give no gap, and no more do those that are no characters. -/
theorem isGap_ofNat {n : Nat} (h : 32 < n) : isGap (Char.ofNat n) = false := by
  have hcode : (Char.ofNat n).toNat ≠ 32 ∧ (Char.ofNat n).toNat ≠ 10 := by
    by_cases hvalid : n.isValidChar
    · rw [Char.ofNat, dif_pos hvalid]
      change n ≠ 32 ∧ n ≠ 10
      omega
    · rw [Char.ofNat, dif_neg hvalid]
      decide
  have hne : ∀ d : Char, (Char.ofNat n).toNat ≠ d.toNat → (Char.ofNat n == d) = false := by
    intro d hd
    rw [beq_eq_false_iff_ne]
    exact fun heq => hd (congrArg Char.toNat heq)
  rw [isGap, hne ' ' hcode.1, hne '\n' hcode.2, Bool.or_false]

theorem CaseRuns.isGap_find {runs : CaseRuns} {c d : Char}
    (hruns : ∀ run ∈ runs, 32 < (run.1 : Int) + run.2.2.2) (h : runs.find c = some d) :
    isGap d = false := by
  obtain ⟨⟨first, last, step, distance⟩, hfind, rfl⟩ := Option.map_eq_some_iff.1 h
  have hlow := hruns _ (List.mem_of_find?_eq_some hfind)
  have hheld := List.find?_some hfind
  simp only [Bool.and_eq_true, decide_eq_true_eq] at hheld hlow
  exact isGap_ofNat (by omega)

theorem CaseExpansions.isGap_find {table : CaseExpansions} {c : Char} {cs : List Char}
    (htable : ∀ entry ∈ table, ∀ code ∈ entry.2, 32 < code) (h : table.find c = some cs) :
    ∀ d ∈ cs, isGap d = false := by
  obtain ⟨codes, hlookup, rfl⟩ := Option.map_eq_some_iff.1 h
  obtain ⟨before, after, hsplit, -⟩ := List.lookup_eq_some_iff.1 hlookup
  intro d hd
  obtain ⟨code, hcode, rfl⟩ := List.mem_map.1 hd
  exact isGap_ofNat (htable (c.toNat, codes) (by rw [hsplit]; simp) code hcode)

/-- The mapping makes no gap of anything else. -/
structure CaseMapping.SparesGaps (mapping : CaseMapping) : Prop where
  ascii : ∀ n < 128, isGap (mapping.ascii (.ofNat n)) = true → mapping.ascii (.ofNat n) = .ofNat n
  expansions : ∀ entry ∈ mapping.expansions, ∀ code ∈ entry.2, 32 < code
  runs : ∀ run ∈ mapping.runs, 32 < (run.1 : Int) + run.2.2.2

theorem upper_sparesGaps : upperMapping.SparesGaps where
  ascii := by decide +kernel
  expansions := by decide +kernel
  runs := by decide +kernel

theorem lower_sparesGaps : lowerMapping.SparesGaps where
  ascii := by decide +kernel
  expansions := by decide +kernel
  runs := by decide +kernel

/-- A gap in the other case of a character is the character itself. -/
theorem CaseMapping.SparesGaps.eq_of_mem {mapping : CaseMapping} (h : mapping.SparesGaps) {c d : Char}
    (hd : d ∈ mapping.apply c) (hgap : isGap d = true) : d = c := by
  unfold CaseMapping.apply at hd
  split at hd
  · rename_i hc
    obtain rfl := List.mem_singleton.1 hd
    have hcode := h.ascii c.toNat hc
    rw [Char.ofNat_toNat] at hcode
    exact hcode hgap
  · split at hd
    · rename_i cs hcs
      simp [CaseExpansions.isGap_find h.expansions hcs d hd] at hgap
    · obtain rfl := List.mem_singleton.1 hd
      cases hrun : mapping.runs.find c with
      | none => rfl
      | some found => simp [hrun, CaseRuns.isGap_find h.runs hrun] at hgap

/-- A gap in the lower case of a text is one of the text. -/
theorem lowerText_gap {cs : List Char} {d : Char} (hd : d ∈ lowerText cs) (hgap : isGap d = true) :
    d ∈ cs := by
  suffices hafter : ∀ before, d ∈ lowerAfter before cs → d ∈ cs from hafter [] hd
  clear hd
  induction cs with
  | nil => exact fun before hd => hd
  | cons c cs ih =>
    intro before hd
    rw [lowerAfter] at hd
    rcases List.mem_append.1 hd with hd | hd
    · split at hd
      · have hsigma : d = 'ς' ∨ d = 'σ' := by
          split at hd
          · exact .inl (List.mem_singleton.1 hd)
          · exact .inr (List.mem_singleton.1 hd)
        rcases hsigma with rfl | rfl <;> cases hgap
      · rw [lower_sparesGaps.eq_of_mem hd hgap]
        exact List.mem_cons_self
    · exact List.mem_cons_of_mem c (ih _ hd)

/-! ## Names -/

theorem capitalize_gap {word : List Char} {d : Char} (hd : d ∈ capitalize word)
    (hgap : isGap d = true) : d ∈ word := by
  cases word with
  | nil => exact hd
  | cons c rest =>
    rw [capitalize] at hd
    rcases List.mem_append.1 hd with hd | hd
    · rw [upper_sparesGaps.eq_of_mem hd hgap]
      exact List.mem_cons_self
    · split at hd
      · exact List.mem_cons_of_mem c (lowerText_gap hd hgap)
      · exact List.mem_cons_of_mem c hd

/-- Of the gaps of a text only line breaks come to be in its camel case, where blanks are breaks between
words. -/
theorem upperCamel_gap {s : String} {d : Char} (hd : d ∈ (upperCamel s).toList)
    (hgap : isGap d = true) : d = '\n' ∧ d ∈ s.toList := by
  rw [upperCamel, String.toList_ofList, List.mem_flatMap] at hd
  obtain ⟨word, hword, hd⟩ := hd
  obtain ⟨hmem, hbreak⟩ := mem_of_mem_pieces hword (capitalize_gap hd hgap)
  refine ⟨?_, hmem⟩
  rw [isGap, Bool.or_eq_true, beq_iff_eq, beq_iff_eq] at hgap
  rcases hgap with rfl | rfl
  · cases hbreak
  · rfl

end ApiShapes.Text
