import ApiShapes.Proofs.Text.Camel
import ApiShapes.Text.Identifier

/-!
# Identifiers in camel case

* `isIdentifier` : the text can stand as a name in the checked language;
* `isInside`, `isOutside` : code points of which all, or none, are parts of identifiers, as told by the
  bounds of the tables alone;
* `CaseMapping.KeepsParts`, `all_lowerText` : no case mapping makes a part of an identifier from anything else, or
  anything else from it;
* `all_upperCamel` : camel case of a text is made of parts of identifiers exactly if the text is, but for
  what separates its words.
-/

namespace ApiShapes.Text

/-- The text is an identifier. -/
def isIdentifier (s : String) : Bool :=
  match s.toList with
  | [] => false
  | c :: cs => isIdentifierStart c && cs.all isIdentifierPart

theorem isIdentifier_append {s t : String} (hs : isIdentifier s = true) :
    isIdentifier (s ++ t) = t.toList.all isIdentifierPart := by
  unfold isIdentifier at hs ⊢
  cases hcs : s.toList with
  | nil => simp [hcs] at hs
  | cons c cs =>
    rw [hcs, Bool.and_eq_true] at hs
    simp [hcs, hs.1, hs.2]

/-! ## Intervals of code points -/

/-- One of the ranges holds the interval. -/
def CodeRanges.covers (ranges : CodeRanges) (first last : Nat) : Bool :=
  ranges.any fun range => range.1.ble first && last.ble range.2

/-- None of the ranges meets the interval. -/
def CodeRanges.misses (ranges : CodeRanges) (first last : Nat) : Bool :=
  ranges.all fun range => last.blt range.1 || range.2.blt first

variable {ranges : CodeRanges} {first last : Nat} {c d : Char}

theorem CodeRanges.holds_of_covers (h : ranges.covers first last = true)
    (hc : first ≤ c.toNat ∧ c.toNat ≤ last) : ranges.holds c = true := by
  obtain ⟨range, hmem, hrange⟩ := List.any_eq_true.1 h
  rw [Bool.and_eq_true, Nat.ble_eq, Nat.ble_eq] at hrange
  refine List.any_eq_true.2 ⟨range, hmem, ?_⟩
  rw [Bool.and_eq_true, decide_eq_true_iff, decide_eq_true_iff]
  omega

theorem CodeRanges.holds_of_misses (h : ranges.misses first last = true)
    (hc : first ≤ c.toNat ∧ c.toNat ≤ last) : ranges.holds c = false := by
  refine List.any_eq_false.2 fun range hmem => ?_
  have hrange := List.all_eq_true.1 h range hmem
  rw [Bool.or_eq_true, Nat.blt_eq, Nat.blt_eq] at hrange
  rw [Bool.and_eq_true, decide_eq_true_iff, decide_eq_true_iff]
  omega

/-- The interval lies beyond ASCII, and all in it are characters. -/
def isPlainInterval (first last : Nat) : Bool :=
  128 ≤ first && (last < 0xD800 || 0xDFFF < first && last < 0x110000)

theorem toNat_ofNat_of_isPlainInterval {n : Nat} (h : isPlainInterval first last = true)
    (hn : first ≤ n ∧ n ≤ last) : (Char.ofNat n).toNat = n := by
  simp only [isPlainInterval, Bool.and_eq_true, Bool.or_eq_true, decide_eq_true_iff] at h
  have hvalid : n.isValidChar := by
    unfold Nat.isValidChar
    omega
  rw [Char.ofNat, dif_pos hvalid]
  rfl

/-- All in the interval are word characters, and none of them is foreign to identifiers. -/
def isInside (first last : Nat) : Bool :=
  isPlainInterval first last &&
    (alphabeticRanges.covers first last || plainWordRanges.covers first last) &&
    foreignWordRanges.misses first last

/-- All in the interval are foreign to identifiers. -/
def isOutside (first last : Nat) : Bool :=
  isPlainInterval first last && foreignWordRanges.covers first last &&
    extraPartRanges.misses first last

theorem isPlainInterval_of_isInside (h : isInside first last = true) :
    isPlainInterval first last = true := by
  rw [isInside, Bool.and_eq_true, Bool.and_eq_true] at h
  exact h.1.1

theorem isPlainInterval_of_isOutside (h : isOutside first last = true) :
    isPlainInterval first last = true := by
  rw [isOutside, Bool.and_eq_true, Bool.and_eq_true] at h
  exact h.1.1

theorem isIdentifierPart_of_isInside (h : isInside first last = true)
    (hc : first ≤ c.toNat ∧ c.toNat ≤ last) : isIdentifierPart c = true := by
  rw [isInside, Bool.and_eq_true, Bool.and_eq_true] at h
  obtain ⟨⟨hplain, hword⟩, hforeign⟩ := h
  simp only [isPlainInterval, Bool.and_eq_true, decide_eq_true_iff] at hplain
  have hascii : ¬ c.toNat < 128 := by omega
  rw [isIdentifierPart, if_neg hascii, isWordChar, if_neg hascii,
    CodeRanges.holds_of_misses hforeign hc]
  rcases Bool.or_eq_true _ _ ▸ hword with hword | hword <;>
    simp [CodeRanges.holds_of_covers hword hc]

theorem isIdentifierPart_of_isOutside (h : isOutside first last = true)
    (hc : first ≤ c.toNat ∧ c.toNat ≤ last) : isIdentifierPart c = false := by
  rw [isOutside, Bool.and_eq_true, Bool.and_eq_true] at h
  obtain ⟨⟨hplain, hforeign⟩, hextra⟩ := h
  simp only [isPlainInterval, Bool.and_eq_true, decide_eq_true_iff] at hplain
  have hascii : ¬ c.toNat < 128 := by omega
  rw [isIdentifierPart, if_neg hascii, CodeRanges.holds_of_covers hforeign hc,
    CodeRanges.holds_of_misses hextra hc]
  simp

/-! ## Case mappings -/

/-- The other case of a run's characters is a part of an identifier exactly if they are. Mostly the bounds
of the run tell; a run that reaches into ASCII, or has gaps in the table, is gone through. -/
def keepsParts (run : Nat × Nat × Nat × Int) : Bool :=
  let (first, last, step, distance) := run
  let other := fun n : Nat => (n + distance).toNat
  isInside first last && isInside (other first) (other last) ||
    isOutside first last && isOutside (other first) (other last) ||
    (List.range ((last - first) / step + 1)).all fun k =>
      isIdentifierPart (.ofNat (first + step * k)) ==
        isIdentifierPart (.ofNat (other (first + step * k)))

theorem CaseRuns.isIdentifierPart_find {runs : CaseRuns} (hruns : ∀ run ∈ runs, keepsParts run = true)
    (h : runs.find c = some d) : isIdentifierPart d = isIdentifierPart c := by
  obtain ⟨⟨first, last, step, distance⟩, hfind, rfl⟩ := Option.map_eq_some_iff.1 h
  have hheld := List.find?_some hfind
  simp only [Bool.and_eq_true, decide_eq_true_eq, beq_iff_eq] at hheld
  obtain ⟨hc, hstep⟩ := hheld
  have hother : (first + distance).toNat ≤ (c.toNat + distance).toNat ∧
      (c.toNat + distance).toNat ≤ (last + distance).toNat := by omega
  have hkeeps := hruns _ (List.mem_of_find?_eq_some hfind)
  simp only [keepsParts, Bool.or_eq_true, Bool.and_eq_true] at hkeeps
  rcases hkeeps with (⟨hhere, hthere⟩ | ⟨hhere, hthere⟩) | hall
  · rw [isIdentifierPart_of_isInside hhere hc, isIdentifierPart_of_isInside hthere]
    rwa [toNat_ofNat_of_isPlainInterval (isPlainInterval_of_isInside hthere) hother]
  · rw [isIdentifierPart_of_isOutside hhere hc, isIdentifierPart_of_isOutside hthere]
    rwa [toNat_ofNat_of_isPlainInterval (isPlainInterval_of_isOutside hthere) hother]
  · have hplace : first + step * ((c.toNat - first) / step) = c.toNat := by
      rw [Nat.mul_div_cancel' (Nat.dvd_of_mod_eq_zero hstep)]
      omega
    have hmem : (c.toNat - first) / step ∈ List.range ((last - first) / step + 1) := by
      have hle : (c.toNat - first) / step ≤ (last - first) / step :=
        Nat.div_le_div_right (by omega)
      rw [List.mem_range]
      omega
    have hsame := List.all_eq_true.1 hall _ hmem
    rw [hplace, Char.ofNat_toNat, beq_iff_eq] at hsame
    exact hsame.symm

def isPartCode (n : Nat) : Bool :=
  isInside n n || isIdentifierPart (.ofNat n)

theorem isIdentifierPart_of_isPartCode {n : Nat} (h : isPartCode n = true) :
    isIdentifierPart (.ofNat n) = true := by
  rw [isPartCode, Bool.or_eq_true] at h
  rcases h with h | h
  · have hcode := toNat_ofNat_of_isPlainInterval (isPlainInterval_of_isInside h)
      ⟨Nat.le_refl n, Nat.le_refl n⟩
    exact isIdentifierPart_of_isInside h (by omega)
  · exact h

/-- A character that is written by several in its other case is a part of identifiers, and so are these. -/
theorem CaseExpansions.isIdentifierPart_find {table : CaseExpansions} {cs : List Char}
    (htable : ∀ entry ∈ table, isPartCode entry.1 = true ∧ entry.2.all isPartCode = true)
    (h : table.find c = some cs) : isIdentifierPart c = true ∧ cs.all isIdentifierPart = true := by
  obtain ⟨codes, hlookup, rfl⟩ := Option.map_eq_some_iff.1 h
  obtain ⟨before, after, hsplit, -⟩ := List.lookup_eq_some_iff.1 hlookup
  obtain ⟨hc, hcodes⟩ := htable (c.toNat, codes) (by rw [hsplit]; simp)
  have hc := isIdentifierPart_of_isPartCode hc
  rw [Char.ofNat_toNat] at hc
  refine ⟨hc, List.all_eq_true.2 fun d hd => ?_⟩
  obtain ⟨code, hcode, rfl⟩ := List.mem_map.1 hd
  exact isIdentifierPart_of_isPartCode (List.all_eq_true.1 hcodes code hcode)

/-- The mapping makes parts of identifiers from no other characters, and nothing else from them. -/
structure CaseMapping.KeepsParts (mapping : CaseMapping) : Prop where
  ascii : ∀ n < 128, isIdentifierPart (mapping.ascii (.ofNat n)) = isIdentifierPart (.ofNat n)
  expansions : ∀ entry ∈ mapping.expansions, isPartCode entry.1 = true ∧ entry.2.all isPartCode = true
  runs : ∀ run ∈ mapping.runs, keepsParts run = true

theorem upper_keepsParts : upperMapping.KeepsParts where
  ascii := by decide +kernel
  expansions := by decide +kernel
  runs := by decide +kernel

theorem lower_keepsParts : lowerMapping.KeepsParts where
  ascii := by decide +kernel
  expansions := by decide +kernel
  runs := by decide +kernel

/-- The other case of a character is made of parts of identifiers exactly if the character is one. -/
theorem CaseMapping.KeepsParts.all_apply {mapping : CaseMapping} (h : mapping.KeepsParts) (c : Char) :
    (mapping.apply c).all isIdentifierPart = isIdentifierPart c := by
  unfold CaseMapping.apply
  split
  · rename_i hc
    have hcode := h.ascii c.toNat hc
    rw [Char.ofNat_toNat] at hcode
    rw [List.all_cons, List.all_nil, Bool.and_true, hcode]
  · split
    · rename_i cs hcs
      obtain ⟨hc, hall⟩ := CaseExpansions.isIdentifierPart_find h.expansions hcs
      rw [hc, hall]
    · rw [List.all_cons, List.all_nil, Bool.and_true]
      cases hrun : mapping.runs.find c with
      | none => rfl
      | some found => exact CaseRuns.isIdentifierPart_find h.runs hrun

theorem all_lowerText (cs : List Char) :
    (lowerText cs).all isIdentifierPart = cs.all isIdentifierPart := by
  suffices hafter : ∀ before,
      (lowerAfter before cs).all isIdentifierPart = cs.all isIdentifierPart from hafter []
  induction cs with
  | nil => exact fun _ => rfl
  | cons c cs ih =>
    intro before
    rw [lowerAfter, List.all_append, ih, List.all_cons]
    congr 1
    split
    · -- all three forms of the sigma are letters
      rename_i hsigma
      obtain rfl := beq_iff_eq.1 hsigma
      split <;> decide +kernel
    · exact lower_keepsParts.all_apply c

/-! ## Names -/

theorem all_capitalize (word : List Char) :
    (capitalize word).all isIdentifierPart = word.all isIdentifierPart := by
  cases word with
  | nil => rfl
  | cons c rest =>
    rw [capitalize, List.all_append, upperChar, upper_keepsParts.all_apply, List.all_cons]
    split
    · rw [all_lowerText]
    · rfl

/-- Camel case of a text is made of parts of identifiers exactly if the text is, but for what separates its
words. -/
theorem all_upperCamel (s : String) : (upperCamel s).toList.all isIdentifierPart =
    s.toList.all fun c => isWordBreak c || isIdentifierPart c := by
  rw [upperCamel, String.toList_ofList, List.all_flatMap]
  simp only [all_capitalize]
  rw [← List.all_flatten, flatten_pieces, List.all_filter]
  simp

end ApiShapes.Text
