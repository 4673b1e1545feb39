import ApiShapes.Proofs.Path.Location
import Mathlib.Data.String.Basic

/-!
# Texts of paths below a directory

* `Path.lead` : what stands in front of a path's names; with the names it makes up a path in normal form
  (`IsNormal.eq_ofParts`), and names below a path leave it as it is (`IsNormal.lead_foldl_child`);
* `Path.front` : a directory's text as the texts of all paths below it begin with it (`IsNormal.text_below`):
  the text itself, unless it is that of the root (`IsNormal.text_eq`);
* `Text.lastChars` : the characters behind the last slash of a text;
* `exists_text_of_isTypeScript` : how the text of a source file's path ends.
-/

namespace ApiShapes

/-- The characters behind the last slash of a text, the last one first. -/
def Text.lastChars (s : String) : List Char :=
  s.toList.reverse.takeWhile (· != '/')

theorem Text.mem_lastChars {s : String} {before after : List Char} {c : Char}
    (hs : s.toList = before ++ c :: after) (hc : c ≠ '/') (hafter : '/' ∉ after) : c ∈ lastChars s := by
  have hkept : ∀ d ∈ after.reverse, (d != '/') = true := by
    intro d hd
    rw [bne_iff_ne]
    rintro rfl
    exact hafter (List.mem_reverse.1 hd)
  rw [lastChars, hs, List.reverse_append, List.reverse_cons, List.append_assoc,
    List.takeWhile_append_of_pos hkept, List.singleton_append, List.takeWhile_cons_of_pos (by simpa using hc)]
  simp

namespace Path

/-- What stands in front of a path's names. -/
def lead (p : Path) : List Part :=
  p.parts.filter fun
    | .name _ => false
    | _ => true

variable {p q : Path} {lead : List Part} {names below : List String}

/-! ## In front of the names -/

theorem lead_ofNames (hlead : lead ∈ leads) (hnames : ∀ s ∈ names, IsName s) :
    (ofParts (lead ++ names.map Part.name)).lead = lead := by
  have hnone : (names.map Part.name).filter (fun
      | .name _ => false
      | _ => true) = [] := by
    rw [List.filter_eq_nil_iff]
    intro part hpart
    obtain ⟨s, -, rfl⟩ := List.mem_map.1 hpart
    exact Bool.false_ne_true
  rw [Path.lead, parts_ofNames hlead hnames, List.filter_append, hnone, List.append_nil]
  simp only [leads, List.mem_cons, List.not_mem_nil, or_false] at hlead
  rcases hlead with rfl | rfl | rfl | rfl <;> rfl

/-- A path in normal form is what stands in front of its names, and the names. -/
theorem IsNormal.eq_ofParts (h : p.IsNormal) :
    p.lead ∈ leads ∧ p = ofParts (p.lead ++ p.location.map .name) := by
  obtain ⟨lead, hlead, names, hnames, rfl⟩ := h.exists_names
  rw [lead_ofNames hlead hnames, location_ofNames hlead hnames]
  exact ⟨hlead, rfl⟩

theorem IsNormal.parts_eq (h : p.IsNormal) : p.parts = p.lead ++ p.location.map .name := by
  obtain ⟨lead, hlead, names, hnames, rfl⟩ := h.exists_names
  rw [lead_ofNames hlead hnames, location_ofNames hlead hnames, parts_ofNames hlead hnames]

theorem IsNormal.eq_of_location (hp : p.IsNormal) (hq : q.IsNormal) (hlead : q.lead = p.lead)
    (hlocation : q.location = p.location) : q = p := by
  rw [hp.eq_ofParts.2, hq.eq_ofParts.2, hlead, hlocation]

theorem IsNormal.lead_child (h : p.IsNormal) {s : String} (hs : IsName s) :
    (p.child s).lead = p.lead := by
  obtain ⟨lead, hlead, names, hnames, rfl⟩ := h.exists_names
  rw [child_ofNames hlead hnames, lead_ofNames hlead hnames,
    lead_ofNames hlead (isName_of_mem_concat hnames hs)]

/-- Names below a path come after its own. -/
theorem IsNormal.lead_foldl_child (h : p.IsNormal) (hnames : ∀ s ∈ names, IsName s) :
    (names.foldl Path.child p).lead = p.lead := by
  induction names generalizing p with
  | nil => rfl
  | cons s names ih =>
    have hs : IsName s := hnames s List.mem_cons_self
    rw [List.foldl_cons, ih (h.child hs) fun t ht => hnames t (List.mem_cons_of_mem s ht), h.lead_child hs]

/-! ## Texts -/

/-- The text with which those of all paths below the path begin, up to the slash. -/
def front (p : Path) : String :=
  "/".intercalate (p.parts.map Part.piece)

theorem IsNormal.parts_ne_nil (h : p.IsNormal) (hp : p ≠ empty) : p.parts ≠ [] := by
  intro hnil
  rw [h.parts_eq] at hnil
  exact hp (by rw [h.eq_ofParts.2, hnil]; rfl)

/-- The text of a path is the beginning of those below it. Only that of the root ends in the slash that
comes behind it. -/
theorem IsNormal.text_eq (h : p.IsNormal) (hp : p ≠ empty) :
    p.text = p.front ∨ p.text = "/" ∧ p.front = "" := by
  have hne := h.parts_ne_nil hp
  have heq : p = ofParts p.parts := by rw [h.parts_eq, ← h.eq_ofParts.2]
  generalize hps : p.parts = ps at hne heq
  rw [front, hps, heq]
  unfold ofParts
  split
  · exact absurd rfl hne
  · exact .inr (by decide)
  · exact .inl rfl

/-- The text of a path below another one begins with it. -/
theorem IsNormal.text_below (hp : p.IsNormal) (hq : q.IsNormal) (hempty : p ≠ empty)
    (hlead : q.lead = p.lead) (hlocation : q.location = p.location ++ below) (hbelow : below ≠ []) :
    q.text = p.front ++ "/" ++ "/".intercalate below := by
  obtain ⟨init, s, rfl⟩ := (List.eq_nil_or_concat' below).resolve_left hbelow
  have hparts : q = ofParts (p.parts ++ init.map .name ++ [.name s]) := by
    rw [hq.eq_ofParts.2, hlead, hlocation, hp.parts_eq]
    simp
  have hpieces : q.pieces = p.parts.map Part.piece ++ (init ++ [s]) := by
    rw [hparts, ofParts_append_name, List.map_append, map_piece_names, List.append_assoc]
  rw [text, hpieces, front]
  exact String.intercalate_append_of_ne_nil (by simpa using hp.parts_ne_nil hempty) hbelow

/-- A path ends in its last name. -/
theorem IsNormal.exists_text (h : p.IsNormal) {init : List String} {s : String}
    (hlocation : p.location = init ++ [s]) : ∃ before, p.text.toList = before ++ s.toList := by
  have hparts : p = ofParts (p.lead ++ init.map .name ++ [.name s]) := by
    rw [List.append_assoc, ← List.map_singleton, ← List.map_append, ← hlocation]
    exact h.eq_ofParts.2
  rw [hparts, ofParts_append_name, text]
  generalize (p.lead ++ init.map Part.name).map Part.piece = pieces
  by_cases hnil : pieces = []
  · exact ⟨[], by simp [hnil]⟩
  · rw [String.intercalate_append_of_ne_nil hnil (List.cons_ne_nil _ _), String.intercalate_singleton,
      String.toList_append]
    exact ⟨_, rfl⟩

/-- Unless it is the root's, a path's text does not end in a slash. -/
theorem IsNormal.getLast?_front (h : p.IsNormal) (hslash : ∀ s ∈ p.location, '/' ∉ s.toList)
    (hempty : p ≠ empty) (htext : p.text = p.front) : p.front.toList.getLast? ≠ some '/' := by
  rw [← htext]
  rcases List.eq_nil_or_concat' p.location with hnil | ⟨init, s, hlocation⟩
  · obtain ⟨hlead, heq⟩ := h.eq_ofParts
    rw [hnil, List.map_nil, List.append_nil] at heq
    rw [heq] at htext hempty ⊢
    simp only [leads, List.mem_cons, List.not_mem_nil, or_false] at hlead
    rcases hlead with hlead | hlead | hlead | hlead <;> rw [hlead] at htext hempty ⊢
    · exact absurd rfl hempty
    · exact absurd htext (by decide)
    · decide
    · decide
  · have hs : s ∈ p.location := by simp [hlocation]
    obtain ⟨before, hbefore⟩ := h.exists_text hlocation
    have hne : s.toList ≠ [] := by simpa using (isName_iff.1 (isName_of_mem_location hs)).1
    rw [hbefore, List.getLast?_append_of_ne_nil _ hne]
    exact fun hlast => hslash s hs (List.mem_of_getLast? hlast)

/-! ## Source files -/

theorem exists_of_splitName {s extension : String} (h : (splitName s).2 = some extension) :
    ∃ before, s.toList = before ++ '.' :: extension.toList := by
  have hsplit := List.takeWhile_append_dropWhile (p := (· != '.')) (l := s.toList.reverse)
  unfold splitName at h
  dsimp only at h
  split at h
  · rename_i c before hdrop
    split at h
    · cases h
    · cases h
      rw [hdrop, ← List.reverse_inj, List.reverse_reverse, List.reverse_append, List.reverse_cons,
        List.append_assoc] at hsplit
      exact ⟨_, by rw [String.toList_ofList]; exact hsplit.symm⟩
  · cases h

theorem exists_location_of_fileName {s : String} (h : p.fileName = some s) :
    ∃ init, p.location = init ++ [s] := by
  unfold fileName at h
  split at h
  · rename_i hlast
    cases h
    obtain ⟨init, hparts⟩ := List.getLast?_eq_some_iff.1 hlast
    exact ⟨_, by rw [location, hparts, List.filterMap_append]; rfl⟩
  · cases h

/-- The text of a source file's path ends in a dot and letters. -/
theorem exists_text_of_isTypeScript (h : p.IsNormal) (hsource : p.isTypeScript = true) :
    ∃ before extension, p.text.toList = before ++ '.' :: extension ∧
      (extension = ['t', 's'] ∨ extension = ['t', 's', 'x']) := by
  obtain ⟨extension, hextension, hcases⟩ :
      ∃ extension, p.extension = some extension ∧ (extension = "ts" ∨ extension = "tsx") := by
    rw [isTypeScript, Bool.or_eq_true, beq_iff_eq, beq_iff_eq] at hsource
    exact hsource.elim (fun h => ⟨_, h, .inl rfl⟩) fun h => ⟨_, h, .inr rfl⟩
  obtain ⟨s, hs, hsplit⟩ := Option.bind_eq_some_iff.1 hextension
  obtain ⟨init, hlocation⟩ := exists_location_of_fileName hs
  obtain ⟨before, hbefore⟩ := h.exists_text hlocation
  obtain ⟨stem, hstem⟩ := exists_of_splitName hsplit
  refine ⟨before ++ stem, extension.toList, by rw [hbefore, hstem, List.append_assoc], ?_⟩
  rcases hcases with rfl | rfl
  · exact .inl rfl
  · exact .inr rfl

end Path

end ApiShapes
