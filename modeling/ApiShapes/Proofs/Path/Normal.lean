import ApiShapes.Path.Normal

/-!
# Paths in normal form

* `IsName s` : the piece `s` stands for the name `s`;
* `Settled done` : what normalization has taken in so far, the last part first: at most the root, at
  most one `..`, and names;
* `IsNormal p` : the path is written by settled parts (`normal_isNormal`), and so it is its own normal
  form (`IsNormal.normal_eq`);
* `IsNormal.append`, `IsNormal.child`, `IsNormal.dropExtension_append` : changes to the last piece that
  keep a path in normal form.
-/

namespace ApiShapes

/-- The piece stands for a name, which is the piece itself. -/
def IsName (s : String) : Prop := Part.ofPiece? s = some (.name s)

theorem isName_iff {s : String} : IsName s ↔ s ≠ "" ∧ s ≠ "." ∧ s ≠ ".." := by
  unfold IsName Part.ofPiece?
  split <;> simp_all

theorem isName_of_ofPiece? {piece s : String} (h : Part.ofPiece? piece = some (.name s)) :
    IsName s := by
  have hs : piece = s := by
    unfold Part.ofPiece? at h
    split at h <;> simp_all
  rwa [hs] at h

theorem piece_of_ofPiece? {piece : String} {part : Part} (h : Part.ofPiece? piece = some part) :
    part.piece = piece := by
  unfold Part.ofPiece? at h
  split at h <;> cases h <;> rfl

/-- A text of three characters or more is a name. -/
theorem isName_of_two_lt_length {s : String} (h : 2 < s.length) : IsName s := by
  rw [isName_iff]
  refine ⟨?_, ?_, ?_⟩ <;> rintro rfl <;> revert h <;> decide

namespace Path

/-- Parts that normalization has taken in, the last one first. -/
inductive Settled : List Part → Prop
  | nil : Settled []
  | root : Settled [.root]
  | up : Settled [.up]
  | rootUp : Settled [.up, .root]
  | name {s : String} {done : List Part} (hs : IsName s) (h : Settled done) :
    Settled (.name s :: done)

/-- The names among parts can be read back. -/
def Readable (ps : List Part) : Prop := ∀ s, .name s ∈ ps → IsName s

theorem Settled.step {done : List Part} (h : Settled done) {part : Part}
    (hp : ∀ s, part = .name s → IsName s) : Settled (normalStep done part) := by
  cases part with
  | root => exact .root
  | here => exact h
  | name s => exact .name (hp s rfl) h
  | up =>
    cases h with
    | nil => exact .up
    | root => exact .rootUp
    | up => exact .nil
    | rootUp => exact .root
    | name _ h => exact h

theorem Settled.foldl {ps : List Part} (hps : Readable ps) {done : List Part} (h : Settled done) :
    Settled (ps.foldl normalStep done) := by
  induction ps generalizing done with
  | nil => exact h
  | cons part rest ih =>
    exact ih (fun s hs => hps s (List.mem_cons_of_mem _ hs))
      (h.step fun s hs => hps s (hs ▸ List.mem_cons_self))

theorem readable_filterMap (pieces : List String) : Readable (pieces.filterMap Part.ofPiece?) := by
  intro s hs
  obtain ⟨piece, -, h⟩ := List.mem_filterMap.1 hs
  exact isName_of_ofPiece? h

theorem readable_parts (p : Path) : Readable p.parts := by
  intro s hs
  unfold parts at hs
  split at hs
  · exact readable_filterMap _ s ((List.mem_cons.1 hs).resolve_left Part.noConfusion)
  · exact readable_filterMap _ s ((List.mem_cons.1 hs).resolve_left Part.noConfusion)
  · exact readable_filterMap _ s hs

/-- Settled parts are left as they are. -/
theorem Settled.foldl_reverse {done : List Part} (h : Settled done) :
    done.reverse.foldl normalStep [] = done := by
  induction h with
  | nil => rfl
  | root => rfl
  | up => rfl
  | rootUp => rfl
  | name hs _ ih => rw [List.reverse_cons, List.foldl_append, ih]; rfl

/-! ## Settled parts as pieces -/

theorem ofParts_append_name (ps : List Part) (s : String) :
    ofParts (ps ++ [.name s]) = ⟨ps.map Part.piece ++ [s]⟩ := by
  unfold ofParts
  split
  · simp_all
  · rename_i h
    simpa using congrArg List.getLast? h
  · simp [Part.piece]

theorem append_ofParts_name (ps : List Part) (s e : String) :
    (ofParts (ps ++ [.name s])).append e = ofParts (ps ++ [.name (s ++ e)]) := by
  simp [ofParts_append_name, append]

theorem Settled.exists_names {done : List Part} (h : Settled done) :
    ∃ (lead : List Part) (names : List String), lead ∈ [[], [.root], [.up], [.root, .up]] ∧
      (∀ s ∈ names, IsName s) ∧ done.reverse = lead ++ names.map Part.name := by
  induction h with
  | nil => exact ⟨[], [], by simp⟩
  | root => exact ⟨[.root], [], by simp⟩
  | up => exact ⟨[.up], [], by simp⟩
  | rootUp => exact ⟨[.root, .up], [], by simp⟩
  | @name s _ hs _ ih =>
    obtain ⟨lead, names, hlead, hnames, h⟩ := ih
    refine ⟨lead, names ++ [s], hlead, ?_, by simp [h]⟩
    intro t ht
    rcases List.mem_append.1 ht with ht | ht
    · exact hnames t ht
    · rwa [List.mem_singleton.1 ht]

theorem filterMap_names {names : List String} (h : ∀ s ∈ names, IsName s) :
    names.filterMap Part.ofPiece? = names.map Part.name := by
  induction names with
  | nil => rfl
  | cons s rest ih =>
    have hs : Part.ofPiece? s = some (.name s) := h s List.mem_cons_self
    rw [List.filterMap_cons_some hs, ih fun t ht => h t (List.mem_cons_of_mem _ ht), List.map_cons]

theorem map_piece_names (names : List String) : (names.map Part.name).map Part.piece = names := by
  induction names with
  | nil => rfl
  | cons s rest ih => rw [List.map_cons, List.map_cons, ih]; rfl

theorem parts_of_isName {s : String} (hs : IsName s) (rest : List String) :
    parts ⟨s :: rest⟩ = (s :: rest).filterMap Part.ofPiece? := by
  obtain ⟨hempty, hdot, -⟩ := isName_iff.1 hs
  unfold parts
  split <;> simp_all

/-- The path that settled parts write has these parts. -/
theorem Settled.parts_ofParts {done : List Part} (h : Settled done) :
    (ofParts done.reverse).parts = done.reverse := by
  obtain ⟨lead, names, hlead, hnames, h⟩ := h.exists_names
  have hread := filterMap_names hnames
  rw [h]
  simp only [List.mem_cons, List.not_mem_nil, or_false] at hlead
  rcases hlead with rfl | rfl | rfl | rfl
  · cases names with
    | nil => rfl
    | cons s rest =>
      change parts ⟨((s :: rest).map Part.name).map Part.piece⟩ = _
      rw [map_piece_names, parts_of_isName (hnames s List.mem_cons_self), hread, List.nil_append]
  · cases names with
    | nil => rfl
    | cons s rest =>
      change parts ⟨"" :: ((s :: rest).map Part.name).map Part.piece⟩ = _
      rw [map_piece_names]
      exact congrArg (Part.root :: ·) hread
  · change parts ⟨".." :: (names.map Part.name).map Part.piece⟩ = _
    rw [map_piece_names]
    exact congrArg (Part.up :: ·) hread
  · change parts ⟨"" :: ".." :: (names.map Part.name).map Part.piece⟩ = _
    rw [map_piece_names]
    exact congrArg (Part.root :: Part.up :: ·) hread

/-! ## Normal forms -/

/-- The path is written by parts that normalization leaves. -/
def IsNormal (p : Path) : Prop := ∃ done, Settled done ∧ p = ofParts done.reverse

theorem normal_isNormal (p : Path) : p.normal.IsNormal :=
  ⟨_, Settled.nil.foldl (readable_parts p), rfl⟩

/-- A path in normal form is its own normal form. -/
theorem IsNormal.normal_eq {p : Path} (h : p.IsNormal) : p.normal = p := by
  obtain ⟨done, hd, rfl⟩ := h
  rw [normal, normalParts, hd.parts_ofParts, hd.foldl_reverse]

theorem normal_normal (p : Path) : p.normal.normal = p.normal := p.normal_isNormal.normal_eq

theorem isNormal_ofParts_name {done : List Part} (h : Settled done) {s : String} (hs : IsName s) :
    (ofParts (done.reverse ++ [.name s])).IsNormal :=
  ⟨.name s :: done, .name hs h, by rw [List.reverse_cons]⟩

/-- A longer last name. -/
theorem IsNormal.append {p : Path} (h : p.IsNormal) {e : String} (he : 2 < e.length) :
    (p.append e).IsNormal := by
  have hlong (s : String) : IsName (s ++ e) :=
    isName_of_two_lt_length (by rw [String.length_append]; omega)
  obtain ⟨done, hd, rfl⟩ := h
  cases hd with
  | nil => exact isNormal_ofParts_name .nil (hlong "")
  | root => exact isNormal_ofParts_name .root (hlong "")
  | up => exact isNormal_ofParts_name .nil (hlong "..")
  | rootUp => exact isNormal_ofParts_name .root (hlong "..")
  | name _ hd =>
    rw [List.reverse_cons, append_ofParts_name]
    exact isNormal_ofParts_name hd (hlong _)

/-- Another ending of the last name. -/
theorem IsNormal.dropExtension_append {p : Path} (h : p.IsNormal) {e : String} (he : 2 < e.length) :
    (p.dropExtension.append e).IsNormal := by
  unfold dropExtension
  split
  · rename_i s hs
    obtain ⟨done, hd, rfl⟩ := h
    rw [stem, fileName, hd.parts_ofParts] at hs
    rw [hd.parts_ofParts]
    cases hd with
    | name _ hd =>
      rw [List.reverse_cons, List.dropLast_concat, append_ofParts_name]
      exact isNormal_ofParts_name hd (isName_of_two_lt_length (by rw [String.length_append]; omega))
    | _ => simp at hs
  · exact h.append he

/-- A name below a path is one more part. -/
theorem Settled.child_ofParts {done : List Part} (h : Settled done) (s : String) :
    (ofParts done.reverse).child s = ofParts (done.reverse ++ [.name s]) := by
  have habs : isAbsolute ⟨[s]⟩ = false := by simp [isAbsolute]
  unfold child join
  rw [habs, ofParts_append_name]
  cases h with
  | nil => rfl
  | root => rfl
  | up => rfl
  | rootUp => rfl
  | @name t done ht _ =>
    have hne := (isName_iff.1 ht).1
    rw [List.reverse_cons, ofParts_append_name]
    have hempty : ((⟨done.reverse.map Part.piece ++ [t]⟩ : Path) == empty) = false := by
      rw [beq_eq_false_iff_ne]
      intro h
      have := congrArg (fun p : Path => p.pieces.getLast?) h
      exact hne (by simpa [empty] using this)
    rw [hempty]
    simp [hne, Part.piece]

/-- One more name. -/
theorem IsNormal.child {p : Path} (h : p.IsNormal) {s : String} (hs : IsName s) :
    (p.child s).IsNormal := by
  obtain ⟨done, hd, rfl⟩ := h
  rw [hd.child_ofParts]
  exact isNormal_ofParts_name hd hs

end Path

end ApiShapes
