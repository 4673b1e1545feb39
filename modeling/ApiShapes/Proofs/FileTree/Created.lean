import ApiShapes.Proofs.FileTree.Listing

/-!
# Directories that are created

* `FileTree.Passable` : no file stands at a location or above it;
* `walk_of_free`, `WellFormed.walk_of_blocked` : how a walk along names fails;
* `creates_createDirectories` : a directory is created exactly if no file is in its way, and nothing but
  it and the directories above it is touched;
* `writeText_run` : in a directory that is there a text is written unless a directory has its name.
-/

namespace ApiShapes

namespace FileTree

variable {tree tree' : FileTree} {loc names init : Location} {s : String} {content : Content}

/-- No file stands at the location or above it. -/
def Passable (tree : FileTree) (loc : Location) : Prop :=
  ∀ above, above <+: loc → ∀ content, tree.entryAt above ≠ some (.file content)

theorem Passable.of_prefix (h : tree.Passable loc) (hinit : init <+: loc) : tree.Passable init :=
  fun above habove => h above (habove.trans hinit)

theorem passable_concat : tree.Passable (loc ++ [s]) ↔
    tree.Passable loc ∧ ∀ content, tree.entryAt (loc ++ [s]) ≠ some (.file content) := by
  constructor
  · exact fun h => ⟨h.of_prefix (List.prefix_append loc [s]), h _ (List.prefix_refl _)⟩
  · rintro ⟨habove, hhere⟩ above hprefix
    rcases List.prefix_concat_iff.1 hprefix with rfl | hprefix
    · exact hhere
    · exact habove above hprefix

/-- Above a directory there are only directories. -/
theorem WellFormed.passable (h : tree.WellFormed) (hdir : tree.entryAt loc = some .directory) :
    tree.Passable loc := by
  rintro above ⟨below, rfl⟩ content hfile
  by_cases hbelow : below = []
  · rw [hbelow, List.append_nil, hfile] at hdir
    cases hdir
  · rw [h.entryAt_append below hbelow hdir] at hfile
    cases hfile

/-- More directories are in no way. -/
theorem AddsDirectories.passable_iff (h : AddsDirectories tree tree') :
    tree'.Passable loc ↔ tree.Passable loc :=
  forall_congr' fun above => imp_congr_right fun _ => forall_congr' fun content =>
    not_congr (h.file above content)

/-! ## Walking to a directory -/

/-- Where no file is in its way, a walk fails because nothing stands at its end. -/
theorem walk_of_free (hnames : ∀ s ∈ names, IsName s)
    (hfree : ∀ before, before <+: names → ∀ content,
      tree.entryAt (loc ++ before) ≠ some (.file content))
    (hend : tree.entryAt (loc ++ names) ≠ some .directory) :
    tree.walk loc (names ++ [""]) = .error .notFound := by
  induction names generalizing loc with
  | nil =>
    have hhere := hfree [] (List.prefix_refl [])
    rw [List.append_nil] at hhere hend
    rw [List.nil_append, walk]
    cases hentry : tree.entryAt loc with
    | none => rfl
    | some entry =>
      cases entry with
      | directory => exact absurd hentry hend
      | file content => exact absurd hentry (hhere content)
  | cons s names ih =>
    have hhere := hfree [] (List.nil_prefix)
    rw [List.append_nil] at hhere
    rw [List.cons_append, walk]
    cases hentry : tree.entryAt loc with
    | none => rfl
    | some entry =>
      cases entry with
      | file content => exact absurd hentry (hhere content)
      | directory =>
        simp only [step_of_isName (hnames s List.mem_cons_self)]
        refine ih (fun t ht => hnames t (List.mem_cons_of_mem s ht)) (fun before hbefore content => ?_) ?_
        · have hlater := hfree (s :: before) (List.cons_prefix_cons.2 ⟨rfl, hbefore⟩) content
          rwa [List.append_cons] at hlater
        · rwa [List.append_cons] at hend

/-- A file in its way ends a walk. -/
theorem WellFormed.walk_of_blocked (h : tree.WellFormed) (hnames : ∀ s ∈ names, IsName s)
    {before : Location} (hbefore : before <+: names)
    (hfile : tree.entryAt (loc ++ before) = some (.file content)) :
    tree.walk loc (names ++ [""]) = .error .notDirectory := by
  induction names generalizing loc before with
  | nil =>
    rw [List.prefix_nil.1 hbefore, List.append_nil] at hfile
    rw [List.nil_append, walk, hfile]
  | cons s names ih =>
    rw [List.cons_append, walk]
    cases before with
    | nil =>
      rw [List.append_nil] at hfile
      rw [hfile]
    | cons t before =>
      obtain ⟨rfl, hrest⟩ := List.cons_prefix_cons.1 hbefore
      rw [h.entryAt_append _ (List.cons_ne_nil t before) hfile]
      simp only [step_of_isName (hnames t List.mem_cons_self)]
      rw [List.append_cons] at hfile
      exact ih (fun u hu => hnames u (List.mem_cons_of_mem t hu)) hrest hfile

/-- A walk to a directory arrives there. -/
theorem WellFormed.walk_directory (h : tree.WellFormed) (hdir : tree.entryAt loc = some .directory) :
    tree.walk [] (loc ++ [""]) = .ok loc := by
  have hnames : tree.walk [] loc = .ok loc := @WellFormed.walk_names tree h loc [] _ hdir
  rw [walk_append hnames hdir]
  rfl

/-- What a path starts with leads nowhere. -/
theorem walk_lead {lead : List Part} (hlead : lead ∈ Path.leads) (pieces : List String) :
    tree.walk [] (lead.map Part.piece ++ pieces) = tree.walk [] pieces := by
  simp only [Path.leads, List.mem_cons, List.not_mem_nil, or_false] at hlead
  rcases hlead with rfl | rfl | rfl | rfl <;> simp [Part.piece, walk, entryAt, step]

/-! ## One directory -/

/-- The path of a location, starting in one of the ways that paths start. -/
def pathOf (lead : List Part) (names : List String) : Path := .ofParts (lead ++ names.map .name)

variable {lead : List Part}

theorem pieces_pathOf (lead : List Part) (init : Location) (s : String) :
    (pathOf lead (init ++ [s])).pieces = lead.map Part.piece ++ init ++ [s] := by
  have hsplit : lead ++ (init ++ [s]).map Part.name = lead ++ init.map Part.name ++ [.name s] := by simp
  rw [pathOf, hsplit, Path.ofParts_append_name, List.map_append, Path.map_piece_names]

theorem placeFor_concat (hlead : lead ∈ Path.leads) (hs : IsName s) :
    tree.placeFor (lead.map Part.piece ++ init ++ [s]) =
      (tree.walk [] (init ++ [""])).map (· ++ [s]) := by
  obtain ⟨hempty, hdot, hup⟩ := isName_iff.1 hs
  rw [placeFor]
  simp only [List.getLast?_concat, List.dropLast_concat]
  rw [List.append_assoc, walk_lead hlead]
  cases tree.walk [] (init ++ [""]) with
  | error e => rfl
  | ok dir => simp [bind, Except.bind, Except.map, pure, Except.pure]

theorem makeDirectory_concat (hlead : lead ∈ Path.leads) (hs : IsName s) :
    tree.makeDirectory (pathOf lead (init ++ [s])) =
      match tree.walk [] (init ++ [""]) with
      | .error e => .error e
      | .ok dir =>
        match tree.entryAt (dir ++ [s]) with
        | some _ => .error .present
        | none => .ok (tree.insert (dir ++ [s]) .directory) := by
  have hs' : s ≠ "" := (isName_iff.1 hs).1
  have htrim : ((pathOf lead (init ++ [s])).pieces.reverse.dropWhile (· == "")).reverse =
      lead.map Part.piece ++ init ++ [s] := by
    rw [pieces_pathOf]
    simp [hs']
  rw [makeDirectory, htrim, placeFor_concat hlead hs]
  cases tree.walk [] (init ++ [""]) with
  | error e => rfl
  | ok dir => rfl

/-- A new directory in one that is there. -/
theorem WellFormed.makeDirectory_within (h : tree.WellFormed) (hlead : lead ∈ Path.leads)
    (hs : IsName s) (hdir : tree.entryAt init = some .directory) :
    tree.makeDirectory (pathOf lead (init ++ [s])) =
      match tree.entryAt (init ++ [s]) with
      | some _ => .error .present
      | none => .ok (tree.insert (init ++ [s]) .directory) := by
  simp only [makeDirectory_concat hlead hs, h.walk_directory hdir]

theorem WellFormed.isDirectory_iff (h : tree.WellFormed) {path : Path} (hpath : path.IsNormal) :
    tree.isDirectory path = true ↔
      path ≠ .empty ∧ tree.entryAt path.location = some .directory := by
  constructor
  · intro hdir
    unfold isDirectory at hdir
    split at hdir
    · rename_i loc hlocate
      obtain ⟨hempty, -, hentry⟩ := (h.locate_iff hpath).1 hlocate
      exact ⟨hempty, hentry⟩
    · cases hdir
  · rintro ⟨hempty, hentry⟩
    rw [isDirectory, h.locate_directory hpath hempty hentry]

/-- The path with its last name taken off is the next one above. -/
theorem ancestors_concat (hlead : lead ∈ Path.leads) (hinit : ∀ t ∈ init, IsName t) (hs : IsName s) :
    (pathOf lead (init ++ [s])).ancestors =
      pathOf lead (init ++ [s]) :: (pathOf lead init).ancestors := by
  have hparts := Path.parts_ofNames hlead (Path.isName_of_mem_concat hinit hs)
  have hlength : (pathOf lead (init ++ [s])).parts.length = (pathOf lead init).parts.length + 1 := by
    rw [pathOf, pathOf, hparts, Path.parts_ofNames hlead hinit]
    simp [Nat.add_assoc]
  have hparent : (pathOf lead (init ++ [s])).parent = some (pathOf lead init) :=
    Path.parent_ofNames hlead hinit hs
  rw [Path.ancestors, hlength, Path.ancestors.go, hparent, Path.ancestors]

end FileTree

/-! ## All directories -/

namespace FileEdit
open FileTree

variable {tree tree' : FileTree} {lead : List Part} {names init loc : Location} {path dir : Path}
  {s text : String}

/-- The directory at the location was created, unless a file is in its way. Nothing but the directory
and those above it was touched. -/
structure Creates (outcome : Except FileError Unit × FileTree) (loc : Location) (tree : FileTree) :
    Prop where
  ok_iff : outcome.1 = .ok () ↔ tree.Passable loc
  here : outcome.1 = .ok () → outcome.2.entryAt loc = some .directory
  elsewhere : ∀ place, ¬place <+: loc → outcome.2.entryAt place = tree.entryAt place

/-- In a directory that is there only a file of its name is in a directory's way. -/
theorem creates_ensureDirectory (hwf : tree.WellFormed) (hlead : lead ∈ Path.leads)
    (hinit : ∀ t ∈ init, IsName t) (hs : IsName s) (hdir : tree.entryAt init = some .directory) :
    Creates ((ensureDirectory (pathOf lead (init ++ [s]))).run.run tree) (init ++ [s]) tree := by
  have hnil : init ++ [s] ≠ [] := by simp
  have hpath : (pathOf lead (init ++ [s])).IsNormal :=
    Path.isNormal_ofNames hlead (Path.isName_of_mem_concat hinit hs)
  have hlocation : (pathOf lead (init ++ [s])).location = init ++ [s] :=
    Path.location_ofNames hlead (Path.isName_of_mem_concat hinit hs)
  have hpassable := @passable_concat tree init s
  rw [and_iff_right (hwf.passable hdir)] at hpassable
  have hrun := ensureDirectory_run (pathOf lead (init ++ [s])) tree
  rw [hwf.makeDirectory_within hlead hs hdir] at hrun
  cases hentry : tree.entryAt (init ++ [s]) with
  | none =>
    simp only [hentry] at hrun
    rw [hrun]
    refine ⟨iff_of_true rfl (hpassable.2 (by simp [hentry])), fun _ => ?_, fun place hplace => ?_⟩
    · rw [entryAt_insert tree hnil, if_pos rfl]
    · rw [entryAt_insert tree hnil, if_neg]
      rintro rfl
      exact hplace (List.prefix_refl _)
  | some entry =>
    cases entry with
    | directory =>
      have hempty : pathOf lead (init ++ [s]) ≠ .empty := by
        intro hempty
        rw [hempty] at hlocation
        exact hnil hlocation.symm
      have hthere : tree.isDirectory (pathOf lead (init ++ [s])) = true := by
        rw [hwf.isDirectory_iff hpath, hlocation]
        exact ⟨hempty, hentry⟩
      simp only [hentry, hthere] at hrun
      rw [hrun]
      exact ⟨iff_of_true rfl (hpassable.2 (by simp [hentry])), fun _ => hentry, fun _ _ => rfl⟩
    | file content =>
      have hother : tree.isDirectory (pathOf lead (init ++ [s])) = false := by
        rw [← Bool.not_eq_true, hwf.isDirectory_iff hpath, hlocation, hentry]
        simp
      have hblocked : ¬tree.Passable (init ++ [s]) := fun h => hpassable.1 h content hentry
      simp only [hentry, hother] at hrun
      rw [hrun]
      exact ⟨iff_of_false (by simp) hblocked, fun hok => (by simp at hok), fun _ _ => rfl⟩

/-- The root is there, and so is what `..` means there. -/
theorem createDirectories_lead (hlead : lead ∈ Path.leads) (tree : FileTree) :
    (createDirectories (pathOf lead [])).run.run tree = (.ok (), tree) := by
  simp only [Path.leads, List.mem_cons, List.not_mem_nil, or_false] at hlead
  rcases hlead with rfl | rfl | rfl | rfl <;> rfl

/-- The missing directories above are created before. -/
theorem createDirectories_concat (hlead : lead ∈ Path.leads) (hinit : ∀ t ∈ init, IsName t)
    (hs : IsName s) :
    (createDirectories (pathOf lead (init ++ [s]))).run.run tree =
      match tree.makeDirectory (pathOf lead (init ++ [s])) with
      | .error .notFound =>
        (createDirectories (pathOf lead init) >>= fun _ =>
          ensureDirectory (pathOf lead (init ++ [s]))).run.run tree
      | _ => (ensureDirectory (pathOf lead (init ++ [s]))).run.run tree := by
  have hparent : (pathOf lead (init ++ [s])).parent = some (pathOf lead init) :=
    Path.parent_ofNames hlead hinit hs
  rw [createDirectories, ancestors_concat hlead hinit hs, createWithin, hparent, createDirectories]
  simp only [Option.isSome_some, if_true]
  simp only [run_bind (get : FileEdit FileTree), run_get]
  cases tree.makeDirectory (pathOf lead (init ++ [s])) with
  | ok made => rfl
  | error cause => cases cause <;> rfl

theorem creates_pathOf (hlead : lead ∈ Path.leads) (hwf : tree.WellFormed)
    (hnames : ∀ t ∈ names, IsName t) :
    Creates ((createDirectories (pathOf lead names)).run.run tree) names tree := by
  induction names using List.reverseRecOn with
  | nil =>
    rw [createDirectories_lead hlead]
    exact ⟨iff_of_true rfl (hwf.passable rfl), fun _ => rfl, fun _ _ => rfl⟩
  | append_singleton init s ih =>
    have hinit : ∀ t ∈ init, IsName t := fun t ht => hnames t (List.mem_append_left _ ht)
    have hs : IsName s := hnames s (by simp)
    rw [createDirectories_concat hlead hinit hs]
    by_cases hdir : tree.entryAt init = some .directory
    · -- nothing above is missing
      have hmake : ∀ e, tree.makeDirectory (pathOf lead (init ++ [s])) = .error e → e = .present := by
        intro e
        rw [hwf.makeDirectory_within hlead hs hdir]
        cases tree.entryAt (init ++ [s]) with
        | none => rintro ⟨⟩
        | some entry => exact fun h => (Except.error.inj h).symm
      split
      · rename_i hmissing
        cases hmake _ hmissing
      · exact creates_ensureDirectory hwf hlead hinit hs hdir
    by_cases hfree : tree.Passable init
    · -- the directories above are created, which puts no file in the way
      have hmake : tree.makeDirectory (pathOf lead (init ++ [s])) = .error .notFound := by
        rw [makeDirectory_concat hlead hs, @walk_of_free tree [] init hinit hfree hdir]
      have habove := ih hinit
      have hadds := addsDirectories_createDirectories (pathOf lead init) tree
      rw [hmake]
      simp only [run_bind]
      rcases hrun : (createDirectories (pathOf lead init)).run.run tree with ⟨result, above⟩
      rw [hrun] at habove hadds
      obtain rfl : result = .ok () := habove.ok_iff.2 hfree
      have hcreates := creates_ensureDirectory (hadds.wellFormed hwf) hlead hinit hs (habove.here rfl)
      refine ⟨hcreates.ok_iff.trans hadds.passable_iff, hcreates.here, fun place hplace => ?_⟩
      rw [hcreates.elsewhere place hplace]
      exact habove.elsewhere place fun h => hplace (h.trans (List.prefix_append init [s]))
    · -- a file above is in the way
      have hblocked : ¬tree.Passable (init ++ [s]) :=
        fun h => hfree (h.of_prefix (List.prefix_append init [s]))
      have hmake : tree.makeDirectory (pathOf lead (init ++ [s])) = .error .notDirectory := by
        rw [makeDirectory_concat hlead hs]
        unfold Passable at hfree
        push Not at hfree
        obtain ⟨before, hbefore, content, hfile⟩ := hfree
        rw [@WellFormed.walk_of_blocked _ [] _ _ hwf hinit _ hbefore hfile]
      rw [hmake]
      simp only [ensureDirectory_run, hmake]
      exact ⟨iff_of_false (by simp) hblocked, fun hok => (by cases hok), fun _ _ => rfl⟩

/-- A directory is created exactly if no file is in its way. -/
theorem creates_createDirectories (hwf : tree.WellFormed) (hpath : path.IsNormal) :
    Creates ((createDirectories path).run.run tree) path.location tree := by
  obtain ⟨lead, hlead, names, hnames, rfl⟩ := hpath.exists_names
  rw [Path.location_ofNames hlead hnames]
  exact creates_pathOf hlead hwf hnames

/-- In a directory that is there only a directory of its name is in a text's way. -/
theorem writeText_run (hwf : tree.WellFormed) (hpath : dir.IsNormal) (hs : IsName s)
    (hdir : tree.entryAt dir.location = some .directory) :
    (writeText (dir.child s) text).run.run tree =
      if tree.entryAt (dir.location ++ [s]) = some .directory then (.error .isDirectory, tree)
      else (.ok (), tree.insert (dir.location ++ [s]) (.file (.text text))) := by
  obtain ⟨lead, hlead, names, hnames, rfl⟩ := hpath.exists_names
  rw [Path.location_ofNames hlead hnames] at hdir ⊢
  rw [Path.child_ofNames hlead hnames, writeText, run_change, ← pathOf, pieces_pathOf,
    placeFor_concat hlead hs, hwf.walk_directory hdir]
  cases hentry : tree.entryAt (names ++ [s]) with
  | none => simp [Except.map, bind, Except.bind, hentry, pure, Except.pure]
  | some entry =>
    cases entry with
    | directory => simp [Except.map, bind, Except.bind, hentry, throw, throwThe, MonadExceptOf.throw]
    | file content => simp [Except.map, bind, Except.bind, hentry, pure, Except.pure]

end FileEdit

end ApiShapes
