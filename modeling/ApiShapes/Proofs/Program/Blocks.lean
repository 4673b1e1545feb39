import ApiShapes.Proofs.Program.Specifiers
import Mathlib.Data.List.Nodup

/-!
# The nodes of each file

* `Program.Block p path source` : the file's nodes stand next to one another in the program, as
  lowering its text has put them behind the nodes there were before;
* `Program.Assembled read p` : the nodes of the program are the blocks of its files, each file having
  one;
* `Program.Assembled.addFile` : loading another file keeps this so;
* `Program.Assembled.lookup_eq_some_iff` : the table of files lists the module nodes, each by its path.
-/

namespace ApiShapes.Program

variable {p p' : Program} {path : Path} {source : Option String} {id : NodeId}

/-! ## Blocks -/

/-- The file's text was lowered behind the nodes of `before`, and more nodes followed. -/
structure Block (p : Program) (path : Path) (source : Option String) where
  before : Arena
  grows : (before.addModule path (Source.bodyOf path source)).2.Grows p.arena

namespace Block

variable (b : p.Block path source)

def file : NodeId := b.before.next

def Contains (id : NodeId) : Prop :=
  b.before.size ≤ id.index ∧
    id.index < (b.before.addModule path (Source.bodyOf path source)).2.size

/-- The block stays where it is when the program grows. -/
def grown (h : p.arena.Grows p'.arena) : p'.Block path source :=
  ⟨b.before, b.grows.trans h⟩

@[simp] theorem file_grown (h : p.arena.Grows p'.arena) : (b.grown h).file = b.file := rfl

@[simp] theorem contains_grown (h : p.arena.Grows p'.arena) :
    (b.grown h).Contains id ↔ b.Contains id := Iff.rfl

theorem contains_file : b.Contains b.file :=
  ⟨Nat.le_refl _, b.before.next_lt_addModule path _⟩

theorem get?_file : ∃ statements, p.arena.get? b.file = some ⟨none, .sourceFile path statements⟩ := by
  obtain ⟨statements, h⟩ := b.before.get?_addModule path (Source.bodyOf path source)
  exact ⟨statements, b.grows.get? h⟩

theorem filePath?_file : p.filePath? b.file = some path := by
  obtain ⟨statements, h⟩ := b.get?_file
  simp [filePath?, Arena.kind?, h]

theorem specifiers_file : p.specifiers b.file = (Source.specifiers path source).eraseDups :=
  specifiers_eq b.grows

/-- The statements of the file are nodes of its block. -/
theorem contains_of_mem_statements (h : id ∈ p.arena.statements b.file) : b.Contains id := by
  have hlists := b.before.addModule_lists path (Source.bodyOf path source)
  rw [file, b.grows.statements_eq (b.before.next_lt_addModule path _)] at h
  exact hlists.of_mem h

variable {b}

theorem Contains.placed (h : b.Contains id) (hne : id ≠ b.file) :
    p.arena.Placed b.file b.before.size id := by
  have hlt : b.before.size < id.index := by
    apply Nat.lt_of_le_of_ne h.1
    intro heq
    exact hne (congrArg NodeId.mk heq.symm)
  exact (b.before.placed_addModule path _ hlt h.2).grows b.grows

theorem Contains.kind?_eq_sourceFile (h : b.Contains id) {other : Path} {statements : List NodeId}
    (hid : p.arena.kind? id = some (.sourceFile other statements)) : id = b.file ∧ other = path := by
  by_cases hne : id = b.file
  · obtain ⟨statements', hfile⟩ := b.get?_file
    simp [Arena.kind?, hne, hfile] at hid
    exact ⟨hne, hid.1.symm⟩
  · obtain ⟨parent, kind, hget, -, -, hfits⟩ := h.placed hne
    simp [Arena.kind?, hget] at hid
    rw [hid] at hfits
    exact hfits.elim

/-- The way up from a node of the block ends at the block's module. -/
theorem Contains.fileOf?_eq (h : b.Contains id) : p.arena.fileOf? id = some b.file :=
  Arena.fileOf?_addModule b.grows h.1 h.2

end Block

/-! ## Programs made of blocks -/

/-- Adding a file adds the nodes of its module and an entry for them. -/
theorem addFile_eq (p : Program) (path : Path) (source : Option String) :
    p.addFile path source = (p.arena.next, { p with
      arena := (p.arena.addModule path (Source.bodyOf path source)).2
      files := p.files ++ [(path, p.arena.next)] }) := by
  have hfst := p.arena.addModule_fst path (Source.bodyOf path source)
  unfold addFile
  unfold Source.bodyOf at hfst ⊢
  rcases h : p.arena.addModule path _ with ⟨file, arena⟩
  rw [h] at hfst
  rw [← hfst]
  simp only [h]

@[simp] theorem addFile_fst (p : Program) (path : Path) (source : Option String) :
    (p.addFile path source).1 = p.arena.next := by
  rw [addFile_eq]

@[simp] theorem addFile_arena (p : Program) (path : Path) (source : Option String) :
    (p.addFile path source).2.arena = (p.arena.addModule path (Source.bodyOf path source)).2 := by
  rw [addFile_eq]

@[simp] theorem addFile_files (p : Program) (path : Path) (source : Option String) :
    (p.addFile path source).2.files = p.files ++ [(path, p.arena.next)] := by
  rw [addFile_eq]

@[simp] theorem addFile_resolver (p : Program) (path : Path) (source : Option String) :
    (p.addFile path source).2.resolver = p.resolver := by
  rw [addFile_eq]

/-- The block of a file that was just added. -/
def lastBlock (p : Program) (path : Path) (source : Option String) :
    (p.addFile path source).2.Block path source where
  before := p.arena
  grows := by rw [addFile_arena]; exact .refl _

theorem grows_addFile (p : Program) (path : Path) (source : Option String) :
    p.arena.Grows (p.addFile path source).2.arena := by
  rw [addFile_arena]
  exact p.arena.grows_addModule path _

theorem isLoaded_iff : p.isLoaded path = true ↔ ∃ file, (path, file) ∈ p.files := by
  rw [isLoaded, List.lookup_isSome_iff]
  constructor
  · rintro ⟨⟨path', file⟩, hmem, heq⟩
    obtain rfl : path = path' := by simpa using heq
    exact ⟨file, hmem⟩
  · rintro ⟨file, hmem⟩
    exact ⟨_, hmem, by simp⟩

theorem isLoaded_addFile {other : Path} : (p.addFile path source).2.isLoaded other = true ↔
    p.isLoaded other = true ∨ other = path := by
  rw [isLoaded_iff, isLoaded_iff, addFile_files]
  simp [exists_or]

theorem isLoaded_addFile_eq_false {other : Path} :
    (p.addFile path source).2.isLoaded other = false ↔ p.isLoaded other = false ∧ other ≠ path := by
  rw [Bool.eq_false_iff, Ne, isLoaded_addFile]
  simp

/-- Where no key stands twice, looking up finds every entry. -/
theorem lookup_eq_some_iff_mem {β : Type} {entries : List (Path × β)} {value : β}
    (h : (entries.map (·.1)).Nodup) :
    entries.lookup path = some value ↔ (path, value) ∈ entries := by
  induction entries with
  | nil => simp
  | cons entry rest ih =>
    obtain ⟨key, first⟩ := entry
    obtain ⟨hkey, hrest⟩ := List.nodup_cons.1 h
    rw [List.lookup_cons, List.mem_cons]
    by_cases hpath : path = key
    · subst hpath
      have hnot : (path, value) ∉ rest := fun hmem => hkey (List.mem_map.2 ⟨_, hmem, rfl⟩)
      simp [hnot, eq_comm]
    · have hbeq : (path == key) = false := by simpa using hpath
      rw [hbeq, ih hrest]
      simp [hpath]

/-- The nodes of the program are the blocks of its files, and each file has one. -/
structure Assembled (read : Path → Option String) (p : Program) : Prop where
  nodup : (p.files.map (·.1)).Nodup
  block : ∀ path file, (path, file) ∈ p.files → ∃ b : p.Block path (read path), b.file = file
  cover : ∀ id : NodeId, id.index < p.arena.size →
    ∃ path, ∃ b : p.Block path (read path), (path, b.file) ∈ p.files ∧ b.Contains id

namespace Assembled

variable {read : Path → Option String}

theorem empty (read : Path → Option String) (roots : List Path) (resolver : ModuleResolver) :
    Assembled read { roots, resolver } where
  nodup := .nil
  block _ _ h := absurd h List.not_mem_nil
  cover _ h := absurd h (Nat.not_lt_zero _)

/-- A file that is not loaded yet gets a block of its own behind the others. -/
theorem addFile (h : p.Assembled read) (hnew : p.isLoaded path = false) :
    (p.addFile path (read path)).2.Assembled read where
  nodup := by
    have hpath : ∀ file, (path, file) ∉ p.files := by
      intro file hmem
      rw [isLoaded_iff.2 ⟨file, hmem⟩] at hnew
      cases hnew
    rw [addFile_files, List.map_append, List.nodup_append]
    refine ⟨h.nodup, by simp, ?_⟩
    rintro _ hmem _ hlast rfl
    obtain ⟨⟨q, file⟩, hfile, rfl⟩ := List.mem_map.1 hmem
    obtain rfl : q = path := by simpa using hlast
    exact hpath file hfile
  block q file hmem := by
    rw [addFile_files, List.mem_append, List.mem_singleton] at hmem
    rcases hmem with hmem | heq
    · obtain ⟨b, hb⟩ := h.block q file hmem
      refine ⟨b.grown (p.grows_addFile path _), ?_⟩
      rw [Block.file_grown]
      exact hb
    · obtain ⟨rfl, rfl⟩ := Prod.mk.inj heq
      exact ⟨p.lastBlock q _, rfl⟩
  cover id hid := by
    by_cases hold : id.index < p.arena.size
    · obtain ⟨q, b, hmem, hb⟩ := h.cover id hold
      refine ⟨q, b.grown (p.grows_addFile path _), ?_, ?_⟩
      · rw [addFile_files, Block.file_grown]
        exact List.mem_append_left _ hmem
      · rw [Block.contains_grown]
        exact hb
    · refine ⟨path, p.lastBlock path _, ?_, Nat.not_lt.1 hold, ?_⟩
      · rw [addFile_files]
        exact List.mem_append_right _ (List.mem_singleton.2 rfl)
      · rwa [addFile_arena] at hid

/-- The files are the modules' paths. -/
theorem mem_files_iff (h : p.Assembled read) : (path, id) ∈ p.files ↔ p.filePath? id = some path := by
  constructor
  · intro hmem
    obtain ⟨b, rfl⟩ := h.block path id hmem
    exact b.filePath?_file
  · intro hid
    obtain ⟨statements, hkind⟩ : ∃ statements, p.arena.kind? id = some (.sourceFile path statements) := by
      unfold filePath? at hid
      split at hid
      · next statements hkind =>
        obtain rfl := Option.some.inj hid
        exact ⟨statements, hkind⟩
      · cases hid
    obtain ⟨q, b, hmem, hb⟩ := h.cover id (Arena.lt_size_of_kind? hkind)
    obtain ⟨rfl, rfl⟩ := hb.kind?_eq_sourceFile hkind
    exact hmem

theorem file_unique (h : p.Assembled read) {file file' : NodeId} (hmem : (path, file) ∈ p.files)
    (hmem' : (path, file') ∈ p.files) : file = file' := by
  have hpair := List.inj_on_of_nodup_map h.nodup hmem hmem' rfl
  exact (Prod.mk.inj hpair).2

theorem lookup_iff_mem (h : p.Assembled read) :
    p.files.lookup path = some id ↔ (path, id) ∈ p.files :=
  lookup_eq_some_iff_mem h.nodup

/-- A path leads to the one module of that path. -/
theorem lookup_eq_some_iff (h : p.Assembled read) :
    p.files.lookup path = some id ↔ p.filePath? id = some path :=
  h.lookup_iff_mem.trans h.mem_files_iff

end Assembled

end ApiShapes.Program
