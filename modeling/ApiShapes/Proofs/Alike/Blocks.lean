import ApiShapes.Proofs.Alike.Lowering
import ApiShapes.Proofs.Alike.Names
import ApiShapes.Proofs.Program.Blocks

/-!
# Programs that share files are alike

* `Twin p p' read files` : the same node of the same file, in the blocks of two programs;
* `twin_oneToOne` : no node has two twins;
* `twin_alike` : if the specifiers in the shared files mean shared files in both programs, the programs
  are alike.
-/

namespace ApiShapes

/-- The nodes are the same one, counted within the blocks of a file that the programs share. -/
inductive Twin (p p' : Program) (read : Path → Option String) (files : Set Path) :
    NodeId → NodeId → Prop
  | intro {path : Path} (hpath : path ∈ files) (b : p.Block path (read path))
      (b' : p'.Block path (read path)) (hfile : (path, b.file) ∈ p.files)
      (hfile' : (path, b'.file) ∈ p'.files) (i : Nat) (hi : b.Contains ⟨b.before.size + i⟩)
      (hi' : b'.Contains ⟨b'.before.size + i⟩) :
      Twin p p' read files ⟨b.before.size + i⟩ ⟨b'.before.size + i⟩

variable {p p' : Program} {read read' : Path → Option String} {files : Set Path} {path : Path}

theorem Twin.symm {id id' : NodeId} (h : Twin p p' read files id id') :
    Twin p' p read files id' id := by
  obtain ⟨hpath, b, b', hfile, hfile', i, hi, hi'⟩ := h
  exact .intro hpath b' b hfile' hfile i hi' hi

/-- The files of twins have one path. -/
theorem Twin.blocks {id id' : NodeId} (h : Twin p p' read files id id') :
    ∃ path ∈ files, ∃ (b : p.Block path (read path)) (b' : p'.Block path (read path)),
      (path, b.file) ∈ p.files ∧ (path, b'.file) ∈ p'.files ∧ b.Contains id ∧ b'.Contains id' ∧
        ∃ i, id = ⟨b.before.size + i⟩ ∧ id' = ⟨b'.before.size + i⟩ := by
  obtain ⟨hpath, b, b', hfile, hfile', i, hi, hi'⟩ := h
  exact ⟨_, hpath, b, b', hfile, hfile', hi, hi', i, rfl, rfl⟩

/-- A node belongs to the block of one file, which has one block. -/
theorem block_unique {readA : Path → Option String} (hp : p.Assembled readA) {path path' : Path}
    {source source' : Option String} {b : p.Block path source} {c : p.Block path' source'}
    (hb : (path, b.file) ∈ p.files) (hc : (path', c.file) ∈ p.files) {id : NodeId}
    (hid : b.Contains id) (hid' : c.Contains id) : path = path' ∧ b.before.size = c.before.size := by
  have hfile : b.file = c.file := by
    have hup := hid.fileOf?_eq
    rw [hid'.fileOf?_eq] at hup
    exact (Option.some.inj hup).symm
  obtain rfl : path = path' := by
    have hpath := b.filePath?_file
    rw [hfile, c.filePath?_file] at hpath
    exact (Option.some.inj hpath).symm
  exact ⟨rfl, congrArg NodeId.index (hp.file_unique hb hc)⟩

/-- A node has one twin. -/
theorem Twin.eq_of_eq {readA readB : Path → Option String} (hp : p.Assembled readA)
    (hp' : p'.Assembled readB) {x x' y' : NodeId} (hx : Twin p p' read files x x')
    (hy : Twin p p' read files x y') : x' = y' := by
  obtain ⟨path, -, b, b', hb, hb', hxb, -, i, rfl, rfl⟩ := hx.blocks
  obtain ⟨path', -, c, c', hc, hc', hxc, -, j, heq, rfl⟩ := hy.blocks
  obtain ⟨rfl, hsize⟩ := block_unique hp hb hc hxb hxc
  have hsize' := congrArg NodeId.index (hp'.file_unique hb' hc')
  have hindex := congrArg NodeId.index heq
  simp only [Program.Block.file, Arena.next] at hsize' hindex
  exact congrArg NodeId.mk (by omega)

theorem twin_oneToOne {readA readB : Path → Option String} (hp : p.Assembled readA)
    (hp' : p'.Assembled readB) : OneToOne (Twin p p' read files) := by
  intro x x' y y' hx hy
  constructor
  · rintro rfl
    exact hx.eq_of_eq hp hp' hy
  · rintro rfl
    exact hx.symm.eq_of_eq hp' hp hy.symm

/-- Twins are alike, and the nodes that they point at are twins. -/
theorem Twin.nodes {id id' : NodeId} (h : Twin p p' read files id id') :
    ∃ node node', p.arena.get? id = some node ∧ p'.arena.get? id' = some node' ∧
      Node.Alike (Twin p p' read files) node node' := by
  obtain ⟨path, hpath, b, b', hfile, hfile', hid, hid', i, rfl, rfl⟩ := h.blocks
  obtain ⟨k, halike⟩ :=
    b.before.addModule_alike b'.before path (Source.bodyOf path (read path))
  have hi : i < k := by
    have hlt := hid.2
    rw [halike.size] at hlt
    simp only at hlt
    omega
  obtain ⟨node, node', hget, hget', hnode⟩ := halike.nodes _ _ ⟨i, hi, rfl, rfl⟩
  refine ⟨node, node', b.grows.get? hget, b'.grows.get? hget', hnode.mono ?_⟩
  rintro other other' ⟨j, hj, rfl, rfl⟩
  refine .intro hpath b b' hfile hfile' j ⟨Nat.le_add_right _ _, ?_⟩ ⟨Nat.le_add_right _ _, ?_⟩
  · rw [halike.size]
    exact Nat.add_lt_add_left hj _
  · rw [halike.size']
    exact Nat.add_lt_add_left hj _

/-- The way up leads to earlier nodes. -/
theorem parent_lt {source : Option String} {b : p.Block path source} {id parent : NodeId}
    (hid : b.Contains id) (hparent : p.arena.parent? id = some parent) : parent.index < id.index := by
  by_cases hne : id = b.file
  · obtain ⟨statements, hfile⟩ := b.get?_file
    rw [hne, Arena.parent?, hfile] at hparent
    cases hparent
  · obtain ⟨parent', kind, hget, hlt, -⟩ := hid.placed hne
    rw [Arena.parent?, hget] at hparent
    obtain rfl := Option.some.inj hparent
    exact hlt

/-- Specifiers that a shared file names mean shared files, or nothing, in both programs. -/
def SameModules (p p' : Program) (read : Path → Option String) (files : Set Path) : Prop :=
  ∀ path ∈ files, ∀ file file', (path, file) ∈ p.files → (path, file') ∈ p'.files →
    ∀ specifier ∈ Source.specifiers path (read path),
      Option.Rel (fun node node' => ∃ target ∈ files, (target, node) ∈ p.files ∧
          (target, node') ∈ p'.files)
        (p.moduleNamed? file specifier) (p'.moduleNamed? file' specifier)

/-- The modules of a shared file are twins. -/
theorem twin_of_mem_files (hp : p.Assembled read) (hp' : p'.Assembled read')
    (hread : ∀ path ∈ files, read' path = read path) (hpath : path ∈ files) {file file' : NodeId}
    (hfile : (path, file) ∈ p.files) (hfile' : (path, file') ∈ p'.files) :
    Twin p p' read files file file' := by
  obtain ⟨b, rfl⟩ := hp.block path file hfile
  obtain ⟨b', rfl⟩ : ∃ b' : p'.Block path (read path), b'.file = file' :=
    hread path hpath ▸ hp'.block path file' hfile'
  exact .intro hpath b b' hfile hfile' 0 b.contains_file b'.contains_file

/-- The statements of twins are twins. -/
theorem Twin.statements {file file' : NodeId} (h : Twin p p' read files file file') :
    List.Forall₂ (Twin p p' read files) (p.arena.statements file) (p'.arena.statements file') := by
  obtain ⟨node, node', hget, hget', hnode⟩ := h.nodes
  have hkind := hnode.kind
  unfold Arena.statements Arena.kind?
  rw [hget, hget']
  simp only [Option.map_some]
  generalize node.kind = kind, node'.kind = kind' at hkind ⊢
  cases hkind with
  | sourceFile _ hstatements => exact hstatements
  | _ => exact .nil

/-- Only modules have statements. -/
theorem file_of_mem_statements {source : Option String} {b : p.Block path source} {id statement : NodeId}
    (hid : b.Contains id) (hstatement : statement ∈ p.arena.statements id) : id = b.file := by
  unfold Arena.statements at hstatement
  split at hstatement
  · next hkind => exact (hid.kind?_eq_sourceFile hkind).1
  · cases hstatement

/-- What a statement of a module names is a specifier of the module. -/
theorem mem_specifiers_of_named? {id file : NodeId} {specifier : String}
    (hid : id ∈ p.arena.statements file) (hname : p.named? id = some specifier) :
    specifier ∈ p.specifiers file := by
  rw [p.specifiers_eq_filterMap, List.mem_eraseDups]
  exact List.mem_filterMap.2 ⟨id, hid, hname⟩

/-- **Programs that share files are alike**, if what the files' specifiers mean is shared too. -/
theorem twin_alike (hp : p.Assembled read) (hp' : p'.Assembled read')
    (hread : ∀ path ∈ files, read' path = read path) (hmodules : SameModules p p' read files) :
    Program.Alike (Twin p p' read files) p p' where
  oneToOne := twin_oneToOne hp hp'
  nodes := Twin.nodes
  upward h _ hparent := by
    obtain ⟨path, -, b, b', -, -, hid, -⟩ := h.blocks
    exact parent_lt hid hparent
  upward' h _ hparent := by
    obtain ⟨path, -, b, b', -, -, -, hid, -⟩ := h.blocks
    exact parent_lt hid hparent
  statements {file file'} h := by
    obtain ⟨path, hpath, b, b', hb, hb', hfile, hfile', -⟩ := h.blocks
    refine List.Forall₂.imp ?_ (forall₂_and_mem h.statements)
    rintro id id' ⟨htwin, hid, hid'⟩
    obtain rfl := file_of_mem_statements hfile hid
    obtain rfl := file_of_mem_statements hfile' hid'
    refine ⟨htwin, (b.contains_of_mem_statements hid).fileOf?_eq,
      (b'.contains_of_mem_statements hid').fileOf?_eq, fun specifier hname => ?_⟩
    have hspecifier : specifier ∈ Source.specifiers path (read path) := by
      have hmem := mem_specifiers_of_named? hid hname
      rwa [b.specifiers_file, List.mem_eraseDups] at hmem
    refine optionRel_mono ?_ (hmodules path hpath b.file b'.file hb hb' specifier hspecifier)
    rintro node node' ⟨target, htarget, hnode, hnode'⟩
    exact twin_of_mem_files hp hp' hread htarget hnode hnode'

end ApiShapes
