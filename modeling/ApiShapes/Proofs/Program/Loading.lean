import ApiShapes.Proofs.Module.Resolver
import ApiShapes.Proofs.Program.Blocks
import Mathlib.Logic.Function.Iterate
import Mathlib.Order.Bounds.Defs

/-!
# Loading as a worklist

* `Loading.step` : one file is taken from the worklist; it is loaded unless it already is, and the
  files it leads to are put in front of the rest;
* `Loads` : from the roots the worklist runs empty;
* `Loading.Inv` : what every step preserves;
* `loads_load` : the worklist of `Program.load` runs empty;
* `Loads.isLeast` : the loaded files are the roots and what they lead to.
-/

namespace ApiShapes

/-- What is loaded, and what is to be loaded next. -/
structure Loading where
  program : Program
  pending : List Path

namespace Loading

def start (roots : List Path) (resolver : ModuleResolver) : Loading :=
  { program := { roots, resolver }, pending := roots }

/-- Takes the next file, where `exist` says which files there are. -/
def step (exist : Path → Bool) (read : Path → Option String) (l : Loading) : Loading :=
  match l.pending with
  | [] => l
  | path :: rest =>
    if l.program.isLoaded path then { l with pending := rest }
    else
      let (file, program) := l.program.addFile path (read path)
      let targets := (program.specifiers file).filterMap fun specifier =>
        program.resolver.resolve path specifier exist
      { program, pending := (targets.filter fun target => !program.isLoaded target).reverse ++ rest }

end Loading

/-- The worklist runs empty and leaves the program `p`. -/
def Loads (exist : Path → Bool) (read : Path → Option String) (roots : List Path)
    (resolver : ModuleResolver) (p : Program) : Prop :=
  ∃ steps, (Loading.step exist read)^[steps] (.start roots resolver) = { program := p, pending := [] }

/-- A specifier of the file resolves to `target`. -/
def Leads (resolver : ModuleResolver) (exist : Path → Bool) (read : Path → Option String)
    (path target : Path) : Prop :=
  ∃ specifier ∈ Source.specifiers path (read path), resolver.resolve path specifier exist = some target

namespace Loading

variable {exist : Path → Bool} {read : Path → Option String} {l : Loading}

/-! ## One step -/

/-- The files that a file leads to, less those that are loaded. -/
def fresh (exist : Path → Bool) (read : Path → Option String) (p : Program) (path : Path) :
    List Path :=
  let program := (p.addFile path (read path)).2
  let targets := (program.specifiers p.arena.next).filterMap fun specifier =>
    p.resolver.resolve path specifier exist
  (targets.filter fun target => !program.isLoaded target).reverse

theorem step_nil (p : Program) : step exist read ⟨p, []⟩ = ⟨p, []⟩ := rfl

theorem step_loaded {p : Program} {path : Path} {rest : List Path} (h : p.isLoaded path = true) :
    step exist read ⟨p, path :: rest⟩ = ⟨p, rest⟩ := by
  simp [step, h]

theorem step_new {p : Program} {path : Path} {rest : List Path} (h : p.isLoaded path = false) :
    step exist read ⟨p, path :: rest⟩ =
      ⟨(p.addFile path (read path)).2, fresh exist read p path ++ rest⟩ := by
  simp [step, fresh, h]

theorem mem_fresh {p : Program} {path target : Path} :
    target ∈ fresh exist read p path ↔ Leads p.resolver exist read path target ∧
      (p.addFile path (read path)).2.isLoaded target = false := by
  have hspec : (p.addFile path (read path)).2.specifiers p.arena.next =
      (Source.specifiers path (read path)).eraseDups := (p.lastBlock path (read path)).specifiers_file
  simp [fresh, Leads, hspec]

/-! ## What every step preserves -/

def Known (l : Loading) (path : Path) : Prop :=
  l.program.isLoaded path = true ∨ path ∈ l.pending

theorem Known.isLoaded {p : Program} {path : Path} (h : Known ⟨p, []⟩ path) :
    p.isLoaded path = true :=
  h.resolve_right List.not_mem_nil

/-- The set holds the roots and what its files lead to. -/
structure Closed (resolver : ModuleResolver) (exist : Path → Bool) (read : Path → Option String)
    (roots : List Path) (files : Set Path) : Prop where
  roots_mem : ∀ path ∈ roots, path ∈ files
  leads_mem : ∀ path ∈ files, ∀ target, Leads resolver exist read path target → target ∈ files

/-- Between two steps all nodes belong to loaded files, and exactly the files that the roots lead to
are loaded or will be, as far as the loaded ones tell. -/
structure Inv (exist : Path → Bool) (read : Path → Option String) (roots : List Path)
    (resolver : ModuleResolver) (l : Loading) : Prop where
  resolver_eq : l.program.resolver = resolver
  assembled : l.program.Assembled read
  roots_known : ∀ path ∈ roots, l.Known path
  leads_known : ∀ path, l.program.isLoaded path = true → ∀ target,
    Leads resolver exist read path target → l.Known target
  known_mem : ∀ files, Closed resolver exist read roots files → ∀ path, l.Known path → path ∈ files

variable {roots : List Path} {resolver : ModuleResolver}

theorem inv_start : Inv exist read roots resolver (start roots resolver) where
  resolver_eq := rfl
  assembled := .empty read roots resolver
  roots_known _ h := Or.inr h
  leads_known _ h := by cases h
  known_mem _ hclosed _ h := h.elim (by intro h; cases h) (hclosed.roots_mem _)

/-- A file that is loaded already only leaves the worklist. -/
theorem Inv.skip {p : Program} {path : Path} {rest : List Path}
    (h : Inv exist read roots resolver ⟨p, path :: rest⟩) (hpath : p.isLoaded path = true) :
    Inv exist read roots resolver ⟨p, rest⟩ := by
  have hknown : ∀ q, Known ⟨p, path :: rest⟩ q → Known ⟨p, rest⟩ q := by
    rintro q (hq | hq)
    · exact Or.inl hq
    · rcases List.mem_cons.1 hq with rfl | hq
      · exact Or.inl hpath
      · exact Or.inr hq
  refine ⟨h.resolver_eq, h.assembled, fun q hq => hknown q (h.roots_known q hq),
    fun q hq target hlead => hknown target (h.leads_known q hq target hlead), ?_⟩
  rintro files hclosed q (hq | hq)
  · exact h.known_mem files hclosed q (Or.inl hq)
  · exact h.known_mem files hclosed q (Or.inr (List.mem_cons_of_mem _ hq))

/-- A file that is not loaded yet goes from the worklist to the program, and what it leads to
becomes known. -/
theorem Inv.addFile {p : Program} {path : Path} {rest : List Path}
    (h : Inv exist read roots resolver ⟨p, path :: rest⟩) (hpath : p.isLoaded path = false) :
    Inv exist read roots resolver
      ⟨(p.addFile path (read path)).2, fresh exist read p path ++ rest⟩ := by
  have hresolver : p.resolver = resolver := h.resolver_eq
  have hknown : ∀ q, Known ⟨p, path :: rest⟩ q →
      Known ⟨(p.addFile path (read path)).2, fresh exist read p path ++ rest⟩ q := by
    rintro q (hq | hq)
    · exact Or.inl (Program.isLoaded_addFile.2 (Or.inl hq))
    · rcases List.mem_cons.1 hq with rfl | hq
      · exact Or.inl (Program.isLoaded_addFile.2 (Or.inr rfl))
      · exact Or.inr (List.mem_append_right _ hq)
  refine ⟨?_, h.assembled.addFile hpath, fun q hq => hknown q (h.roots_known q hq), ?_, ?_⟩
  · simpa using hresolver
  · intro q hq target hlead
    rcases Program.isLoaded_addFile.1 hq with hq | rfl
    · exact hknown target (h.leads_known q hq target hlead)
    · by_cases htarget : (p.addFile q (read q)).2.isLoaded target = true
      · exact Or.inl htarget
      · refine Or.inr (List.mem_append_left _ (mem_fresh.2 ⟨hresolver ▸ hlead, ?_⟩))
        simpa using htarget
  · intro files hclosed
    have hmem : ∀ q, Known ⟨p, path :: rest⟩ q → q ∈ files := h.known_mem files hclosed
    have hhere : path ∈ files := hmem path (Or.inr List.mem_cons_self)
    rintro q (hq | hq)
    · rcases Program.isLoaded_addFile.1 hq with hq | rfl
      · exact hmem q (Or.inl hq)
      · exact hhere
    · rcases List.mem_append.1 hq with hq | hq
      · exact hclosed.leads_mem path hhere q (hresolver ▸ (mem_fresh.1 hq).1)
      · exact hmem q (Or.inr (List.mem_cons_of_mem _ hq))

theorem Inv.step (h : Inv exist read roots resolver l) :
    Inv exist read roots resolver (l.step exist read) := by
  obtain ⟨p, pending⟩ := l
  cases pending with
  | nil => exact h
  | cons path rest =>
    cases hpath : p.isLoaded path with
    | true => rw [step_loaded hpath]; exact h.skip hpath
    | false => rw [step_new hpath]; exact h.addFile hpath

theorem inv_iterate (exist : Path → Bool) (read : Path → Option String) (roots : List Path)
    (resolver : ModuleResolver) (steps : Nat) :
    Inv exist read roots resolver ((step exist read)^[steps] (start roots resolver)) := by
  induction steps with
  | zero => exact inv_start
  | succ steps ih =>
    rw [Function.iterate_succ_apply']
    exact ih.step

/-! ## Loading runs the worklist -/

/-- As long as the files that are not seen are those that are not loaded, what a file leads to is
the same to both. -/
theorem fresh_eq_filter {p : Program} {path : Path} {all available unseen : List Path}
    (havailable : ∀ path ∈ available, path ∈ all)
    (hunseen : ∀ path, path ∈ unseen ↔ path ∈ all ∧ p.isLoaded path = false) :
    fresh available.contains read p path =
      ((((p.addFile path (read path)).2.specifiers p.arena.next).filterMap fun specifier =>
        p.resolver.resolve path specifier available.contains).filter
          (without path unseen).contains).reverse := by
  refine congrArg List.reverse (List.filter_congr fun target htarget => ?_)
  obtain ⟨specifier, -, hresolve⟩ := List.mem_filterMap.1 htarget
  have hall : target ∈ all := by
    apply havailable target
    simpa using (ModuleResolver.resolve_eq_some hresolve).2
  rw [Bool.eq_iff_iff, Bool.not_eq_true', Program.isLoaded_addFile_eq_false]
  simp [mem_without, hunseen, hall]

/-- The files that are not seen become fewer, so the worklist runs empty. -/
theorem exists_iterate_eq_loadAll (all : List Path) {available : List Path}
    (havailable : ∀ path ∈ available, path ∈ all) (p : Program) (unseen pending : List Path)
    (hunseen : ∀ path, path ∈ unseen ↔ path ∈ all ∧ p.isLoaded path = false)
    (hpending : ∀ path ∈ pending, path ∈ all) :
    ∃ steps, (step available.contains read)^[steps] ⟨p, pending⟩ =
      ⟨p.loadAll available read unseen pending, []⟩ := by
  induction p, unseen, pending using Program.loadAll.induct available read with
  | case1 p unseen => exact ⟨0, by rw [Program.loadAll]; rfl⟩
  | case2 p unseen path rest hpath file p' hadd targets unseen' ih =>
    have hnew : p.isLoaded path = false := ((hunseen path).1 hpath).2
    obtain rfl : p' = (p.addFile path (read path)).2 := by rw [hadd]
    obtain rfl : file = p.arena.next := by rw [← p.addFile_fst path (read path), hadd]
    have hfresh : fresh available.contains read p path =
        (targets.filter unseen'.contains).reverse := by
      simpa [targets] using fresh_eq_filter havailable hunseen
    have hunseen' : ∀ q, q ∈ unseen' ↔
        q ∈ all ∧ (p.addFile path (read path)).2.isLoaded q = false := by
      intro q
      rw [mem_without, hunseen, Program.isLoaded_addFile_eq_false, and_assoc]
    have hpending' : ∀ q ∈ (targets.filter unseen'.contains).reverse ++ rest, q ∈ all := by
      intro q hq
      rcases List.mem_append.1 hq with hq | hq
      · have hmem := (List.mem_filter.1 (List.mem_reverse.1 hq)).2
        exact ((hunseen' q).1 (by simpa using hmem)).1
      · exact hpending q (List.mem_cons_of_mem _ hq)
    obtain ⟨steps, hsteps⟩ := ih hunseen' hpending'
    refine ⟨steps + 1, ?_⟩
    rw [Function.iterate_succ_apply, step_new hnew, hfresh, hsteps, Program.loadAll]
    simp [hpath, targets, unseen']
  | case3 p unseen path rest hpath ih =>
    have hloaded : p.isLoaded path = true := by
      by_contra hnew
      exact hpath ((hunseen path).2 ⟨hpending path List.mem_cons_self, by simpa using hnew⟩)
    obtain ⟨steps, hsteps⟩ := ih hunseen fun q hq => hpending q (List.mem_cons_of_mem _ hq)
    refine ⟨steps + 1, ?_⟩
    rw [Function.iterate_succ_apply, step_loaded hloaded, hsteps]
    conv_rhs => rw [Program.loadAll]
    rw [dif_neg hpath]

end Loading

open Loading

variable {exist : Path → Bool} {read : Path → Option String} {roots : List Path}
  {resolver : ModuleResolver} {p : Program}

/-- **Loading ends**: of finitely many available files the worklist runs empty. -/
theorem loads_load (roots : List Path) (resolver : ModuleResolver) (available : List Path)
    (read : Path → Option String) :
    Loads available.contains read (roots.map Path.normal) resolver
      (Program.load roots resolver available read) := by
  refine exists_iterate_eq_loadAll (roots.map Path.normal ++ available)
    (fun path h => List.mem_append_right _ h) _ _ _ (fun path => ?_)
    fun path h => List.mem_append_left _ h
  simp [Program.isLoaded]

/-! ## Programs that are loaded -/

namespace Loads

theorem inv (h : Loads exist read roots resolver p) : Inv exist read roots resolver ⟨p, []⟩ := by
  obtain ⟨steps, hsteps⟩ := h
  exact hsteps ▸ inv_iterate exist read roots resolver steps

/-- The loaded files are the roots and what they lead to. -/
theorem isLeast (h : Loads exist read roots resolver p) :
    IsLeast {files | Closed resolver exist read roots files} {path | p.isLoaded path = true} := by
  refine ⟨⟨fun path hpath => ?_, fun path hpath target hlead => ?_⟩, fun files hclosed path hpath => ?_⟩
  · exact (h.inv.roots_known path hpath).isLoaded
  · exact (h.inv.leads_known path hpath target hlead).isLoaded
  · exact h.inv.known_mem files hclosed path (Or.inl hpath)

/-- The files that the roots lead to exist if the roots do. -/
theorem exist_of_isLoaded (h : Loads exist read roots resolver p)
    (hroots : ∀ path ∈ roots, exist path = true) {path : Path} (hpath : p.isLoaded path = true) :
    exist path = true := by
  have hclosed : Closed resolver exist read roots {path | exist path = true} :=
    ⟨hroots, fun _ _ _ ⟨_, _, hresolve⟩ => (ModuleResolver.resolve_eq_some hresolve).2⟩
  exact h.isLeast.2 hclosed hpath

theorem isNormal_of_isLoaded (h : Loads exist read roots resolver p)
    (hroots : ∀ path ∈ roots, path.IsNormal) {path : Path} (hpath : p.isLoaded path = true) :
    path.IsNormal := by
  have hclosed : Closed resolver exist read roots {path | path.IsNormal} :=
    ⟨hroots, fun _ _ _ ⟨_, _, hresolve⟩ => ModuleResolver.isNormal_of_resolve hresolve⟩
  exact h.isLeast.2 hclosed hpath

/-- An empty worklist stays empty, so that it leaves only one program. -/
theorem eq_of_iterate (h : Loads exist read roots resolver p) {steps : Nat} {l : Loading}
    (hsteps : (step exist read)^[steps] (start roots resolver) = l) (hl : l.pending = []) :
    l.program = p := by
  obtain ⟨p', pending⟩ := l
  obtain rfl : pending = [] := hl
  obtain ⟨steps', hsteps'⟩ := h
  rcases Nat.le_total steps steps' with hle | hle
  · obtain ⟨more, rfl⟩ := Nat.exists_eq_add_of_le' hle
    rw [Function.iterate_add_apply, hsteps, Function.iterate_fixed (step_nil p')] at hsteps'
    exact congrArg Loading.program hsteps'
  · obtain ⟨more, rfl⟩ := Nat.exists_eq_add_of_le' hle
    rw [Function.iterate_add_apply, hsteps', Function.iterate_fixed (step_nil p)] at hsteps
    exact (congrArg Loading.program hsteps).symm

end Loads

/-- **Loading gives the import closure of the roots.** The worklist runs empty; the files that are
loaded are the least set with the roots and what their specifiers resolve to; and each of them is
found under its path, which is in normal form, as the only module of that path. -/
theorem Program.load_exact (roots : List Path) (resolver : ModuleResolver) (available : List Path)
    (read : Path → Option String) :
    let p := Program.load roots resolver available read
    Loads available.contains read (roots.map Path.normal) resolver p ∧
      IsLeast {files | Closed resolver available.contains read (roots.map Path.normal) files}
        {path | p.isLoaded path = true} ∧
      (p.files.map (·.1)).Nodup ∧
      (∀ path, p.isLoaded path = true → path.normal = path ∧
        ∃ file, p.fileNode? path = some file ∧ ∀ id, p.filePath? id = some path ↔ id = file) ∧
      ∀ id path, p.filePath? id = some path → p.isLoaded path = true := by
  intro p
  have h : Loads available.contains read (roots.map Path.normal) resolver p :=
    loads_load roots resolver available read
  have hassembled : p.Assembled read := h.inv.assembled
  refine ⟨h, h.isLeast, hassembled.nodup, fun path hpath => ?_, fun id path hid => ?_⟩
  · have hnormal : path.IsNormal := by
      refine h.isNormal_of_isLoaded (fun root hroot => ?_) hpath
      obtain ⟨written, -, rfl⟩ := List.mem_map.1 hroot
      exact Path.normal_isNormal written
    obtain ⟨file, hfile⟩ := Option.isSome_iff_exists.1 hpath
    refine ⟨hnormal.normal_eq, file, by rwa [fileNode?, hnormal.normal_eq], fun id => ?_⟩
    rw [← hassembled.lookup_eq_some_iff, hfile]
    simp [eq_comm]
  · exact isLoaded_iff.2 ⟨id, hassembled.mem_files_iff.2 hid⟩

end ApiShapes
