import ApiShapes.Proofs.Arena.WellFormed
import ApiShapes.Proofs.Program.Symbols
import ApiShapes.Source.Module
import Mathlib.Data.List.Lex

/-!
# What a module exports

* `Program.along` : where a path of whole exports leads, each step of it being one of those that the
  module lists;
* `Program.FirstAlong` : the declaration at the end of the first path that has one, where a path comes
  before its extensions and before those that branch off to the right;
* `Program.ExportChain` : a chain of exports that ends at a declaration;
* `Program.findExport_first` : the search for an export finds the first declaration along whole exports,
  and whatever it finds stands at the end of a chain.
-/

namespace ApiShapes

/-- The name that a binding takes from its module, unless it stands for the whole of it. -/
def Imported.wanted? : Imported → Option String
  | .named name => some name
  | .default => some "default"
  | .namespace => none

namespace Program

section

variable (p : Program)

def stars (file : NodeId) : List NodeId :=
  (p.arena.statements file).filterMap fun id =>
    match p.arena.kind? id with
    | some (.exportAll specifier) => p.moduleNamed? file specifier
    | _ => none

/-- Where a path of whole exports leads. Each step says which one of them to take. -/
def along : List Nat → NodeId → Option NodeId
  | [], file => some file
  | i :: path, file => (p.stars file)[i]?.bind (along path)

/-- The first declaration of a name in a module that is exported where it stands. -/
def ownExport (space : Space) (name : String) (file : NodeId) : Option NodeId :=
  (p.arena.statements file).find? fun id =>
    ((p.arena.kind? id).map fun kind => kind.isExported && kind.declares name space).getD false

/-- The module gives something the name in an export list, be it from another module. -/
def listsExport (name : String) (file : NodeId) : Bool :=
  (p.arena.statements file).any fun id =>
    match p.arena.kind? id with
    | some (.reExport _ _ exported) => exported == name
    | _ => false

/-- Among all paths of fewer than `hops` whole exports, the first one to end in a module that declares the
name and exports it leads to the declaration `id`. -/
def FirstAlong (space : Space) (hops : Nat) (file : NodeId) (name : String) (id : NodeId) : Prop :=
  ∃ path target, path.length < hops ∧ p.along path file = some target ∧
    p.ownExport space name target = some id ∧
      ∀ earlier < path, earlier.length < hops → ∀ other, p.along earlier file = some other →
        p.ownExport space name other = none

/-- The binding takes what its module `target` exports as `wanted`. -/
def ImportsFrom (binding target : NodeId) (wanted : String) : Prop :=
  ∃ localName imported file specifier, p.arena.kind? binding = some (.binding localName imported) ∧
    imported.wanted? = some wanted ∧ p.arena.fileOf? binding = some file ∧
      p.importOf? binding = some specifier ∧ p.moduleNamed? file specifier = some target

/-- A chain of exports that leads from a module and a name to a node, in so many steps from module to
module. -/
inductive ExportChain (p : Program) (space : Space) : Nat → NodeId → String → NodeId → Prop
  /-- a declaration that is exported where it stands -/
  | declared {file id : NodeId} {kind : NodeKind} {name : String}
      (hid : id ∈ p.arena.statements file) (hkind : p.arena.kind? id = some kind)
      (hexported : kind.isExported = true) (hdeclares : kind.declares name space = true) :
      ExportChain p space 0 file name id
  | default {file id : NodeId} {value : Expr} (hid : id ∈ p.arena.statements file)
      (hkind : p.arena.kind? id = some (.exportDefault value)) :
      ExportChain p space 0 file "default" id
  /-- an export from a module outside the program -/
  | foreign {file id : NodeId} {specifier localName name : String}
      (hid : id ∈ p.arena.statements file)
      (hkind : p.arena.kind? id = some (.reExport (some specifier) localName name))
      (hmodule : p.moduleNamed? file specifier = none) : ExportChain p space 0 file name id
  /-- an export from another module -/
  | reExport {file id target found : NodeId} {specifier localName name : String} {hops : Nat}
      (hid : id ∈ p.arena.statements file)
      (hkind : p.arena.kind? id = some (.reExport (some specifier) localName name))
      (hmodule : p.moduleNamed? file specifier = some target)
      (h : ExportChain p space hops target localName found) :
      ExportChain p space (hops + 1) file name found
  /-- an entry of an export list that names a declaration or a binding of its own module -/
  | listed {file id found : NodeId} {localName name : String} (hid : id ∈ p.arena.statements file)
      (hkind : p.arena.kind? id = some (.reExport none localName name))
      (hlocal : p.localSymbol file localName space = some found) : ExportChain p space 0 file name found
  /-- an entry of an export list that names a binding, which is followed to its module -/
  | imported {file id binding target found : NodeId} {localName wanted name : String} {hops : Nat}
      (hid : id ∈ p.arena.statements file)
      (hkind : p.arena.kind? id = some (.reExport none localName name))
      (hlocal : p.localSymbol file localName space = some binding)
      (himports : p.ImportsFrom binding target wanted)
      (h : ExportChain p space hops target wanted found) :
      ExportChain p space (hops + 2) file name found
  /-- the export of a whole module, except for its default -/
  | star {file id target found : NodeId} {specifier name : String} {hops : Nat}
      (hid : id ∈ p.arena.statements file)
      (hkind : p.arena.kind? id = some (.exportAll specifier)) (hname : name ≠ "default")
      (hmodule : p.moduleNamed? file specifier = some target)
      (h : ExportChain p space hops target name found) : ExportChain p space (hops + 1) file name found

end

variable {p : Program} {space : Space} {file id : NodeId} {name : String} {hops : Nat}

/-! ## Whole exports -/

/-- A search that may take one more step looks through the module, and through others in fewer steps. -/
theorem findExport_succ (p : Program) (space : Space) (hops : Nat) (file : NodeId) (name : String) :
    p.findExport space (hops + 1) file name =
      p.exportStep space (p.findExport space hops) (p.findExport space (hops - 1)) file name := by
  cases hops with
  | zero => rfl
  | succ hops => rfl

theorem findSome?_stars (p : Program) (search : NodeId → Option NodeId) (file : NodeId) :
    (p.stars file).findSome? search = (p.arena.statements file).findSome? fun id =>
      match p.arena.kind? id with
      | some (.exportAll specifier) => (p.moduleNamed? file specifier).bind search
      | _ => none := by
  rw [← List.head?_filterMap, stars, List.filterMap_filterMap, List.head?_filterMap]
  congr 1
  funext id
  split <;> rfl

/-- Where no export list has the name, a module exports what it declares, or else the first that a whole
export of it gives. -/
theorem exportStep_of_unlisted {search afterLocal : NodeId → String → Option NodeId}
    (hlists : p.listsExport name file = false) (hname : name ≠ "default") :
    p.exportStep space search afterLocal file name =
      (p.ownExport space name file).or ((p.stars file).findSome? (search · name)) := by
  have hoffers : ∀ id ∈ p.arena.statements file,
      ((p.arena.kind? id).map (·.offers name space)).getD false =
        ((p.arena.kind? id).map fun kind => kind.isExported && kind.declares name space).getD false := by
    intro id hid
    have hunlisted := List.any_eq_false.1 hlists id hid
    cases hkind : p.arena.kind? id with
    | none => rfl
    | some kind =>
      rw [hkind] at hunlisted
      cases kind with
      | reExport specifier localName exported => simpa [NodeKind.offers, NodeKind.isExported] using hunlisted
      | exportDefault value => simpa [NodeKind.offers, NodeKind.isExported] using hname
      | _ => rfl
  have hfind : p.ownExport space name file = (p.arena.statements file).find? fun id =>
      ((p.arena.kind? id).map (·.offers name space)).getD false := by
    rw [ownExport, ← List.head?_filter, ← List.head?_filter, List.filter_congr hoffers]
  rw [exportStep, ← hfind, findSome?_stars]
  cases hown : p.ownExport space name file with
  | none =>
    have hdefault : (name == "default") = false := beq_eq_false_iff_ne.2 hname
    simp only [hdefault, Option.none_or]
    rfl
  | some id =>
    obtain ⟨kind, hkind, hexported⟩ := exists_kind?_of_find? hown
    cases kind with
    | reExport specifier localName exported => simp [NodeKind.isExported] at hexported
    | _ => simp [hkind]

theorem along_cons {i : Nat} {path : List Nat} {target : NodeId} :
    p.along (i :: path) file = some target ↔
      ∃ next, (p.stars file)[i]? = some next ∧ p.along path next = some target :=
  Option.bind_eq_some_iff

/-- No module that whole exports lead to gives something the name in an export list. -/
def Unlisted (p : Program) (name : String) (file : NodeId) : Prop :=
  ∀ path target, p.along path file = some target → p.listsExport name target = false

theorem Unlisted.star (h : p.Unlisted name file) {i : Nat} {next : NodeId}
    (hnext : (p.stars file)[i]? = some next) : p.Unlisted name next :=
  fun path target htarget => h (i :: path) target (along_cons.2 ⟨next, hnext, htarget⟩)

theorem Unlisted.findExport_succ (h : p.Unlisted name file) (hname : name ≠ "default") :
    p.findExport space (hops + 1) file name =
      (p.ownExport space name file).or ((p.stars file).findSome? (p.findExport space hops · name)) := by
  rw [Program.findExport_succ, exportStep_of_unlisted (h [] file rfl) hname]

/-- Without export lists on the way nothing is found exactly if no path ends in a declaration. -/
theorem Unlisted.findExport_eq_none_iff (h : p.Unlisted name file) (hname : name ≠ "default") :
    p.findExport space hops file name = none ↔ ∀ path target, path.length < hops →
      p.along path file = some target → p.ownExport space name target = none := by
  induction hops generalizing file with
  | zero => exact iff_of_true rfl fun _ _ hlength => absurd hlength (Nat.not_lt_zero _)
  | succ hops ih =>
    rw [h.findExport_succ hname, Option.or_eq_none_iff, List.findSome?_eq_none_iff]
    constructor
    · rintro ⟨hown, hstars⟩ path target hlength htarget
      cases path with
      | nil =>
        cases htarget
        exact hown
      | cons i path =>
        obtain ⟨next, hnext, htarget⟩ := along_cons.1 htarget
        have hnone := hstars next (List.mem_of_getElem? hnext)
        exact (ih (h.star hnext)).1 hnone path target (Nat.lt_of_succ_lt_succ hlength) htarget
    · intro hnone
      refine ⟨hnone [] file (Nat.succ_pos hops) rfl, fun next hmem => ?_⟩
      obtain ⟨i, hnext⟩ := List.mem_iff_getElem?.1 hmem
      refine (ih (h.star hnext)).2 fun path target hlength htarget => ?_
      exact hnone (i :: path) target (Nat.succ_lt_succ hlength) (along_cons.2 ⟨next, hnext, htarget⟩)

/-- What is found stands at the end of the first path. -/
theorem Unlisted.firstAlong (h : p.Unlisted name file) (hname : name ≠ "default")
    (hfound : p.findExport space hops file name = some id) : p.FirstAlong space hops file name id := by
  induction hops generalizing file with
  | zero => cases hfound
  | succ hops ih =>
    rw [h.findExport_succ hname, Option.or_eq_some_iff] at hfound
    rcases hfound with hown | ⟨hown, hstars⟩
    · exact ⟨[], file, Nat.succ_pos hops, rfl, hown, fun earlier hlt => absurd hlt (List.not_lt_nil _)⟩
    · obtain ⟨before, next, after, heq, hnext, hbefore⟩ := List.findSome?_eq_some_iff.1 hstars
      have hget : (p.stars file)[before.length]? = some next := by simp [heq]
      obtain ⟨path, target, hlength, htarget, hid, hfirst⟩ := ih (h.star hget) hnext
      refine ⟨before.length :: path, target, Nat.succ_lt_succ hlength,
        along_cons.2 ⟨next, hget, htarget⟩, hid, fun earlier hlt hshort other hother => ?_⟩
      cases earlier with
      | nil =>
        cases hother
        exact hown
      | cons j earlier =>
        obtain ⟨turn, hturn, hother⟩ := along_cons.1 hother
        rcases List.cons_lt_cons_iff.1 hlt with hj | ⟨rfl, hbelow⟩
        · -- a branch to the left, which gives nothing
          have hmem : turn ∈ before := by
            rw [heq, List.getElem?_append_left hj] at hturn
            exact List.mem_of_getElem? hturn
          exact ((h.star hturn).findExport_eq_none_iff hname).1 (hbefore turn hmem) earlier other
            (Nat.lt_of_succ_lt_succ hshort) hother
        · obtain rfl : next = turn := Option.some.inj (hget.symm.trans hturn)
          exact hfirst earlier hbelow (Nat.lt_of_succ_lt_succ hshort) other hother

/-- A set of modules that no whole export leaves has the end of every path that starts in it. -/
theorem along_mem {modules : List NodeId}
    (hclosed : ∀ file ∈ modules, ∀ next ∈ p.stars file, next ∈ modules) {path : List Nat}
    {target : NodeId} (hmem : file ∈ modules) (htarget : p.along path file = some target) :
    target ∈ modules := by
  induction path generalizing file with
  | nil =>
    cases htarget
    exact hmem
  | cons i path ih =>
    obtain ⟨next, hnext, htarget⟩ := along_cons.1 htarget
    exact ih (hclosed file hmem next (List.mem_of_getElem? hnext)) htarget

theorem ownExport_isSome :
    (p.ownExport space name file).isSome = true ↔ ∃ id ∈ p.arena.statements file, ∃ kind,
      p.arena.kind? id = some kind ∧ kind.isExported = true ∧ kind.declares name space = true := by
  rw [ownExport, List.find?_isSome]
  refine exists_congr fun id => and_congr_right fun _ => ?_
  cases p.arena.kind? id <;> simp

/-- There is one first path at most. -/
theorem FirstAlong.unique {id' : NodeId} (h : p.FirstAlong space hops file name id)
    (h' : p.FirstAlong space hops file name id') : id = id' := by
  obtain ⟨path, target, hlength, htarget, hid, hfirst⟩ := h
  obtain ⟨path', target', hlength', htarget', hid', hfirst'⟩ := h'
  rcases lt_trichotomy path path' with hlt | rfl | hlt
  · rw [hfirst' path hlt hlength target htarget] at hid
    cases hid
  · obtain rfl : target = target' := Option.some.inj (htarget.symm.trans htarget')
    exact Option.some.inj (hid.symm.trans hid')
  · rw [hfirst path' hlt hlength' target' htarget'] at hid'
    cases hid'

theorem Unlisted.findExport_eq_some_iff (h : p.Unlisted name file) (hname : name ≠ "default") :
    p.findExport space hops file name = some id ↔ p.FirstAlong space hops file name id := by
  refine ⟨h.firstAlong hname, fun hfirst => ?_⟩
  have ⟨path, target, hlength, htarget, hid, _⟩ := hfirst
  cases hfound : p.findExport space hops file name with
  | none =>
    rw [(h.findExport_eq_none_iff hname).1 hfound path target hlength htarget] at hid
    cases hid
  | some found => rw [(h.firstAlong hname hfound).unique hfirst]

/-! ## Chains of exports -/

/-- What a binding leads to is exported by the module that it is imported from. -/
theorem exists_of_followBinding {search : NodeId → String → Option NodeId} {binding : NodeId}
    (h : p.followBinding search binding = id) (hne : id ≠ binding) :
    ∃ target wanted, p.ImportsFrom binding target wanted ∧ search target wanted = some id := by
  have hsome : ∀ found : Option NodeId, found.getD binding = id → found = some id := by
    intro found hfound
    cases found with
    | none => exact absurd hfound.symm hne
    | some found => exact congrArg some hfound
  have hfound := hsome _ h
  split at hfound
  · next localName wanted target hkind hmodule =>
    obtain ⟨file, hfile, hmodule⟩ := Option.bind_eq_some_iff.1 hmodule
    obtain ⟨specifier, hspecifier, hmodule⟩ := Option.bind_eq_some_iff.1 hmodule
    exact ⟨target, wanted, ⟨localName, _, file, specifier, hkind, rfl, hfile, hspecifier, hmodule⟩, hfound⟩
  · next localName target hkind hmodule =>
    obtain ⟨file, hfile, hmodule⟩ := Option.bind_eq_some_iff.1 hmodule
    obtain ⟨specifier, hspecifier, hmodule⟩ := Option.bind_eq_some_iff.1 hmodule
    exact ⟨target, "default", ⟨localName, _, file, specifier, hkind, rfl, hfile, hspecifier, hmodule⟩,
      hfound⟩
  · cases hfound

/-- Whatever the search finds stands at the end of a chain of fewer steps than `hops`. -/
def FindsChained (p : Program) (space : Space) (hops : Nat)
    (search : NodeId → String → Option NodeId) : Prop :=
  ∀ file name id, search file name = some id →
    ∃ steps, steps < hops ∧ ExportChain p space steps file name id

/-- An entry of an export list leads to a declaration of its module, or on to another module. -/
theorem exportChain_of_listed {afterLocal : NodeId → String → Option NodeId} {entry : NodeId}
    {localName : String} (hafter : p.FindsChained space (hops - 1) afterLocal)
    (hmem : entry ∈ p.arena.statements file)
    (hkind : p.arena.kind? entry = some (.reExport none localName name))
    (h : p.fileSymbol afterLocal file localName space = some id) :
    ∃ steps, steps < hops + 1 ∧ ExportChain p space steps file name id := by
  obtain ⟨declared, hlocal, hid⟩ := Option.map_eq_some_iff.1 h
  by_cases hne : id = declared
  · exact ⟨0, Nat.succ_pos hops, .listed hmem hkind (hne ▸ hlocal)⟩
  · split at hid
    · obtain ⟨target, wanted, himports, hfound⟩ := exists_of_followBinding hid hne
      obtain ⟨steps, hsteps, hchain⟩ := hafter target wanted id hfound
      exact ⟨steps + 2, by omega, .imported hmem hkind hlocal himports hchain⟩
    · exact absurd hid.symm hne

theorem exportStep_chained {search afterLocal : NodeId → String → Option NodeId}
    (hsearch : p.FindsChained space hops search) (hafter : p.FindsChained space (hops - 1) afterLocal) :
    p.FindsChained space (hops + 1) (p.exportStep space search afterLocal) := by
  intro file name id h
  simp only [exportStep] at h
  split at h
  · next offer hoffer =>
    have hmem : offer ∈ p.arena.statements file := List.mem_of_find?_eq_some hoffer
    obtain ⟨kind, hkind, hoffers⟩ := exists_kind?_of_find? hoffer
    rw [hkind] at h
    cases kind with
    | reExport specifier localName exported =>
      obtain rfl : exported = name := by simpa [NodeKind.offers] using hoffers
      cases specifier with
      | none => exact exportChain_of_listed hafter hmem hkind h
      | some specifier =>
        cases hmodule : p.moduleNamed? file specifier with
        | none =>
          simp only [hmodule] at h
          obtain rfl := Option.some.inj h
          exact ⟨0, Nat.succ_pos hops, .foreign hmem hkind hmodule⟩
        | some target =>
          simp only [hmodule] at h
          obtain ⟨steps, hsteps, hchain⟩ := hsearch target localName id h
          exact ⟨steps + 1, Nat.succ_lt_succ hsteps, .reExport hmem hkind hmodule hchain⟩
    | exportDefault value =>
      obtain rfl := Option.some.inj h
      obtain rfl : name = "default" := by simpa [NodeKind.offers] using hoffers
      exact ⟨0, Nat.succ_pos hops, .default hmem hkind⟩
    | _ =>
      obtain rfl := Option.some.inj h
      simp only [NodeKind.offers, Bool.and_eq_true] at hoffers
      exact ⟨0, Nat.succ_pos hops, .declared hmem hkind hoffers.1 hoffers.2⟩
  · split at h
    · cases h
    · next hname =>
      obtain ⟨statement, hmem, hstatement⟩ := List.exists_of_findSome?_eq_some h
      split at hstatement
      · next specifier hkind =>
        obtain ⟨target, hmodule, htarget⟩ := Option.bind_eq_some_iff.1 hstatement
        obtain ⟨steps, hsteps, hchain⟩ := hsearch target name id htarget
        have hdefault : name ≠ "default" := fun heq => hname (by rw [heq]; rfl)
        exact ⟨steps + 1, Nat.succ_lt_succ hsteps, .star hmem hkind hdefault hmodule hchain⟩
      · cases hstatement

theorem findExport_chained (p : Program) (space : Space) (hops : Nat) :
    p.FindsChained space hops (p.findExport space hops) := by
  induction hops using Nat.strongRecOn with
  | ind hops ih =>
    cases hops with
    | zero => exact fun _ _ _ h => by cases h
    | succ hops =>
      intro file name id h
      rw [findExport_succ] at h
      have hafter : p.FindsChained space (hops - 1) (p.findExport space (hops - 1)) :=
        ih (hops - 1) (by omega)
      exact exportStep_chained (ih hops (Nat.lt_succ_self hops)) hafter file name id h

/-! ## All together -/

/-- **The search for an export finds the first declaration along whole exports.** Where no module that
they lead to has the name in an export list, something is found exactly if one that declares and exports
it is at most `maxExportHops` of them away, and it is the declaration at the end of the first path that
has one; the module itself comes before all that it exports as a whole. Export lists or not, whatever is
found stands at the end of a chain of exports. -/
theorem findExport_first (p : Program) (space : Space) (file : NodeId) (name : String) :
    (name ≠ "default" → p.Unlisted name file →
      ((p.findExport space (maxExportHops + 1) file name).isSome = true ↔
        ∃ path target, path.length ≤ maxExportHops ∧ p.along path file = some target ∧
          ∃ id ∈ p.arena.statements target, ∃ kind, p.arena.kind? id = some kind ∧
            kind.isExported = true ∧ kind.declares name space = true) ∧
      (∀ id, p.findExport space (maxExportHops + 1) file name = some id ↔
        p.FirstAlong space (maxExportHops + 1) file name id) ∧
      ∀ id, p.ownExport space name file = some id →
        p.findExport space (maxExportHops + 1) file name = some id) ∧
    ∀ id, p.findExport space (maxExportHops + 1) file name = some id →
      ∃ steps ≤ maxExportHops, p.ExportChain space steps file name id := by
  refine ⟨fun hname hunlisted => ⟨?_, fun id => hunlisted.findExport_eq_some_iff hname, fun id hown => ?_⟩,
    fun id hfound => ?_⟩
  · rw [← not_iff_not, Bool.not_eq_true, Option.isSome_eq_false_iff, Option.isNone_iff_eq_none,
      hunlisted.findExport_eq_none_iff hname]
    simp only [← ownExport_isSome, not_exists, not_and, Bool.not_eq_true, Option.isSome_eq_false_iff,
      Option.isNone_iff_eq_none, Nat.lt_succ_iff]
  · rw [hunlisted.findExport_succ hname, hown, Option.some_or]
  · obtain ⟨steps, hsteps, hchain⟩ := findExport_chained p space (maxExportHops + 1) file name id hfound
    exact ⟨steps, Nat.le_of_lt_succ hsteps, hchain⟩

/-- Modules that export one another as a whole. The name is declared by `c`, one step away from `a`, and
by `d`, two steps away but along the first of the exports. -/
def starModules : List ParsedModule :=
  [("a.ts", "export * from './b';\nexport * from './c';\nexport * from './a';"),
    ("b.ts", "export * from './d';\nexport * from './a';"),
    ("c.ts", "export * from './d';\nexport type T = 1;"),
    ("d.ts", "export * from './b';\nexport type T = 2;")].map fun (name, text) =>
      (.ofString name, Source.parseModule (.ofPath (.ofString name)) text)

def starProgram : Program where
  arena := Arena.ofModules starModules
  files := (starModules.map (·.1)).zip [⟨0⟩, ⟨4⟩, ⟨7⟩, ⟨10⟩]
  roots := starModules.map (·.1)
  resolver := {}

/-- The declaration in `d` is the one that is found, at the end of a path. -/
theorem findExport_first_cyclic :
    starProgram.findExport .type (maxExportHops + 1) ⟨0⟩ "T" = some ⟨12⟩ ∧
      starProgram.FirstAlong .type (maxExportHops + 1) ⟨0⟩ "T" ⟨12⟩ ∧
      ∃ steps ≤ maxExportHops, starProgram.ExportChain .type steps ⟨0⟩ "T" ⟨12⟩ := by
  have ⟨hclosed, hlists, hfound⟩ :
      (∀ file ∈ [⟨0⟩, ⟨4⟩, ⟨7⟩, ⟨10⟩], ∀ next ∈ starProgram.stars file,
        next ∈ ([⟨0⟩, ⟨4⟩, ⟨7⟩, ⟨10⟩] : List NodeId)) ∧
      (∀ file ∈ [⟨0⟩, ⟨4⟩, ⟨7⟩, ⟨10⟩], starProgram.listsExport "T" file = false) ∧
      starProgram.findExport .type (maxExportHops + 1) ⟨0⟩ "T" = some ⟨12⟩ := by
    decide +kernel
  have hunlisted : starProgram.Unlisted "T" ⟨0⟩ := fun path target htarget =>
    hlists target (along_mem hclosed List.mem_cons_self htarget)
  obtain ⟨hstars, hchain⟩ := findExport_first starProgram .type ⟨0⟩ "T"
  obtain ⟨-, hfirst, -⟩ := hstars (by decide) hunlisted
  exact ⟨hfound, (hfirst ⟨12⟩).1 hfound, hchain ⟨12⟩ hfound⟩

end Program

end ApiShapes
