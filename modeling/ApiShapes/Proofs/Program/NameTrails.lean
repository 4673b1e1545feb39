import ApiShapes.Proofs.Program.Exports
import ApiShapes.Proofs.Program.Origin

/-!
# Where names end

* `NodeKind.space?` : the space that a declaration gives its name to;
* `Program.ExportTrail`, `Program.NameTrail` : the way of a search from module to module, with the number
  of modules that it may still look through where it ends;
* `Program.Rests` : the reasons for a search to end at a node;
* `Program.findExport_iff_trail` : a search through exports finds the node at the end of a trail that rests
  there;
* `Program.symbol_rests` : so does a name, which never leads to a declaration of the other space.
-/

namespace ApiShapes

namespace NodeKind

/-- The space that the declaration gives its name to, unless it stands for something else. -/
def space? : NodeKind → Option Space
  | typeAlias .. => some .type
  | interface .. => some .type
  | function .. => some .value
  | var .. => some .value
  | _ => none

theorem space?_of_declares {kind : NodeKind} {name : String} {space : Space}
    (h : kind.declares name space = true) :
    kind.space? = some space ∨ ∃ localName imported, kind = .binding localName imported := by
  cases kind with
  | binding localName imported => exact .inr ⟨localName, imported, rfl⟩
  | _ => cases space <;> simp_all [declares, typeName?, valueName?, space?]

theorem space?_of_isExported {kind : NodeKind} {name : String} {space : Space}
    (hexported : kind.isExported = true) (h : kind.declares name space = true) :
    kind.space? = some space := by
  rcases space?_of_declares h with hspace | ⟨localName, imported, rfl⟩
  · exact hspace
  · cases hexported

end NodeKind

namespace Program

section

variable (p : Program)

/-- The first statement of a module that offers something under a name. -/
def offer? (space : Space) (file : NodeId) (name : String) : Option NodeId :=
  (p.arena.statements file).find? fun id => ((p.arena.kind? id).map (·.offers name space)).getD false

/-- The way of a search for an export that may look through `hops` modules, up to a node where it may still
look through `left` more. -/
inductive ExportTrail (p : Program) (space : Space) : Nat → NodeId → String → NodeId → Nat → Prop
  /-- The statement that offers the name is no entry of an export list. -/
  | offered {hops : Nat} {file id : NodeId} {name : String} {kind : NodeKind}
      (hoffer : p.offer? space file name = some id) (hkind : p.arena.kind? id = some kind)
      (hentry : ∀ specifier localName exported, kind ≠ .reExport specifier localName exported) :
      ExportTrail p space (hops + 1) file name id hops
  /-- The statement that offers the name takes it from a module that is not loaded. -/
  | foreign {hops : Nat} {file id : NodeId} {name specifier localName exported : String}
      (hoffer : p.offer? space file name = some id)
      (hkind : p.arena.kind? id = some (.reExport (some specifier) localName exported))
      (hmodule : p.moduleNamed? file specifier = none) :
      ExportTrail p space (hops + 1) file name id hops
  | reExport {hops left : Nat} {file entry target id : NodeId}
      {name specifier localName exported : String} (hoffer : p.offer? space file name = some entry)
      (hkind : p.arena.kind? entry = some (.reExport (some specifier) localName exported))
      (hmodule : p.moduleNamed? file specifier = some target)
      (htrail : ExportTrail p space hops target localName id left) :
      ExportTrail p space (hops + 1) file name id left
  /-- An export list has the name for a declaration or a binding of its module. -/
  | listed {hops : Nat} {file entry id : NodeId} {name localName exported : String}
      (hoffer : p.offer? space file name = some entry)
      (hkind : p.arena.kind? entry = some (.reExport none localName exported))
      (hlocal : p.localSymbol file localName space = some id) :
      ExportTrail p space (hops + 1) file name id (hops - 1)
  | imported {hops left : Nat} {file entry binding target id : NodeId}
      {name localName exported wanted : String} (hoffer : p.offer? space file name = some entry)
      (hkind : p.arena.kind? entry = some (.reExport none localName exported))
      (hlocal : p.localSymbol file localName space = some binding)
      (himports : p.ImportsFrom binding target wanted)
      (htrail : ExportTrail p space (hops - 1) target wanted id left) :
      ExportTrail p space (hops + 1) file name id left
  /-- Nothing offers the name, and the modules that are exported as a whole before `target` do not have
  it. -/
  | star {hops left : Nat} {file target id : NodeId} {name : String} {before after : List NodeId}
      (hoffer : p.offer? space file name = none) (hname : name ≠ "default")
      (hstars : p.stars file = before ++ target :: after)
      (hbefore : ∀ other ∈ before, p.findExport space hops other name = none)
      (htrail : ExportTrail p space hops target name id left) :
      ExportTrail p space (hops + 1) file name id left

def wholeModule? (file : NodeId) (name : String) : Option NodeId :=
  (p.arena.statements file).find? fun id =>
    match p.arena.kind? id with
    | some (.binding localName .namespace) => localName == name
    | _ => false

/-- The way of a name in the module of `scope`, up to a node where the search may still look through `left`
modules. -/
inductive NameTrail (p : Program) (space : Space) (scope : NodeId) (name : String) :
    NodeId → Nat → Prop
  | own {file id : NodeId} (hfile : p.arena.fileOf? scope = some file)
      (hplain : Text.cutFirst '.' name = none) (hlocal : p.localSymbol file name space = some id) :
      NameTrail p space scope name id maxExportHops
  | imported {file binding target id : NodeId} {wanted : String} {left : Nat}
      (hfile : p.arena.fileOf? scope = some file) (hplain : Text.cutFirst '.' name = none)
      (hlocal : p.localSymbol file name space = some binding)
      (himports : p.ImportsFrom binding target wanted)
      (htrail : p.ExportTrail space maxExportHops target wanted id left) :
      NameTrail p space scope name id left
  | qualified {file binding target id : NodeId} {head rest : String} {left : Nat}
      (hfile : p.arena.fileOf? scope = some file) (hdotted : Text.cutFirst '.' name = some (head, rest))
      (hbinding : p.wholeModule? file head = some binding)
      (hmodule : (p.importOf? binding).bind (p.moduleNamed? file) = some target)
      (hrest : rest.toList.contains '.' = false)
      (htrail : p.ExportTrail space maxExportHops target rest id left) :
      NameTrail p space scope name id left
  | unloaded {file binding : NodeId} {head rest : String}
      (hfile : p.arena.fileOf? scope = some file) (hdotted : Text.cutFirst '.' name = some (head, rest))
      (hbinding : p.wholeModule? file head = some binding)
      (hmodule : (p.importOf? binding).bind (p.moduleNamed? file) = none) :
      NameTrail p space scope name binding maxExportHops

/-- Why a search that may look through `left` more modules ends at a node. -/
inductive Rests (p : Program) (space : Space) (left : Nat) (id : NodeId) : Prop
  | declaration {kind : NodeKind} (hkind : p.arena.kind? id = some kind)
      (hspace : kind.space? = some space)
  | default {value : Expr} (hkind : p.arena.kind? id = some (.exportDefault value))
  /-- a binding of a whole module -/
  | wholeModule {localName : String} (hkind : p.arena.kind? id = some (.binding localName .namespace))
  /-- a binding from a module that is not loaded -/
  | outside {localName specifier : String} {imported : Imported} {file : NodeId}
      (hkind : p.arena.kind? id = some (.binding localName imported))
      (hfile : p.arena.fileOf? id = some file) (himport : p.importOf? id = some specifier)
      (hmodule : p.moduleNamed? file specifier = none)
  /-- a binding from a loaded module that has no such export, as far as the search may go on -/
  | missing {target : NodeId} {wanted : String} (himports : p.ImportsFrom id target wanted)
      (hsearch : p.findExport space left target wanted = none)
  /-- an export from a module that is not loaded -/
  | foreign {specifier localName exported : String} {file : NodeId}
      (hkind : p.arena.kind? id = some (.reExport (some specifier) localName exported))
      (hfile : p.arena.fileOf? id = some file) (hmodule : p.moduleNamed? file specifier = none)

end

variable {p : Program} {read : Path → Option String} {space : Space} {file id binding : NodeId}
  {name : String} {hops left : Nat}

/-! ## Statements of loaded modules -/

/-- The statements of a module stand below it. -/
theorem Assembled.fileOf?_statement (hp : p.Assembled read) (h : id ∈ p.arena.statements file) :
    p.arena.fileOf? id = some file := by
  have hpath : ∃ path, p.filePath? file = some path := by
    unfold Arena.statements at h
    split at h
    · next path statements hkind => exact ⟨path, by rw [filePath?, hkind]⟩
    · cases h
  obtain ⟨path, hpath⟩ := hpath
  obtain ⟨b, rfl⟩ := hp.block path file (hp.mem_files_iff.2 hpath)
  exact (b.contains_of_mem_statements h).fileOf?_eq

/-- A binding stands below an import, in a module. -/
theorem Assembled.exists_import (hp : p.Assembled read) {localName : String} {imported : Imported}
    (hkind : p.arena.kind? binding = some (.binding localName imported)) :
    ∃ file specifier, p.arena.fileOf? binding = some file ∧ p.importOf? binding = some specifier := by
  obtain ⟨path, b, -, hb⟩ := hp.cover binding (Arena.lt_size_of_kind? hkind)
  obtain ⟨parent, specifier, hget, -, hparent⟩ := hp.binding_parent hkind
  exact ⟨b.file, specifier, hb.fileOf?_eq, importOf?_eq hget hparent⟩

/-! ## Bindings -/

/-- What a binding leads to, by the module and the name that it imports. -/
theorem followBinding_eq {search : NodeId → String → Option NodeId} {localName specifier : String}
    {imported : Imported} (hkind : p.arena.kind? binding = some (.binding localName imported))
    (hfile : p.arena.fileOf? binding = some file) (himport : p.importOf? binding = some specifier) :
    p.followBinding search binding = (imported.wanted?.bind fun wanted =>
      (p.moduleNamed? file specifier).bind (search · wanted)).getD binding := by
  have htarget : (do
      let file ← p.arena.fileOf? binding
      p.moduleNamed? file (← p.importOf? binding)) = p.moduleNamed? file specifier := by
    rw [hfile, himport]
    rfl
  rw [followBinding, hkind, htarget]
  cases imported <;> cases p.moduleNamed? file specifier <;> rfl

theorem importsFrom_iff {localName specifier wanted : String} {imported : Imported} {target : NodeId}
    (hkind : p.arena.kind? binding = some (.binding localName imported))
    (hfile : p.arena.fileOf? binding = some file) (himport : p.importOf? binding = some specifier) :
    p.ImportsFrom binding target wanted ↔
      imported.wanted? = some wanted ∧ p.moduleNamed? file specifier = some target := by
  constructor
  · rintro ⟨_, _, _, _, hkind', hwanted, hfile', himport', hmodule⟩
    rw [hkind] at hkind'
    rw [hfile] at hfile'
    rw [himport] at himport'
    cases hkind'
    cases hfile'
    cases himport'
    exact ⟨hwanted, hmodule⟩
  · rintro ⟨hwanted, hmodule⟩
    exact ⟨localName, imported, file, specifier, hkind, hwanted, hfile, himport, hmodule⟩

/-- A search rests at a binding if it finds nothing behind it. -/
theorem rests_binding_iff {localName specifier : String} {imported : Imported}
    (hkind : p.arena.kind? binding = some (.binding localName imported))
    (hfile : p.arena.fileOf? binding = some file) (himport : p.importOf? binding = some specifier) :
    p.Rests space left binding ↔ (imported.wanted?.bind fun wanted =>
      (p.moduleNamed? file specifier).bind (p.findExport space left · wanted)) = none := by
  constructor
  · intro h
    cases h with
    | declaration hkind' hspace =>
      rw [hkind] at hkind'
      cases hkind'
      cases hspace
    | default hkind' =>
      rw [hkind] at hkind'
      cases hkind'
    | wholeModule hkind' =>
      rw [hkind] at hkind'
      cases hkind'
      rfl
    | outside hkind' hfile' himport' hmodule =>
      rw [hfile] at hfile'
      rw [himport] at himport'
      cases hfile'
      cases himport'
      rw [hmodule]
      cases imported.wanted? <;> rfl
    | missing himports hsearch =>
      obtain ⟨hwanted, hmodule⟩ := (importsFrom_iff hkind hfile himport).1 himports
      rw [hwanted, hmodule]
      exact hsearch
    | foreign hkind' =>
      rw [hkind] at hkind'
      cases hkind'
  · intro h
    cases hwanted : imported.wanted? with
    | none =>
      cases imported with
      | «namespace» => exact .wholeModule hkind
      | _ => cases hwanted
    | some wanted =>
      cases hmodule : p.moduleNamed? file specifier with
      | none => exact .outside hkind hfile himport hmodule
      | some target =>
        rw [hwanted, hmodule] at h
        exact .missing ((importsFrom_iff hkind hfile himport).2 ⟨hwanted, hmodule⟩) h

/-- A binding leads to itself if the search rests there, and else to what its module exports. -/
theorem followBinding_eq_iff (hp : p.Assembled read) {localName : String} {imported : Imported}
    (hkind : p.arena.kind? binding = some (.binding localName imported)) :
    p.followBinding (p.findExport space left) binding = id ↔
      (id = binding ∧ p.Rests space left binding) ∨ ∃ target wanted,
        p.ImportsFrom binding target wanted ∧ p.findExport space left target wanted = some id := by
  obtain ⟨file, specifier, hfile, himport⟩ := hp.exists_import hkind
  rw [followBinding_eq hkind hfile himport, rests_binding_iff hkind hfile himport]
  simp only [importsFrom_iff hkind hfile himport]
  cases imported.wanted? with
  | none => simp [eq_comm]
  | some wanted =>
    cases p.moduleNamed? file specifier with
    | none => simp [eq_comm]
    | some target => cases hfound : p.findExport space left target wanted <;> simp [hfound, eq_comm]

/-- What a name means in a module: the declaration or the binding itself, where the search rests, or what
the binding's module exports. -/
theorem fileSymbol_eq_some_iff (hp : p.Assembled read) :
    p.fileSymbol (p.findExport space left) file name space = some id ↔
      (p.localSymbol file name space = some id ∧ p.Rests space left id) ∨
        ∃ binding target wanted, p.localSymbol file name space = some binding ∧
          p.ImportsFrom binding target wanted ∧ p.findExport space left target wanted = some id := by
  rw [fileSymbol]
  cases hlocal : p.localSymbol file name space with
  | none => simp
  | some declared =>
    obtain ⟨kind, hkind, hdeclares⟩ := exists_kind?_of_find? hlocal
    simp only [Option.map_some, Option.some.injEq, hkind]
    rcases NodeKind.space?_of_declares hdeclares with hspace | ⟨localName, imported, rfl⟩
    · have hrests : p.Rests space left declared := .declaration hkind hspace
      have hbinding : ∀ target wanted, ¬ p.ImportsFrom declared target wanted := by
        rintro target wanted ⟨_, _, _, _, hkind', -⟩
        rw [hkind] at hkind'
        cases hkind'
        cases hspace
      have hdeclared : declared = id ↔ (declared = id ∧ p.Rests space left id) ∨
          ∃ binding target wanted, declared = binding ∧ p.ImportsFrom binding target wanted ∧
            p.findExport space left target wanted = some id := by
        constructor
        · rintro rfl
          exact .inl ⟨rfl, hrests⟩
        · rintro (⟨h, -⟩ | ⟨_, target, wanted, rfl, himports, -⟩)
          · exact h
          · exact (hbinding target wanted himports).elim
      cases kind with
      | binding => cases hspace
      | _ => exact hdeclared
    · rw [followBinding_eq_iff hp hkind]
      constructor
      · rintro (⟨rfl, hrests⟩ | ⟨target, wanted, himports, hfound⟩)
        · exact .inl ⟨rfl, hrests⟩
        · exact .inr ⟨declared, target, wanted, rfl, himports, hfound⟩
      · rintro (⟨rfl, hrests⟩ | ⟨_, target, wanted, rfl, himports, hfound⟩)
        · exact .inl ⟨rfl, hrests⟩
        · exact .inr ⟨target, wanted, himports, hfound⟩

/-! ## Exports -/

theorem exportStep_of_offer {search afterLocal : NodeId → String → Option NodeId}
    (hoffer : p.offer? space file name = some id) :
    p.exportStep space search afterLocal file name =
      match p.arena.kind? id with
      | some (.reExport (some specifier) localName _) =>
        match p.moduleNamed? file specifier with
        | some target => search target localName
        | none => some id
      | some (.reExport none localName _) => p.fileSymbol afterLocal file localName space
      | _ => some id := by
  unfold offer? at hoffer
  cases hkind : p.arena.kind? id with
  | none => simp only [exportStep, hoffer, hkind]
  | some kind =>
    cases kind with
    | reExport specifier localName exported =>
      cases specifier with
      | none => simp only [exportStep, hoffer, hkind]
      | some specifier =>
        cases htarget : p.moduleNamed? file specifier <;>
          simp only [exportStep, hoffer, hkind, htarget]
    | _ => simp only [exportStep, hoffer, hkind]

theorem exportStep_of_no_offer {search afterLocal : NodeId → String → Option NodeId}
    (hoffer : p.offer? space file name = none) (hname : name ≠ "default") :
    p.exportStep space search afterLocal file name = (p.stars file).findSome? (search · name) := by
  unfold offer? at hoffer
  have hdefault : (name == "default") = false := beq_eq_false_iff_ne.2 hname
  rw [findSome?_stars, exportStep, hoffer]
  simp only [hdefault]
  rfl

theorem exportStep_default {search afterLocal : NodeId → String → Option NodeId}
    (hoffer : p.offer? space file "default" = none) :
    p.exportStep space search afterLocal file "default" = none := by
  unfold offer? at hoffer
  rw [exportStep, hoffer]
  rfl

/-- What a statement offers is found at the end of a trail that starts there. -/
theorem exists_trail_of_offer (hp : p.Assembled read) {entry : NodeId}
    (ih : ∀ file name, p.findExport space hops file name = some id →
      ∃ left, p.ExportTrail space hops file name id left ∧ p.Rests space left id)
    (ihAfter : ∀ file name, p.findExport space (hops - 1) file name = some id →
      ∃ left, p.ExportTrail space (hops - 1) file name id left ∧ p.Rests space left id)
    (hoffer : p.offer? space file name = some entry)
    (h : p.findExport space (hops + 1) file name = some id) :
    ∃ left, p.ExportTrail space (hops + 1) file name id left ∧ p.Rests space left id := by
  obtain ⟨kind, hkind, hoffers⟩ := exists_kind?_of_find? hoffer
  have hmem : entry ∈ p.arena.statements file := List.mem_of_find?_eq_some hoffer
  rw [findExport_succ, exportStep_of_offer hoffer, hkind] at h
  cases kind with
  | reExport specifier localName exported =>
    cases specifier with
    | none =>
      rcases (fileSymbol_eq_some_iff hp).1 h with
        ⟨hlocal, hrests⟩ | ⟨binding, target, wanted, hlocal, himports, hfound⟩
      · exact ⟨hops - 1, .listed hoffer hkind hlocal, hrests⟩
      · obtain ⟨left, htrail, hrests⟩ := ihAfter target wanted hfound
        exact ⟨left, .imported hoffer hkind hlocal himports htrail, hrests⟩
    | some specifier =>
      cases hmodule : p.moduleNamed? file specifier with
      | none =>
        simp only [hmodule] at h
        obtain rfl := Option.some.inj h
        exact ⟨hops, .foreign hoffer hkind hmodule, .foreign hkind (hp.fileOf?_statement hmem) hmodule⟩
      | some target =>
        simp only [hmodule] at h
        obtain ⟨left, htrail, hrests⟩ := ih target localName h
        exact ⟨left, .reExport hoffer hkind hmodule htrail, hrests⟩
  | exportDefault value =>
    obtain rfl := Option.some.inj h
    exact ⟨hops, .offered hoffer hkind (by rintro _ _ _ ⟨⟩), .default hkind⟩
  | _ =>
    obtain rfl := Option.some.inj h
    simp only [NodeKind.offers, Bool.and_eq_true] at hoffers
    exact ⟨hops, .offered hoffer hkind (by rintro _ _ _ ⟨⟩),
      .declaration hkind (NodeKind.space?_of_isExported hoffers.1 hoffers.2)⟩

theorem exists_trail_of_findExport (hp : p.Assembled read)
    (h : p.findExport space hops file name = some id) :
    ∃ left, p.ExportTrail space hops file name id left ∧ p.Rests space left id := by
  induction hops using Nat.strongRecOn generalizing file name with
  | ind hops ih =>
    cases hops with
    | zero => cases h
    | succ hops =>
      have ihNext := fun file name => @ih hops (Nat.lt_succ_self hops) file name
      cases hoffer : p.offer? space file name with
      | some entry =>
        exact exists_trail_of_offer hp ihNext (fun _ _ => ih (hops - 1) (by omega)) hoffer h
      | none =>
        rw [findExport_succ] at h
        by_cases hname : name = "default"
        · subst hname
          rw [exportStep_default hoffer] at h
          cases h
        · rw [exportStep_of_no_offer hoffer hname] at h
          obtain ⟨before, target, after, hstars, htarget, hbefore⟩ := List.findSome?_eq_some_iff.1 h
          obtain ⟨left, htrail, hrests⟩ := ihNext target name htarget
          exact ⟨left, .star hoffer hname hstars hbefore htrail, hrests⟩

theorem ExportTrail.findExport_eq (hp : p.Assembled read)
    (h : p.ExportTrail space hops file name id left) (hrests : p.Rests space left id) :
    p.findExport space hops file name = some id := by
  induction h with
  | offered hoffer hkind hentry =>
    rw [findExport_succ, exportStep_of_offer hoffer, hkind]
    split
    · next heq => exact absurd (Option.some.inj heq) (hentry _ _ _)
    · next heq => exact absurd (Option.some.inj heq) (hentry _ _ _)
    · rfl
  | foreign hoffer hkind hmodule =>
    rw [findExport_succ, exportStep_of_offer hoffer, hkind]
    simp only [hmodule]
  | reExport hoffer hkind hmodule _ ih =>
    rw [findExport_succ, exportStep_of_offer hoffer, hkind]
    simp only [hmodule]
    exact ih hrests
  | listed hoffer hkind hlocal =>
    rw [findExport_succ, exportStep_of_offer hoffer, hkind]
    exact (fileSymbol_eq_some_iff hp).2 (.inl ⟨hlocal, hrests⟩)
  | imported hoffer hkind hlocal himports _ ih =>
    rw [findExport_succ, exportStep_of_offer hoffer, hkind]
    exact (fileSymbol_eq_some_iff hp).2 (.inr ⟨_, _, _, hlocal, himports, ih hrests⟩)
  | star hoffer hname hstars hbefore _ ih =>
    rw [findExport_succ, exportStep_of_no_offer hoffer hname]
    exact List.findSome?_eq_some_iff.2 ⟨_, _, _, hstars, ih hrests, hbefore⟩

/-- A search through exports finds exactly the node at the end of a trail that rests there. -/
theorem findExport_iff_trail (hp : p.Assembled read) :
    p.findExport space hops file name = some id ↔
      ∃ left, p.ExportTrail space hops file name id left ∧ p.Rests space left id :=
  ⟨exists_trail_of_findExport hp, fun ⟨_, htrail, hrests⟩ => htrail.findExport_eq hp hrests⟩

/-! ## Names -/

/-- No reason to end a search lets it end at a declaration of the other space. -/
theorem Rests.exists_kind (h : p.Rests space left id) : ∃ kind, p.arena.kind? id = some kind ∧
    ∀ other, kind.space? = some other → other = space := by
  cases h with
  | declaration hkind hspace =>
    refine ⟨_, hkind, fun other hother => ?_⟩
    rw [hspace] at hother
    exact (Option.some.inj hother).symm
  | default hkind => exact ⟨_, hkind, by rintro _ ⟨⟩⟩
  | wholeModule hkind => exact ⟨_, hkind, by rintro _ ⟨⟩⟩
  | outside hkind => exact ⟨_, hkind, by rintro _ ⟨⟩⟩
  | missing himports =>
    obtain ⟨localName, imported, _, _, hkind, -⟩ := himports
    exact ⟨_, hkind, by rintro _ ⟨⟩⟩
  | foreign hkind => exact ⟨_, hkind, by rintro _ ⟨⟩⟩

theorem symbol_of_plain {scope : NodeId} (hfile : p.arena.fileOf? scope = some file)
    (hplain : Text.cutFirst '.' name = none) :
    p.symbol scope name space = p.fileSymbol (p.findExport space maxExportHops) file name space := by
  rw [symbol, hfile, Option.bind_eq_bind, Option.bind_some, hplain]

theorem symbol_of_dotted {scope : NodeId} {head rest : String}
    (hfile : p.arena.fileOf? scope = some file) (hdotted : Text.cutFirst '.' name = some (head, rest)) :
    p.symbol scope name space = (p.wholeModule? file head).bind fun binding =>
      match (p.importOf? binding).bind (p.moduleNamed? file) with
      | some target =>
        if rest.toList.contains '.' then none else p.findExport space maxExportHops target rest
      | none => some binding := by
  rw [symbol, hfile, Option.bind_eq_bind, Option.bind_some, hdotted]
  rfl

theorem exists_kind?_of_wholeModule? (h : p.wholeModule? file name = some binding) :
    ∃ localName, p.arena.kind? binding = some (.binding localName .namespace) := by
  have hwhole := List.find?_some h
  split at hwhole
  · next localName hkind => exact ⟨localName, hkind⟩
  · cases hwhole

theorem exists_trail_of_symbol (hp : p.Assembled read) {scope : NodeId}
    (h : p.symbol scope name space = some id) :
    ∃ left, p.NameTrail space scope name id left ∧ p.Rests space left id := by
  obtain ⟨file, hfile, -⟩ := Option.bind_eq_some_iff.1 h
  cases hname : Text.cutFirst '.' name with
  | none =>
    rw [symbol_of_plain hfile hname] at h
    rcases (fileSymbol_eq_some_iff hp).1 h with
      ⟨hlocal, hrests⟩ | ⟨binding, target, wanted, hlocal, himports, hfound⟩
    · exact ⟨maxExportHops, .own hfile hname hlocal, hrests⟩
    · obtain ⟨left, htrail, hrests⟩ := (findExport_iff_trail hp).1 hfound
      exact ⟨left, .imported hfile hname hlocal himports htrail, hrests⟩
  | some parts =>
    obtain ⟨head, rest⟩ := parts
    rw [symbol_of_dotted hfile hname] at h
    obtain ⟨binding, hbinding, h⟩ := Option.bind_eq_some_iff.1 h
    split at h
    · next target hmodule =>
      split at h
      · cases h
      · next hrest =>
        obtain ⟨left, htrail, hrests⟩ := (findExport_iff_trail hp).1 h
        have hplain : rest.toList.contains '.' = false := Bool.eq_false_iff.2 hrest
        exact ⟨left, .qualified hfile hname hbinding hmodule hplain htrail, hrests⟩
    · next hmodule =>
      obtain rfl := Option.some.inj h
      obtain ⟨localName, hkind⟩ := exists_kind?_of_wholeModule? hbinding
      exact ⟨maxExportHops, .unloaded hfile hname hbinding hmodule, .wholeModule hkind⟩

theorem NameTrail.symbol_eq (hp : p.Assembled read) {scope : NodeId}
    (h : p.NameTrail space scope name id left) (hrests : p.Rests space left id) :
    p.symbol scope name space = some id := by
  cases h with
  | own hfile hplain hlocal =>
    rw [symbol_of_plain hfile hplain]
    exact (fileSymbol_eq_some_iff hp).2 (.inl ⟨hlocal, hrests⟩)
  | imported hfile hplain hlocal himports htrail =>
    rw [symbol_of_plain hfile hplain]
    exact (fileSymbol_eq_some_iff hp).2
      (.inr ⟨_, _, _, hlocal, himports, htrail.findExport_eq hp hrests⟩)
  | qualified hfile hdotted hbinding hmodule hrest htrail =>
    rw [symbol_of_dotted hfile hdotted, hbinding, Option.bind_some]
    simp only [hmodule, hrest]
    exact htrail.findExport_eq hp hrests
  | unloaded hfile hdotted hbinding hmodule =>
    rw [symbol_of_dotted hfile hdotted, hbinding, Option.bind_some]
    simp only [hmodule]

/-- **A name keeps to its space, and ends only for a reason.** In any loaded program a plain or dotted name
means the node at the end of its trail, through imports, export lists, re-exports and whole exports, where
the search rests: a declaration of the space in which the name is looked up, or a default export; a binding
of a whole module, from a module that is not loaded, or from one that has no such export in as many
modules as the search may still look through; a re-export from a module that is not loaded. No declaration
of the other space is among them. -/
theorem symbol_rests (roots : List Path) (resolver : ModuleResolver) (available : List Path)
    (read : Path → Option String) (scope : NodeId) (name : String) (space : Space) :
    let p := Program.load roots resolver available read
    (∀ id, p.symbol scope name space = some id ↔
      ∃ left, p.NameTrail space scope name id left ∧ p.Rests space left id) ∧
    ∀ id, p.symbol scope name space = some id → ∃ kind, p.arena.kind? id = some kind ∧
      ∀ other, kind.space? = some other → other = space := by
  intro p
  have hp : p.Assembled read := (loads_load roots resolver available read).inv.assembled
  refine ⟨fun id => ⟨exists_trail_of_symbol hp, ?_⟩, fun id h => ?_⟩
  · rintro ⟨left, htrail, hrests⟩
    exact htrail.symbol_eq hp hrests
  · obtain ⟨left, -, hrests⟩ := exists_trail_of_symbol hp h
    exact hrests.exists_kind

/-- A module that imports a name, one that passes it on, and one that declares it in both spaces. -/
def passedOn : List (Path × String) :=
  [("a.ts", "import \x7b f \x7d from './b';"), ("b.ts", "export * from './c';"),
    ("c.ts", "export function f() \x7b\x7d\nexport type f = 1;")].map fun (name, text) =>
      (.ofString name, text)

def passedOnProgram : Program :=
  .load [.ofString "a.ts"] {} (passedOn.map (·.1)) fun path => passedOn.lookup path

/-- In each space the name means the declaration of that space, at the end of a trail. -/
theorem symbol_rests_passedOn :
    (passedOnProgram.symbol ⟨0⟩ "f" .value = some ⟨6⟩ ∧
      ∃ left, passedOnProgram.NameTrail .value ⟨0⟩ "f" ⟨6⟩ left ∧
        passedOnProgram.Rests .value left ⟨6⟩) ∧
    passedOnProgram.symbol ⟨0⟩ "f" .type = some ⟨7⟩ ∧
      ∃ kind, passedOnProgram.arena.kind? ⟨7⟩ = some kind ∧
        ∀ other, kind.space? = some other → other = .type := by
  have hp : ((Loading.step (passedOn.map (·.1)).contains fun path => passedOn.lookup path)^[3]
      (Loading.start [(Path.ofString "a.ts").normal] {})).program = passedOnProgram :=
    (loads_load _ _ _ _).eq_of_iterate rfl (by decide +kernel)
  obtain ⟨hvalue, htype⟩ : passedOnProgram.symbol ⟨0⟩ "f" .value = some ⟨6⟩ ∧
      passedOnProgram.symbol ⟨0⟩ "f" .type = some ⟨7⟩ := by
    rw [← hp]
    decide +kernel
  have hrests := symbol_rests [.ofString "a.ts"] {} (passedOn.map (·.1))
    (fun path => passedOn.lookup path) ⟨0⟩ "f"
  exact ⟨⟨hvalue, ((hrests .value).1 ⟨6⟩).1 hvalue⟩, htype, (hrests .type).2 ⟨7⟩ htype⟩

end Program

end ApiShapes
