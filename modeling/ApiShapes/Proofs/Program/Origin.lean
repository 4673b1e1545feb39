import ApiShapes.Proofs.Program.Loading
import ApiShapes.Proofs.Program.Produced

/-!
# Where external types come from

* `Program.NamesModule origin specifier` : the node is an import binding or a re-export from that
  module;
* `Assembled.exists_origin` : every external type that the program produces has such an origin, on which
  `importOrigin` gives the specifier.
-/

namespace ApiShapes.Program

variable {p : Program} {read : Path → Option String} {origin : NodeId} {specifier : String}

/-- The node is an import binding or a re-export from the module that the specifier means. -/
inductive NamesModule (p : Program) (origin : NodeId) (specifier : String) : Prop
  | binding {parent : NodeId} {localName : String} {imported : Imported}
      (horigin : p.arena.get? origin = some ⟨some parent, .binding localName imported⟩)
      (hparent : p.arena.kind? parent = some (.imports specifier))
  | reExport {localName exported : String}
      (horigin : p.arena.kind? origin = some (.reExport (some specifier) localName exported))

namespace Assembled

/-- A binding stands below an import. -/
theorem binding_parent (h : p.Assembled read) {localName : String} {imported : Imported}
    (hid : p.arena.kind? origin = some (.binding localName imported)) :
    ∃ parent specifier, p.arena.get? origin = some ⟨some parent, .binding localName imported⟩ ∧
      parent.index < origin.index ∧ p.arena.kind? parent = some (.imports specifier) := by
  obtain ⟨path, b, -, hb⟩ := h.cover origin (Arena.lt_size_of_kind? hid)
  have hne : origin ≠ b.file := by
    rintro rfl
    obtain ⟨statements, hfile⟩ := b.get?_file
    rw [Arena.kind?, hfile] at hid
    cases hid
  obtain ⟨parent, kind, hget, hlt, -, hfits⟩ := hb.placed hne
  obtain rfl : kind = .binding localName imported := by
    rw [Arena.kind?, hget] at hid
    exact Option.some.inj hid
  obtain ⟨specifier, hparent⟩ := hfits
  exact ⟨parent, specifier, hget, hlt, hparent⟩

theorem importOrigin_eq (h : p.Assembled read) (horigin : p.NamesModule origin specifier) :
    p.importOrigin origin = some specifier := by
  cases horigin with
  | @binding parent localName imported hget hparent =>
    have hkind : p.arena.kind? origin = some (.binding localName imported) := by
      rw [Arena.kind?, hget]
      rfl
    obtain ⟨parent', _, hget', hlt, -⟩ := h.binding_parent hkind
    obtain rfl : parent = parent' := by
      rw [hget] at hget'
      exact Option.some.inj (Node.mk.inj (Option.some.inj hget')).1
    obtain ⟨node, hnode, hkind'⟩ := Option.map_eq_some_iff.1 hparent
    rw [importOrigin, Arena.findUp_eq_parent hget hlt rfl]
    exact congrArg Option.join (Arena.findUp_eq_some hnode (by rw [hkind']))
  | reExport hkind =>
    obtain ⟨node, hnode, hkind⟩ := Option.map_eq_some_iff.1 hkind
    exact congrArg Option.join (Arena.findUp_eq_some hnode (by rw [hkind]))

theorem exists_namesModule (h : p.Assembled read) (horigin : p.IsForeign origin) :
    ∃ specifier, p.NamesModule origin specifier := by
  rcases horigin with ⟨localName, imported, hkind⟩ | ⟨specifier, localName, exported, hkind⟩
  · obtain ⟨parent, specifier, hget, -, hparent⟩ := h.binding_parent hkind
    exact ⟨specifier, .binding hget hparent⟩
  · exact ⟨specifier, .reExport hkind⟩

end Assembled

def HasOrigin (p : Program) (type : CheckedType) : Prop :=
  ∀ origin name args, type = .external origin name args → p.IsForeign origin

theorem keeps_hasOrigin (p : Program) : p.Keeps (fun _ => True) p.HasOrigin where
  keyword _ _ _ _ h := by cases h
  literal _ _ _ _ h := by cases h
  union _ _ _ _ _ h := by cases h
  intersection _ _ _ _ _ h := by cases h
  array _ _ _ _ _ h := by cases h
  object _ _ _ _ _ _ _ h := by cases h
  unresolved _ _ _ _ _ _ h := by cases h
  function _ _ _ h := by cases h
  unsupported _ _ _ _ h := by cases h
  objects := ⟨fun _ _ _ _ _ _ => trivial, fun _ _ _ _ _ _ _ => trivial, fun _ _ _ => trivial⟩
  external origin name args horigin _ _ _ _ h := by
    cases h
    exact horigin

theorem Produces.isForeign {name : String} {args : List CheckedType}
    (h : p.Produces (.external origin name args)) : p.IsForeign origin :=
  (p.keeps_hasOrigin.everywhere_of_produces h).here origin name args rfl

/-- Every external type that the program produces comes from a module that some statement names. -/
theorem Assembled.exists_origin (hp : p.Assembled read) {name : String} {args : List CheckedType}
    (h : p.Produces (.external origin name args)) :
    ∃ specifier, p.NamesModule origin specifier ∧ p.importOrigin origin = some specifier := by
  obtain ⟨specifier, horigin⟩ := hp.exists_namesModule h.isForeign
  exact ⟨specifier, horigin, hp.importOrigin_eq horigin⟩

end ApiShapes.Program
