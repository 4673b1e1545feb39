import ApiShapes.Program.Load
import ApiShapes.Proofs.Arena.Lowering
import Mathlib.Data.List.Forall2

/-!
# The specifiers of a module

* `StatementTree.named` : for each node of a statement the specifier it names, if any;
* `Source.specifiers` : the specifiers of a file's import bindings and exports from other modules;
* `Arena.Names id name` : the node says in the arena what the statement said in the text;
* `Program.specifiers_eq` : a loaded module has the specifiers of its text.
-/

namespace ApiShapes

/-- For each node that the statement gives its module the specifier it names, if any. -/
def StatementTree.named : StatementTree → List (Option String)
  | .imports specifier bindings => bindings.map fun _ => some specifier
  | .exports specifier names => names.map fun _ => specifier
  | .exportAll specifier => [some specifier]
  | .exportDefault _ => [none]
  | .vars _ declared => declared.map fun _ => none
  | .function .. => [none]
  | .typeAlias .. => [none]
  | .interface .. => [none]

/-- The statements of a file. Without a text it has none. -/
def Source.bodyOf (path : Path) (source : Option String) : List StatementTree :=
  parseModule (.ofPath path) (source.getD "")

def Source.specifiers (path : Path) (source : Option String) : List String :=
  (bodyOf path source).flatMap fun statement => statement.named.filterMap id

namespace Arena

/-- The node names a specifier: a binding the one of the import it stands below. -/
inductive Names (a : Arena) (id : NodeId) : Option String → Prop
  | binding {parent : NodeId} {localName specifier : String} {imported : Imported}
      (hid : a.get? id = some ⟨some parent, .binding localName imported⟩)
      (hparent : a.kind? parent = some (.imports specifier)) : Names a id (some specifier)
  | reExport {specifier : Option String} {localName exported : String}
      (hid : a.kind? id = some (.reExport specifier localName exported)) : Names a id specifier
  | exportAll {specifier : String} (hid : a.kind? id = some (.exportAll specifier)) :
      Names a id (some specifier)
  | plain {kind : NodeKind} (hid : a.kind? id = some kind) (hkind : kind.IsPlain) : Names a id none

variable {a b : Arena} {id : NodeId} {name : Option String}

theorem Names.grows (h : a.Names id name) (hab : a.Grows b) : b.Names id name := by
  cases h with
  | binding hid hparent => exact .binding (hab.get? hid) (hab.kind? hparent)
  | reExport hid => exact .reExport (hab.kind? hid)
  | exportAll hid => exact .exportAll (hab.kind? hid)
  | plain hid hkind => exact .plain (hab.kind? hid) hkind

theorem Names.lt_size (h : a.Names id name) : id.index < a.size := by
  cases h with
  | binding hid _ => exact lt_size_of_get? hid
  | reExport hid => exact lt_size_of_kind? hid
  | exportAll hid => exact lt_size_of_kind? hid
  | plain hid _ => exact lt_size_of_kind? hid

/-- Filling in a module leaves what its statements name. -/
theorem Names.fill {file : NodeId} {path : Path} {statements : List NodeId} {kind : NodeKind}
    (h : a.Names id name) (hfile : a.kind? file = some (.sourceFile path statements)) :
    (a.fill file kind).Names id name := by
  have hget : ∀ {other : NodeId} {node : Node}, a.get? other = some node →
      (∀ path statements, node.kind ≠ .sourceFile path statements) →
      (a.fill file kind).get? other = some node := by
    intro other node hother hne
    rw [get?_fill_of_ne kind, hother]
    rintro rfl
    rw [kind?, hother] at hfile
    exact hne path statements (Option.some.inj hfile)
  have hkind : ∀ {other : NodeId} {found : NodeKind}, a.kind? other = some found →
      (∀ path statements, found ≠ .sourceFile path statements) →
      (a.fill file kind).kind? other = some found := by
    intro other found hother hne
    obtain ⟨node, hnode, rfl⟩ := Option.map_eq_some_iff.1 hother
    rw [kind?, hget hnode hne]
    rfl
  cases h with
  | binding hid hparent =>
    exact .binding (hget hid fun _ _ => NodeKind.noConfusion)
      (hkind hparent fun _ _ => NodeKind.noConfusion)
  | reExport hid => exact .reExport (hkind hid fun _ _ => NodeKind.noConfusion)
  | exportAll hid => exact .exportAll (hkind hid fun _ _ => NodeKind.noConfusion)
  | plain hid hplain =>
    exact .plain (hkind hid (by rintro _ _ rfl; exact hplain)) hplain

end Arena

/-! ## Lowering keeps what statements name -/

namespace Lowering

variable {α β : Type} {R : Arena → α → β → Prop} {P : Arena → Prop} {f : α → Lowering β}

/-- What each step establishes about its result holds of all results at the end. -/
theorem forall₂_mapM (hR : ∀ {a b x y}, a.Grows b → R a x y → R b x y)
    (hP : ∀ {a b}, a.Grows b → P a → P b)
    (hf : ∀ x a, P a → a.Grows ((f x).run a).2 ∧ R ((f x).run a).2 x ((f x).run a).1)
    (xs : List α) (a : Arena) (ha : P a) :
    a.Grows ((xs.mapM f).run a).2 ∧
      List.Forall₂ (R ((xs.mapM f).run a).2) xs ((xs.mapM f).run a).1 := by
  induction xs generalizing a with
  | nil => exact ⟨.refl a, .nil⟩
  | cons x rest ih =>
    rw [List.mapM_cons]
    obtain ⟨hgrows, hx⟩ := hf x a ha
    obtain ⟨hrest, hall⟩ := ih _ (hP hgrows ha)
    exact ⟨hgrows.trans hrest, .cons (hR hrest hx) hall⟩

end Lowering

open Lowering

/-- The nodes of `ids` are new since `a` and name what `names` lists. -/
def Arena.Lists (a b : Arena) (names : List (Option String)) (ids : List NodeId) : Prop :=
  List.Forall₂ (fun name id => a.size ≤ id.index ∧ b.Names id name) names ids

variable {file : NodeId} {a : Arena}

theorem Arena.Lists.map {b : Arena} {ids : List NodeId} {α : Type} {name : α → Option String}
    {xs : List α} (h : List.Forall₂ (fun x id => a.size ≤ id.index ∧ b.Names id (name x)) xs ids) :
    a.Lists b (xs.map name) ids :=
  List.forall₂_map_left_iff.2 h

theorem Arena.Lists.mono {a' b b' : Arena} {names : List (Option String)} {ids : List NodeId}
    (h : a.Lists b names ids) (ha : a'.Grows a) (hb : b.Grows b') : a'.Lists b' names ids :=
  h.imp fun _ _ ⟨hle, hid⟩ => ⟨Nat.le_trans ha.size_le hle, hid.grows hb⟩

theorem Arena.Lists.of_mem {b : Arena} {names : List (Option String)} {ids : List NodeId}
    (h : a.Lists b names ids) {id : NodeId} (hid : id ∈ ids) :
    a.size ≤ id.index ∧ id.index < b.size := by
  unfold Arena.Lists at h
  induction h with
  | nil => cases hid
  | cons hhead _ ih =>
    rcases List.mem_cons.1 hid with rfl | hid
    · exact ⟨hhead.1, hhead.2.lt_size⟩
    · exact ih hid

theorem Lowering.Reserves.lists {m : Lowering (List NodeId)}
    (h : Reserves NodeKind.IsPlain file ([·]) m) (a : Arena) :
    a.Lists (m.run a).2 [none] (m.run a).1 := by
  obtain ⟨kind, hkind, hplain⟩ := h.kind? a
  rw [(h a).1]
  exact .cons ⟨Nat.le_refl _, .plain hkind hplain⟩ .nil

/-- Nodes that are pushed in a row, each naming what `name` says. -/
theorem mapM_push_lists {α : Type} {name : α → Option String} {parent : NodeId}
    {kind : α → NodeKind} {P : Arena → Prop} (hP : ∀ {a b}, a.Grows b → P a → P b)
    (hname : ∀ x a, P a → (a.push ⟨some parent, kind x⟩).Names a.next (name x)) (xs : List α)
    (start a : Arena) (hstart : start.Grows a) (ha : P a) :
    start.Lists ((xs.mapM fun x => push (some parent) (kind x)).run a).2 (xs.map name)
      ((xs.mapM fun x => push (some parent) (kind x)).run a).1 := by
  refine .map (forall₂_mapM (P := fun a => start.Grows a ∧ P a)
    (R := fun b x id => start.size ≤ id.index ∧ b.Names id (name x)) ?_ ?_ ?_ xs a ⟨hstart, ha⟩).2
  · exact fun hab ⟨hle, hid⟩ => ⟨hle, hid.grows hab⟩
  · exact fun hab ⟨hgrows, hp⟩ => ⟨hgrows.trans hab, hP hab hp⟩
  · intro x b ⟨hgrows, hp⟩
    exact ⟨Arena.grows_push b _, hgrows.size_le, hname x b hp⟩

theorem lowerVariable_lists (exported : Bool) (declared : List VariableTree)
    (hfile : file.index < a.size) :
    a.Lists ((declared.mapM (lowerVariable file exported)).run a).2 (declared.map fun _ => none)
      ((declared.mapM (lowerVariable file exported)).run a).1 := by
  refine .map (forall₂_mapM (P := a.Grows)
    (R := fun b _ id => a.size ≤ id.index ∧ b.Names id none) ?_ ?_ ?_ declared a (.refl a)).2
  · exact fun hbc ⟨hle, hid⟩ => ⟨hle, hid.grows hbc⟩
  · exact fun hbc hab => hab.trans hbc
  · intro item b hab
    have hlower := lowerVariable_reserves file exported item
    obtain ⟨kind, hkind, hplain⟩ := hlower.kind? b
    refine ⟨(hlower.growsBelow b (Nat.lt_of_lt_of_le hfile hab.size_le)).grows, ?_⟩
    rw [(hlower b).1]
    exact ⟨hab.size_le, .plain hkind hplain⟩

theorem lowerStatement_lists (statement : StatementTree) (hfile : file.index < a.size) :
    a.Lists ((lowerStatement file statement).run a).2 statement.named
      ((lowerStatement file statement).run a).1 := by
  cases statement with
  | imports specifier bindings =>
    refine mapM_push_lists (P := fun b => b.kind? a.next = some (.imports specifier))
      (fun hbc hb => hbc.kind? hb) ?_ bindings a _ (Arena.grows_push a _)
      (Arena.kind?_push_next a _)
    intro binding b hb
    exact .binding (Arena.get?_push_next b _) ((Arena.grows_push b _).kind? hb)
  | exports specifier names =>
    refine mapM_push_lists (P := fun _ => True) (fun _ => id) ?_ names a a (.refl a) trivial
    intro name b _
    exact .reExport (Arena.kind?_push_next b _)
  | exportAll specifier =>
    exact .cons ⟨Nat.le_refl _, .exportAll (Arena.kind?_push_next a _)⟩ .nil
  | exportDefault value => exact (exportDefault_reserves file value).lists a
  | vars exported declared => exact lowerVariable_lists exported declared hfile
  | function exported name params =>
    obtain ⟨kind, hkind, hplain⟩ := (lowerFunction_reserves file name params exported).kind? a
    exact .cons ⟨Nat.le_refl _, .plain hkind hplain⟩ .nil
  | typeAlias exported name params type =>
    exact (typeAlias_reserves file exported name params type).lists a
  | interface exported name params bases members =>
    exact (interface_reserves file exported name params bases members).lists a

/-- The statements of a module are new and name what its text names. -/
theorem Arena.addModule_lists (a : Arena) (path : Path) (body : List StatementTree) :
    a.Lists (a.addModule path body).2 (body.flatMap (·.named))
      ((a.addModule path body).2.statements a.next) := by
  let pushed := a.push ⟨none, .sourceFile path []⟩
  have hget : pushed.get? a.next = some ⟨none, .sourceFile path []⟩ := get?_push_next a _
  have hfile : pushed.kind? a.next = some (.sourceFile path []) := kind?_push_next a _
  obtain ⟨hgrows, hall⟩ := forall₂_mapM (P := pushed.Grows) (f := lowerStatement a.next)
    (R := fun b statement ids => pushed.Lists b statement.named ids)
    (by intro _ _ _ _ hbc h; exact h.mono (.refl pushed) hbc) (fun hbc hb => hb.trans hbc)
    (fun statement b hb => by
      have hlt : a.next.index < b.size := Nat.lt_of_lt_of_le (lt_size_of_kind? hfile) hb.size_le
      exact ⟨(lowerStatement_growsBelow a.next statement b hlt).grows,
        (lowerStatement_lists statement hlt).mono hb (.refl _)⟩)
    body pushed (.refl pushed)
  have hlists := List.rel_flatten (List.forall₂_map_left_iff.2 hall)
  rw [← List.flatMap_def] at hlists
  let lowered := (body.mapM (lowerStatement a.next)).run pushed
  have hids : (a.addModule path body).2.statements a.next = lowered.1.flatten := by
    have hlowered : lowered.2.get? a.next = some ⟨none, .sourceFile path []⟩ := hgrows.get? hget
    show (lowered.2.fill a.next (.sourceFile path lowered.1.flatten)).statements a.next = _
    simp [statements, kind?, get?_fill_self, hlowered]
  rw [hids]
  refine hlists.imp ?_
  rintro name id ⟨hle, hid⟩
  exact ⟨Nat.le_trans (grows_push a _).size_le hle, hid.fill (hgrows.kind? hfile)⟩

/-! ## The specifiers of a loaded module -/

namespace Program

theorem importOf?_eq {p : Program} {id parent : NodeId} {kind : NodeKind} {specifier : String}
    (hid : p.arena.get? id = some ⟨some parent, kind⟩)
    (hparent : p.arena.kind? parent = some (.imports specifier)) :
    p.importOf? id = some specifier := by
  have hup : p.arena.parent? id = some parent := by rw [Arena.parent?, hid]; rfl
  simp [importOf?, hup, hparent]

def named? (p : Program) (id : NodeId) : Option String :=
  match p.arena.kind? id with
  | some (.binding ..) => p.importOf? id
  | some (.reExport specifier ..) => specifier
  | some (.exportAll specifier) => some specifier
  | _ => none

theorem specifiers_eq_filterMap (p : Program) (file : NodeId) :
    p.specifiers file = ((p.arena.statements file).filterMap p.named?).eraseDups := rfl

theorem named?_eq {p : Program} {id : NodeId} {name : Option String} (h : p.arena.Names id name) :
    p.named? id = name := by
  unfold named?
  cases h with
  | @binding _ localName _ imported hid hparent =>
    have hkind : p.arena.kind? id = some (.binding localName imported) := by
      rw [Arena.kind?, hid]; rfl
    rw [hkind]
    exact importOf?_eq hid hparent
  | reExport hid => rw [hid]
  | exportAll hid => rw [hid]
  | @plain kind hid hplain =>
    rw [hid]
    cases kind <;> first | rfl | exact hplain.elim

/-- **A loaded module has the specifiers of its text.** -/
theorem specifiers_eq {p : Program} {a : Arena} {path : Path} {source : Option String}
    (h : (a.addModule path (Source.bodyOf path source)).2.Grows p.arena) :
    p.specifiers a.next = (Source.specifiers path source).eraseDups := by
  have hlists := a.addModule_lists path (Source.bodyOf path source)
  rw [← h.statements_eq (a.next_lt_addModule path _)] at hlists
  have hnamed : (p.arena.statements a.next).map p.named? =
      (Source.bodyOf path source).flatMap (·.named) := by
    refine List.forall₂_eq_eq_eq ▸ List.forall₂_map_left_iff.2 (hlists.flip.imp ?_)
    exact fun id name ⟨_, hid⟩ => named?_eq (hid.grows h)
  have hspecifiers : (p.arena.statements a.next).filterMap p.named? =
      Source.specifiers path source := by
    unfold Source.specifiers
    rw [← List.filterMap_flatMap, ← hnamed, List.filterMap_map]
    rfl
  rw [specifiers_eq_filterMap, hspecifiers]

end Program

end ApiShapes
