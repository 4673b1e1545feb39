import ApiShapes.Proofs.Alike.Types
import ApiShapes.Proofs.Program.Specifiers

/-!
# What names mean in programs that are alike

* `Program.Alike r p p'` : related nodes are alike, and a specifier that a module's statement names
  means related modules;
* `Program.Alike.findExport`, `Program.Alike.symbol` : names and exports lead to related nodes;
* `Program.Alike.callSignature`, `Program.Alike.importOrigin_eq` : so do called functions and origins.
-/

namespace ApiShapes

/-- The statements are related and belong to the two files, in which what they name means related
modules. -/
structure StatementAlike (r : NodeId → NodeId → Prop) (p p' : Program) (file file' id id' : NodeId) :
    Prop where
  rel : r id id'
  fileOf : p.arena.fileOf? id = some file
  fileOf' : p'.arena.fileOf? id' = some file'
  module : ∀ specifier, p.named? id = some specifier →
    Option.Rel r (p.moduleNamed? file specifier) (p'.moduleNamed? file' specifier)

/-- Related nodes are alike, as far as names and types can tell. -/
structure Program.Alike (r : NodeId → NodeId → Prop) (p p' : Program) : Prop where
  oneToOne : OneToOne r
  nodes : ∀ {id id'}, r id id' → ∃ node node', p.arena.get? id = some node ∧
    p'.arena.get? id' = some node' ∧ Node.Alike r node node'
  upward : ∀ {id id'}, r id id' → ∀ parent, p.arena.parent? id = some parent →
    parent.index < id.index
  upward' : ∀ {id id'}, r id id' → ∀ parent, p'.arena.parent? id' = some parent →
    parent.index < id'.index
  statements : ∀ {file file'}, r file file' → List.Forall₂ (StatementAlike r p p' file file')
    (p.arena.statements file) (p'.arena.statements file')

namespace Program.Alike

variable {r : NodeId → NodeId → Prop} {p p' : Program} (h : Program.Alike r p p')
include h

/-! ## Nodes -/

theorem kind? {id id' : NodeId} (hid : r id id') :
    ∃ kind kind', p.arena.kind? id = some kind ∧ p'.arena.kind? id' = some kind' ∧
      NodeKind.Alike r kind kind' := by
  obtain ⟨node, node', hget, hget', hnode⟩ := h.nodes hid
  exact ⟨node.kind, node'.kind, by rw [Arena.kind?, hget]; rfl, by rw [Arena.kind?, hget']; rfl,
    hnode.kind⟩

theorem parent? {id id' : NodeId} (hid : r id id') :
    Option.Rel r (p.arena.parent? id) (p'.arena.parent? id') := by
  obtain ⟨node, node', hget, hget', hnode⟩ := h.nodes hid
  rw [Arena.parent?, Arena.parent?, hget, hget']
  exact hnode.parent

/-- The ways up from related nodes find the same. -/
theorem findUp {α α' : Type} {S : α → α' → Prop} {f : NodeId → NodeKind → Option α}
    {f' : NodeId → NodeKind → Option α'}
    (hf : ∀ id id' kind kind', r id id' → NodeKind.Alike r kind kind' →
      Option.Rel S (f id kind) (f' id' kind')) {id id' : NodeId} (hid : r id id') :
    Option.Rel S (p.arena.findUp f id) (p'.arena.findUp f' id') := by
  induction hn : id.index using Nat.strongRecOn generalizing id id' with
  | ind n ih =>
    obtain ⟨node, node', hget, hget', hnode⟩ := h.nodes hid
    have hfound := hf id id' _ _ hid hnode.kind
    have hparent := hnode.parent
    have hup : ∀ parent, node.parent = some parent → parent.index < id.index := fun parent heq =>
      h.upward hid parent (by rw [Arena.parent?, hget]; exact heq)
    have hup' : ∀ parent, node'.parent = some parent → parent.index < id'.index := fun parent heq =>
      h.upward' hid parent (by rw [Arena.parent?, hget']; exact heq)
    rw [Arena.findUp, Arena.findUp, hget, hget']
    simp only
    generalize f id node.kind = x, f' id' node'.kind = x' at hfound ⊢
    cases hfound with
    | some hfound => exact .some hfound
    | none =>
      simp only
      generalize node.parent = y, node'.parent = y' at hparent hup hup' ⊢
      cases hparent with
      | none => exact .none
      | @some parent parent' hparent =>
        simp only [hup parent rfl, hup' parent' rfl, dite_true]
        exact ih parent.index (hn ▸ hup parent rfl) hparent rfl

theorem fileOf? {id id' : NodeId} (hid : r id id') :
    Option.Rel r (p.arena.fileOf? id) (p'.arena.fileOf? id') := by
  refine h.findUp (fun id id' kind kind' hid hkind => ?_) hid
  cases hkind with
  | sourceFile _ _ => exact .some hid
  | _ => exact .none

theorem importOf?_eq {id id' : NodeId} (hid : r id id') : p.importOf? id = p'.importOf? id' := by
  refine optionRel_eq (optionRel_bind (h.parent? hid) fun parent parent' hparent => ?_)
  obtain ⟨kind, kind', hkind, hkind', halike⟩ := h.kind? hparent
  rw [hkind, hkind']
  cases halike with
  | imports specifier => exact .some rfl
  | _ => exact .none

theorem importOrigin_eq {id id' : NodeId} (hid : r id id') :
    p.importOrigin id = p'.importOrigin id' := by
  refine congrArg Option.join (optionRel_eq (h.findUp (fun id id' kind kind' hid hkind => ?_) hid))
  cases hkind with
  | imports specifier => exact .some rfl
  | reExport specifier _ _ =>
    cases specifier with
    | none => exact .none
    | some specifier => exact .some rfl
  | sourceFile _ _ => exact .some rfl
  | _ => exact .none

/-! ## Names -/

end Program.Alike

/-- The node binds a whole module to the name. -/
def Program.bindsWhole (p : Program) (name : String) (id : NodeId) : Bool :=
  match p.arena.kind? id with
  | some (.binding localName .namespace) => localName == name
  | _ => false

theorem Program.kind?_of_bindsWhole {p : Program} {name : String} {id : NodeId}
    (h : p.bindsWhole name id = true) :
    ∃ localName imported, p.arena.kind? id = some (.binding localName imported) := by
  unfold bindsWhole at h
  split at h
  · next localName hkind => exact ⟨localName, .namespace, hkind⟩
  · cases h

def SearchAlike (r : NodeId → NodeId → Prop) (search search' : NodeId → String → Option NodeId) :
    Prop :=
  ∀ file file' name, r file file' → Option.Rel r (search file name) (search' file' name)

namespace Program.Alike

variable {r : NodeId → NodeId → Prop} {p p' : Program} {search search' : NodeId → String → Option NodeId}
  {space : Space} {file file' : NodeId}

theorem find?_kind (h : Program.Alike r p p') (hfile : r file file') (q : NodeKind → Bool)
    (hq : ∀ kind kind', NodeKind.Alike r kind kind' → q kind = q kind') :
    Option.Rel (StatementAlike r p p' file file')
      ((p.arena.statements file).find? fun id => ((p.arena.kind? id).map q).getD false)
      ((p'.arena.statements file').find? fun id => ((p'.arena.kind? id).map q).getD false) := by
  apply optionRel_find? (h.statements hfile)
  intro id id' hid
  obtain ⟨kind, kind', hkind, hkind', halike⟩ := h.kind? hid.rel
  rw [hkind, hkind']
  exact hq kind kind' halike

theorem localSymbol (h : Program.Alike r p p') (hfile : r file file') (name : String) :
    Option.Rel (StatementAlike r p p' file file') (p.localSymbol file name space)
      (p'.localSymbol file' name space) :=
  h.find?_kind hfile (·.declares name space) fun _ _ halike => halike.declares_eq name space

/-- The module that a binding comes from. -/
theorem bindingModule (h : Program.Alike r p p') {id id' : NodeId}
    (hid : StatementAlike r p p' file file' id id') {localName : String} {imported : Imported}
    (hkind : p.arena.kind? id = some (.binding localName imported)) :
    Option.Rel r ((p.importOf? id).bind (p.moduleNamed? file))
      ((p'.importOf? id').bind (p'.moduleNamed? file')) := by
  rw [← h.importOf?_eq hid.rel]
  cases hspecifier : p.importOf? id with
  | none => exact .none
  | some specifier =>
    apply hid.module specifier
    rw [named?, hkind]
    exact hspecifier

theorem followBinding (h : Program.Alike r p p') (hsearch : SearchAlike r search search')
    {id id' : NodeId} (hid : StatementAlike r p p' file file' id id') {localName : String}
    {imported : Imported} (hkind : p.arena.kind? id = some (.binding localName imported))
    (hkind' : p'.arena.kind? id' = some (.binding localName imported)) :
    r (p.followBinding search id) (p'.followBinding search' id') := by
  have htarget := h.bindingModule hid hkind
  unfold Program.followBinding
  refine optionRel_getD ?_ hid.rel
  simp only [hid.fileOf, hid.fileOf', hkind, hkind', Option.bind_eq_bind, Option.bind_some]
  generalize (p.importOf? id).bind _ = x, (p'.importOf? id').bind _ = x' at htarget ⊢
  cases htarget with
  | none => cases imported <;> exact .none
  | some htarget =>
    cases imported with
    | named name => exact hsearch _ _ name htarget
    | default => exact hsearch _ _ "default" htarget
    | _ => exact .none

theorem fileSymbol (h : Program.Alike r p p') (hsearch : SearchAlike r search search')
    (hfile : r file file') (name : String) :
    Option.Rel r (p.fileSymbol search file name space) (p'.fileSymbol search' file' name space) := by
  apply optionRel_map (h.localSymbol hfile name)
  intro id id' hid
  obtain ⟨kind, kind', hkind, hkind', halike⟩ := h.kind? hid.rel
  rw [hkind, hkind']
  cases halike with
  | binding localName imported => exact h.followBinding hsearch hid hkind hkind'
  | _ => exact hid.rel

theorem exportStep (h : Program.Alike r p p') {afterLocal afterLocal' : NodeId → String → Option NodeId}
    (hsearch : SearchAlike r search search') (hafter : SearchAlike r afterLocal afterLocal') :
    SearchAlike r (p.exportStep space search afterLocal) (p'.exportStep space search' afterLocal') := by
  intro file file' name hfile
  have hoffer := h.find?_kind hfile (·.offers name space) fun _ _ halike => halike.offers_eq name space
  simp only [Program.exportStep]
  generalize List.find? _ (p.arena.statements file) = x at hoffer ⊢
  generalize List.find? _ (p'.arena.statements file') = x' at hoffer ⊢
  cases hoffer with
  | @some id id' hid =>
    obtain ⟨kind, kind', hkind, hkind', halike⟩ := h.kind? hid.rel
    simp only [hkind, hkind']
    cases halike with
    | reExport specifier localName exported =>
      cases specifier with
      | none => exact h.fileSymbol hafter hfile localName
      | some specifier =>
        have hmodule := hid.module specifier (by rw [named?, hkind])
        simp only
        generalize p.moduleNamed? file specifier = y, p'.moduleNamed? file' specifier = y' at hmodule ⊢
        cases hmodule with
        | none => exact .some hid.rel
        | some htarget => exact hsearch _ _ localName htarget
    | _ => exact .some hid.rel
  | none =>
    simp only
    split
    · exact .none
    · apply optionRel_findSome? (h.statements hfile)
      intro id id' hid
      obtain ⟨kind, kind', hkind, hkind', halike⟩ := h.kind? hid.rel
      rw [hkind, hkind']
      cases halike with
      | exportAll specifier =>
        apply optionRel_bind (hid.module specifier (by rw [named?, hkind]))
        exact fun target target' htarget => hsearch target target' name htarget
      | _ => exact .none

theorem findExport (h : Program.Alike r p p') (hops : Nat) :
    SearchAlike r (p.findExport space hops) (p'.findExport space hops) := by
  have hnone : SearchAlike r (fun _ _ => none) fun _ _ => none := fun _ _ _ _ => .none
  induction hops using Nat.strongRecOn with
  | ind hops ih =>
    match hops with
    | 0 => exact hnone
    | 1 => exact h.exportStep hnone hnone
    | hops + 2 => exact h.exportStep (ih (hops + 1) (by omega)) (ih hops (by omega))

theorem bindsWhole_eq (h : Program.Alike r p p') {id id' : NodeId} (hid : r id id') (name : String) :
    p.bindsWhole name id = p'.bindsWhole name id' := by
  obtain ⟨kind, kind', hkind, hkind', halike⟩ := h.kind? hid
  unfold bindsWhole
  rw [hkind, hkind']
  cases halike <;> rfl

theorem symbol (h : Program.Alike r p p') {scope scope' : NodeId} (name : String)
    (hscope : r scope scope') :
    Option.Rel r (p.symbol scope name space) (p'.symbol scope' name space) := by
  apply optionRel_bind (h.fileOf? hscope)
  intro file file' hfile
  split
  · exact h.fileSymbol (h.findExport _) hfile name
  · next head rest _ =>
    have hfound := optionRel_find? (h.statements hfile) fun id id' hid => h.bindsWhole_eq hid.rel head
    refine optionRel_bind (optionRel_and hfound fun id hid => kind?_of_bindsWhole
      (List.find?_some hid)) ?_
    rintro id id' ⟨hid, localName, imported, hkind⟩
    have hmodule := h.bindingModule hid hkind
    generalize (p.importOf? id).bind _ = x, (p'.importOf? id').bind _ = x' at hmodule ⊢
    cases hmodule with
    | none => exact .some hid.rel
    | some htarget =>
      simp only
      split
      · exact .none
      · exact h.findExport _ _ _ rest htarget

theorem defaultExport (h : Program.Alike r p p') {path path' : Path}
    (hpath : Option.Rel r (p.fileNode? path) (p'.fileNode? path')) :
    Option.Rel r (p.defaultExport path) (p'.defaultExport path') :=
  optionRel_bind hpath fun _ _ hfile => h.findExport _ _ _ "default" hfile

theorem callSignature (h : Program.Alike r p p') {scope scope' : NodeId} (hscope : r scope scope')
    {call call' : Expr} (hcall : Expr.Alike r call call') :
    Option.Rel (CallSignature.Alike r) (p.callSignature scope call)
      (p'.callSignature scope' call') := by
  cases hcall with
  | call hcallee _ =>
    cases hcallee with
    | ident name =>
      apply optionRel_bind (h.symbol name hscope)
      intro declared declared' hdeclared
      obtain ⟨kind, kind', hkind, hkind', halike⟩ := h.kind? hdeclared
      simp only [hkind, hkind', Option.bind_eq_bind, Option.bind_some]
      cases halike with
      | function _ _ hparams => exact .some ⟨hdeclared, hparams⟩
      | var _ _ _ hvalue =>
        cases hvalue with
        | none => exact .none
        | some hvalue =>
          cases hvalue with
          | function hfunction =>
            obtain ⟨kind, kind', hkind, hkind', halike⟩ := h.kind? hfunction
            simp only [hkind, hkind', Option.bind_some]
            cases halike with
            | function _ _ hparams => exact .some ⟨hfunction, hparams⟩
            | _ => exact .none
          | _ => exact .none
      | _ => exact .none
    | _ => exact .none
  | _ => exact .none

end Program.Alike

end ApiShapes
