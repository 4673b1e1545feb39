import ApiShapes.Arena.Lower

/-!
# What lowering adds to an arena

* `Arena.Grows a b` : all nodes of `a` are nodes of `b`, at the same places;
* `NodeKind.FitsBelow` : which kinds of nodes stand below another one: a module never does, and a
  binding stands below an import;
* `Arena.GrowsBelow owner a b` : besides, each new node stands below `owner` or below an earlier new
  node, and fits there;
* `Arena.FilledIn K id a b` : the same below the node `id`, which is itself filled in with a kind of
  property `K`.

A node is reserved before those below it and filled in after them. What it becomes does not matter to
the nodes below: only bindings care, and they stand below imports, which are never filled in.
-/

namespace ApiShapes

/-! ## Operations on arenas -/

namespace Arena

variable {a b c : Arena} {id : NodeId}

@[simp] theorem size_push (a : Arena) (node : Node) : (a.push node).size = a.size + 1 :=
  Array.size_push node

@[simp] theorem size_fill (a : Arena) (id : NodeId) (kind : NodeKind) :
    (a.fill id kind).size = a.size :=
  Array.size_modify

theorem get?_push_of_lt (node : Node) (h : id.index < a.size) :
    (a.push node).get? id = a.get? id :=
  Array.getElem?_push_lt h |>.trans (Array.getElem?_eq_getElem h).symm

@[simp] theorem get?_push_next (a : Arena) (node : Node) : (a.push node).get? a.next = some node :=
  Array.getElem?_push_size

@[simp] theorem kind?_push_next (a : Arena) (node : Node) :
    (a.push node).kind? a.next = some node.kind := by
  simp [kind?]

theorem get?_fill_of_ne {other : NodeId} (kind : NodeKind) (h : other ≠ id) :
    (a.fill id kind).get? other = a.get? other := by
  have hi : id.index ≠ other.index := fun hi => h (by cases other; cases id; simp_all)
  simp [get?, fill, Array.getElem?_modify, hi]

theorem get?_fill_self (a : Arena) (id : NodeId) (kind : NodeKind) :
    (a.fill id kind).get? id = (a.get? id).map fun node => { node with kind } := by
  simp [get?, fill, Array.getElem?_modify]

theorem lt_size_of_get? {node : Node} (h : a.get? id = some node) : id.index < a.size :=
  (Array.getElem?_eq_some_iff.1 h).1

theorem lt_size_of_kind? {kind : NodeKind} (h : a.kind? id = some kind) : id.index < a.size := by
  obtain ⟨node, h, -⟩ := Option.map_eq_some_iff.1 h
  exact lt_size_of_get? h

theorem findUp_eq_some {α : Type} {f : NodeId → NodeKind → Option α} {node : Node} {found : α}
    (hid : a.get? id = some node) (hf : f id node.kind = some found) : a.findUp f id = some found := by
  unfold findUp
  simp [hid, hf]

theorem findUp_eq_parent {α : Type} {f : NodeId → NodeKind → Option α} {parent : NodeId}
    {kind : NodeKind} (hid : a.get? id = some ⟨some parent, kind⟩) (hlt : parent.index < id.index)
    (hf : f id kind = none) : a.findUp f id = a.findUp f parent := by
  rw [findUp]
  simp [hid, hf, hlt]

/-- All nodes of `a` are nodes of `b`, at the same places. -/
structure Grows (a b : Arena) : Prop where
  size_le : a.size ≤ b.size
  get?_eq : ∀ id : NodeId, id.index < a.size → b.get? id = a.get? id

theorem Grows.refl (a : Arena) : Grows a a := ⟨Nat.le_refl _, fun _ _ => rfl⟩

theorem Grows.trans (h : Grows a b) (h' : Grows b c) : Grows a c :=
  ⟨Nat.le_trans h.size_le h'.size_le, fun id hid =>
    (h'.get?_eq id (Nat.lt_of_lt_of_le hid h.size_le)).trans (h.get?_eq id hid)⟩

theorem Grows.get? (h : Grows a b) {node : Node} (hid : a.get? id = some node) :
    b.get? id = some node :=
  (h.get?_eq id (lt_size_of_get? hid)).trans hid

theorem Grows.kind?_eq (h : Grows a b) (hid : id.index < a.size) : b.kind? id = a.kind? id :=
  congrArg (Option.map Node.kind) (h.get?_eq id hid)

theorem Grows.kind? (h : Grows a b) {kind : NodeKind} (hid : a.kind? id = some kind) :
    b.kind? id = some kind :=
  (h.kind?_eq (lt_size_of_kind? hid)).trans hid

theorem Grows.statements_eq (h : Grows a b) (hid : id.index < a.size) :
    b.statements id = a.statements id := by
  unfold statements
  rw [h.kind?_eq hid]

theorem grows_push (a : Arena) (node : Node) : Grows a (a.push node) :=
  ⟨by simp, fun _ hid => get?_push_of_lt node hid⟩

end Arena

/-- A node of this kind may stand below one of kind `around`. -/
def NodeKind.FitsBelow (around : Option NodeKind) : NodeKind → Prop
  | .sourceFile .. => False
  | .binding .. => ∃ specifier, around = some (.imports specifier)
  | _ => True

/-- A node of this kind may stand below any other. -/
def NodeKind.FitsAnywhere (kind : NodeKind) : Prop := ∀ around, kind.FitsBelow around

/-- The node declares something: it is no module, and has no part in imports and re-exports. -/
def NodeKind.IsPlain : NodeKind → Prop
  | .sourceFile .. => False
  | .imports _ => False
  | .binding .. => False
  | .reExport .. => False
  | .exportAll _ => False
  | _ => True

theorem NodeKind.IsPlain.fitsAnywhere {kind : NodeKind} (h : kind.IsPlain) : kind.FitsAnywhere := by
  intro around
  cases kind <;> first | exact h.elim | trivial

theorem NodeKind.FitsBelow.anywhere {around kind : NodeKind} (h : kind.FitsBelow (some around))
    (hne : ∀ specifier, around ≠ .imports specifier) : kind.FitsAnywhere := by
  intro around'
  cases kind <;> simp_all [NodeKind.FitsBelow]

namespace Arena

variable {a b c : Arena} {id owner : NodeId}

/-- The node at `id` stands below an earlier one, either `owner` or one from `start` on, and fits
there. -/
def Placed (b : Arena) (owner : NodeId) (start : Nat) (id : NodeId) : Prop :=
  ∃ parent kind, b.get? id = some ⟨some parent, kind⟩ ∧ parent.index < id.index ∧
    (parent = owner ∨ start ≤ parent.index) ∧ kind.FitsBelow (b.kind? parent)

theorem Placed.grows {start : Nat} (h : Placed b owner start id) (hbc : Grows b c) :
    Placed c owner start id := by
  obtain ⟨parent, kind, hid, hlt, hparent, hfits⟩ := h
  refine ⟨parent, kind, hbc.get? hid, hlt, hparent, ?_⟩
  rwa [hbc.kind?_eq (Nat.lt_trans hlt (lt_size_of_get? hid))]

theorem Placed.mono {owner' : NodeId} {start start' : Nat} (h : Placed b owner' start' id)
    (howner : owner' = owner ∨ start ≤ owner'.index) (hstart : start ≤ start') :
    Placed b owner start id := by
  obtain ⟨parent, kind, hid, hlt, hparent, hfits⟩ := h
  refine ⟨parent, kind, hid, hlt, ?_, hfits⟩
  rcases hparent with rfl | hle
  · exact howner
  · exact Or.inr (Nat.le_trans hstart hle)

/-- The arena grows by nodes that stand below `owner`, directly or not. -/
structure GrowsBelow (owner : NodeId) (a b : Arena) : Prop where
  grows : Grows a b
  placed : ∀ id : NodeId, a.size ≤ id.index → id.index < b.size → b.Placed owner a.size id

theorem GrowsBelow.refl (owner : NodeId) (a : Arena) : GrowsBelow owner a a :=
  ⟨.refl a, fun _ hle hlt => absurd hlt (Nat.not_lt.2 hle)⟩

/-- The second growth may stand below a node that the first one added. -/
theorem GrowsBelow.trans {owner' : NodeId} (h : GrowsBelow owner a b) (h' : GrowsBelow owner' b c)
    (howner : owner' = owner ∨ a.size ≤ owner'.index) : GrowsBelow owner a c := by
  refine ⟨h.grows.trans h'.grows, fun id hle hlt => ?_⟩
  by_cases hid : id.index < b.size
  · exact (h.placed id hle hid).grows h'.grows
  · exact (h'.placed id (Nat.not_lt.1 hid) hlt).mono howner h.grows.size_le

theorem growsBelow_push (howner : owner.index < a.size) {kind : NodeKind}
    (hk : kind.FitsBelow (a.kind? owner)) : GrowsBelow owner a (a.push ⟨some owner, kind⟩) := by
  refine ⟨grows_push a _, fun id hle hlt => ?_⟩
  obtain rfl : id = a.next := by
    rw [size_push] at hlt
    exact congrArg NodeId.mk (by omega)
  refine ⟨owner, kind, get?_push_next a _, howner, Or.inl rfl, ?_⟩
  rwa [(grows_push a _).kind?_eq howner]

/-! ## Nodes that are filled in -/

def NoImport (a : Arena) (id : NodeId) : Prop :=
  ∃ kind, a.kind? id = some kind ∧ ∀ specifier, kind ≠ .imports specifier

theorem NoImport.lt_size (h : NoImport a id) : id.index < a.size :=
  have ⟨_, hid, _⟩ := h
  lt_size_of_kind? hid

theorem NoImport.grows (h : NoImport a id) (hab : Grows a b) : NoImport b id :=
  have ⟨kind, hid, hne⟩ := h
  ⟨kind, hab.kind? hid, hne⟩

variable {K : NodeKind → Prop}

/-- From `a` to `b` the node at `id` was filled in, and nodes were added below it. -/
structure FilledIn (K : NodeKind → Prop) (id : NodeId) (a b : Arena) : Prop where
  size_le : a.size ≤ b.size
  get?_eq : ∀ other : NodeId, other ≠ id → other.index < a.size → b.get? other = a.get? other
  filled : ∃ kind, b.get? id = (a.get? id).map (fun node => { node with kind }) ∧ K kind
  placed : ∀ other : NodeId, a.size ≤ other.index → other.index < b.size → b.Placed id a.size other

theorem filledIn_fill {kind : NodeKind} (hk : K kind) : FilledIn K id a (a.fill id kind) where
  size_le := by simp
  get?_eq _ hne _ := get?_fill_of_ne kind hne
  filled := ⟨kind, get?_fill_self a id kind, hk⟩
  placed _ hle hlt := absurd hlt (by simpa using hle)

/-- What was added before the node is filled in keeps its place: no binding stands right below it. -/
theorem GrowsBelow.filledIn (h : GrowsBelow id a b) (hid : NoImport a id) (h' : FilledIn K id b c) :
    FilledIn K id a c where
  size_le := Nat.le_trans h.grows.size_le h'.size_le
  get?_eq other hne hlt :=
    (h'.get?_eq other hne (Nat.lt_of_lt_of_le hlt h.grows.size_le)).trans (h.grows.get?_eq other hlt)
  filled := by
    rw [← h.grows.get?_eq id hid.lt_size]
    exact h'.filled
  placed other hle hlt := by
    have hsize := hid.lt_size
    by_cases hother : other.index < b.size
    · obtain ⟨parent, kind, hget, hplt, hparent, hfits⟩ := h.placed other hle hother
      have hne : other ≠ id := by rintro rfl; omega
      refine ⟨parent, kind, (h'.get?_eq other hne hother).trans hget, hplt, hparent, ?_⟩
      by_cases hp : parent = id
      · obtain ⟨around, haround, himports⟩ := hid.grows h.grows
        rw [hp, haround] at hfits
        exact hfits.anywhere himports _
      · rwa [Arena.kind?, h'.get?_eq parent hp (Nat.lt_trans hplt hother)]
    · exact (h'.placed other (Nat.not_lt.1 hother) hlt).mono (Or.inl rfl) h.grows.size_le

/-- A node that is reserved and then filled in. -/
theorem FilledIn.growsBelow (howner : owner.index < a.size) (hK : ∀ kind, K kind → kind.FitsAnywhere)
    (h : FilledIn K a.next (a.push ⟨some owner, .otherMember⟩) b) : GrowsBelow owner a b := by
  have hsize : (a.push ⟨some owner, .otherMember⟩).size = a.size + 1 := size_push a _
  have hold : ∀ id : NodeId, id.index < a.size → b.get? id = a.get? id := fun id hid => by
    have hne : id ≠ a.next := by rintro rfl; exact Nat.lt_irrefl _ hid
    rw [h.get?_eq id hne (by omega), get?_push_of_lt _ hid]
  refine ⟨⟨by have := h.size_le; omega, hold⟩, fun id hle hlt => ?_⟩
  by_cases hid : id.index = a.size
  · obtain rfl : id = a.next := congrArg NodeId.mk hid
    obtain ⟨kind, hget, hk⟩ := h.filled
    rw [get?_push_next] at hget
    exact ⟨owner, kind, hget, howner, Or.inl rfl, hK kind hk _⟩
  · exact (h.placed id (by omega) hlt).mono (Or.inr (Nat.le_refl a.size)) (by omega)

end Arena

end ApiShapes
