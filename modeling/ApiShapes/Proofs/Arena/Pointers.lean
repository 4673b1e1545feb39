import ApiShapes.Proofs.Arena.Lowering
import Mathlib.Logic.Relation

/-!
# Where the pointers of a node lead

* `Pointer` : a node that is named within another one, and what it has to be there;
* `NodeKind.pointers` : everything a declaration points at: its statements, members and parameters, and
  the object types and functions of its type expressions and expressions, at any depth;
* `Arena.Points` : the node is there, stands below the one that points at it, and is what it has to be;
* `Arena.Sound` : so it is with all pointers of all nodes;
* `Arena.Sound.push`, `Arena.Sound.fill` : what keeps an arena sound.

A node that is reserved but not filled in points nowhere, and can be pointed at only as a node that is
listed. So an arena is sound at all times, also while a phrase is lowered half way.
-/

namespace ApiShapes

/-! ## Pointers -/

/-- What a node is for the one that points at it. -/
inductive Role where
  /-- a statement, a member or a parameter -/
  | listed
  /-- an object type -/
  | object
  /-- a function expression -/
  | function
  deriving DecidableEq

/-- A node of this kind can be in the role. -/
def Role.Fits : Role → NodeKind → Prop
  | .listed, _ => True
  | .object, kind => ∃ members, kind = .typeLiteral members
  | .function, kind => ∃ name params exported, kind = .function name params exported

/-- A node that another one points at. -/
structure Pointer where
  role : Role
  node : NodeId

mutual

/-- The object types within a type expression. -/
def TypeExpr.pointers : TypeExpr → List Pointer
  | .reference _ args => allPointers args
  | .array element => element.pointers
  | .union members => allPointers members
  | .intersection members => allPointers members
  | .object node => [⟨.object, node⟩]
  | .keyword _ | .literal _ | .function | .unsupported _ => []

def TypeExpr.allPointers : List TypeExpr → List Pointer
  | [] => []
  | type :: rest => type.pointers ++ allPointers rest

end

mutual

/-- The functions within an expression. -/
def Expr.pointers : Expr → List Pointer
  | .call callee args => callee.pointers ++ allPointers args
  | .object properties => propertyPointers properties
  | .function node => [⟨.function, node⟩]
  | .ident _ | .other => []

def Expr.allPointers : List Expr → List Pointer
  | [] => []
  | value :: rest => value.pointers ++ allPointers rest

def Expr.propertyPointers : List ObjectProperty → List Pointer
  | [] => []
  | ⟨_, value⟩ :: rest => value.pointers ++ propertyPointers rest

end

def TypeExpr.pointers? (type : Option TypeExpr) : List Pointer := (type.map pointers).getD []

def Expr.pointers? (value : Option Expr) : List Pointer := (value.map pointers).getD []

def TypeParamOf.pointers (params : List TypeParam) : List Pointer :=
  params.flatMap fun param => TypeExpr.pointers? param.default

def NodeId.pointers (ids : List NodeId) : List Pointer := ids.map (⟨.listed, ·⟩)

/-- Everything that a declaration points at. -/
def NodeKind.pointers : NodeKind → List Pointer
  | .sourceFile _ statements => NodeId.pointers statements
  | .typeAlias _ params type _ => TypeParamOf.pointers params ++ type.pointers
  | .interface _ params bases members _ =>
    TypeParamOf.pointers params ++ TypeExpr.allPointers bases ++ NodeId.pointers members
  | .typeLiteral members => NodeId.pointers members
  | .property _ _ type => TypeExpr.pointers? type
  | .function _ params _ => NodeId.pointers params
  | .parameter _ type => TypeExpr.pointers? type
  | .var _ type value _ => TypeExpr.pointers? type ++ Expr.pointers? value
  | .exportDefault value => value.pointers
  | .imports _ | .binding .. | .reExport .. | .exportAll _ | .method _ | .otherMember => []

theorem TypeExpr.allPointers_eq (types : List TypeExpr) :
    allPointers types = types.flatMap pointers := by
  induction types with
  | nil => rfl
  | cons type rest ih => rw [allPointers, ih, List.flatMap_cons]

/-- A declaration points at what its written type points at. -/
theorem NodeKind.pointers_of_writtenType? {kind : NodeKind} {type : TypeExpr}
    (h : kind.writtenType? = some type) : type.pointers ⊆ kind.pointers := by
  unfold writtenType? at h
  split at h <;> try cases h
  all_goals simp [pointers, TypeExpr.pointers?]

namespace Arena

variable {a b : Arena} {owner id : NodeId} {pointer : Pointer} {kind : NodeKind}

/-- The way up from `id` passes through `owner`. -/
def Below (a : Arena) (owner id : NodeId) : Prop :=
  Relation.TransGen (fun upper lower => a.parent? lower = some upper) owner id

/-- The pointer leads to a node below `owner` that is what it has to be. -/
structure Points (a : Arena) (owner : NodeId) (pointer : Pointer) : Prop where
  below : a.Below owner pointer.node
  fits : ∃ kind, a.kind? pointer.node = some kind ∧ pointer.role.Fits kind

/-- All pointers of all nodes lead to nodes below them that are what they have to be. -/
def Sound (a : Arena) : Prop :=
  ∀ owner kind, a.kind? owner = some kind → ∀ pointer ∈ kind.pointers, a.Points owner pointer

theorem sound_empty : Sound {} := by
  intro owner kind h
  simp [kind?, get?] at h

/-! ## Growth -/

theorem Grows.parent? (h : Grows a b) {parent : NodeId} (hid : a.parent? id = some parent) :
    b.parent? id = some parent := by
  obtain ⟨node, hnode, hparent⟩ := Option.bind_eq_some_iff.1 hid
  rw [Arena.parent?, h.get? hnode]
  exact hparent

theorem Below.grows (h : a.Below owner id) (hab : Grows a b) : b.Below owner id :=
  Relation.TransGen.mono (fun _ _ => hab.parent?) _ _ h

theorem Points.grows (h : a.Points owner pointer) (hab : Grows a b) : b.Points owner pointer := by
  obtain ⟨kind, hkind, hfits⟩ := h.fits
  exact ⟨h.below.grows hab, kind, hab.kind? hkind, hfits⟩

/-- Pointers that held before the arena grew hold along with others that hold now. -/
theorem Grows.points_append (h : Grows a b) {held more : List Pointer}
    (hheld : ∀ pointer ∈ held, a.Points owner pointer)
    (hmore : ∀ pointer ∈ more, b.Points owner pointer) :
    ∀ pointer ∈ held ++ more, b.Points owner pointer := by
  intro pointer hpointer
  rcases List.mem_append.1 hpointer with hpointer | hpointer
  · exact (hheld pointer hpointer).grows h
  · exact hmore pointer hpointer

/-- What a lower node points at stands below the upper one, too. -/
theorem Below.points (h : a.Below owner id) (hid : a.Points id pointer) : a.Points owner pointer :=
  ⟨h.trans hid.below, hid.fits⟩

theorem below_push (a : Arena) (owner : NodeId) (kind : NodeKind) :
    (a.push ⟨some owner, kind⟩).Below owner a.next := by
  refine .single ?_
  simp [parent?]

theorem points_push {role : Role} (hfits : role.Fits kind) :
    (a.push ⟨some owner, kind⟩).Points owner ⟨role, a.next⟩ :=
  ⟨a.below_push owner kind, kind, a.kind?_push_next _, hfits⟩

/-- A node that points nowhere may be added anywhere. -/
theorem Sound.push (h : a.Sound) {parent : Option NodeId} (hleaf : kind.pointers = []) :
    (a.push ⟨parent, kind⟩).Sound := by
  intro id found hid pointer hpointer
  by_cases hnew : id = a.next
  · subst hnew
    rw [kind?_push_next] at hid
    obtain rfl := Option.some.inj hid
    rw [hleaf] at hpointer
    cases hpointer
  · have hlt : id.index < a.size := by
      have hsize := lt_size_of_kind? hid
      have hne : id.index ≠ a.size := fun heq => hnew (congrArg NodeId.mk heq)
      rw [size_push] at hsize
      omega
    have hgrows := a.grows_push ⟨parent, kind⟩
    rw [hgrows.kind?_eq hlt] at hid
    exact (h id found hid pointer hpointer).grows hgrows

/-! ## Nodes that are filled in -/

/-- There is a node at `id` that can only be listed. -/
def Open (a : Arena) (id : NodeId) : Prop :=
  ∃ kind, a.kind? id = some kind ∧ ∀ role : Role, role.Fits kind → role = .listed

theorem Open.grows (h : a.Open id) (hab : Grows a b) : b.Open id :=
  have ⟨kind, hkind, hlisted⟩ := h
  ⟨kind, hab.kind? hkind, hlisted⟩

theorem open_push {parent : Option NodeId} (hlisted : ∀ role : Role, role.Fits kind → role = .listed) :
    (a.push ⟨parent, kind⟩).Open a.next :=
  ⟨kind, a.kind?_push_next _, hlisted⟩

theorem parent?_fill (a : Arena) (id other : NodeId) (kind : NodeKind) :
    (a.fill id kind).parent? other = a.parent? other := by
  by_cases h : other = id
  · rw [h, parent?, get?_fill_self, parent?, Option.bind_map]
    rfl
  · rw [parent?, get?_fill_of_ne kind h, parent?]

theorem below_fill (a : Arena) (id : NodeId) (kind : NodeKind) :
    (a.fill id kind).Below = a.Below := by
  funext upper lower
  simp only [Below, parent?_fill]

theorem kind?_fill_self (h : a.kind? id = some kind) (kind' : NodeKind) :
    (a.fill id kind').kind? id = some kind' := by
  obtain ⟨node, hnode, -⟩ := Option.map_eq_some_iff.1 h
  rw [kind?, get?_fill_self, hnode]
  rfl

/-- Filling in a node takes nothing from the pointers that lead there. -/
theorem Points.fill (h : a.Points owner pointer) (hid : a.Open id) (kind : NodeKind) :
    (a.fill id kind).Points owner pointer := by
  refine ⟨by rw [below_fill]; exact h.below, ?_⟩
  obtain ⟨found, hfound, hfits⟩ := h.fits
  by_cases heq : pointer.node = id
  · obtain ⟨before, hbefore, hlisted⟩ := hid
    rw [heq, hbefore] at hfound
    obtain rfl := Option.some.inj hfound
    refine ⟨kind, by rw [heq]; exact kind?_fill_self hbefore kind, ?_⟩
    rw [hlisted _ hfits]
    trivial
  · exact ⟨found, by rw [kind?, get?_fill_of_ne kind heq]; exact hfound, hfits⟩

theorem Sound.fill (h : a.Sound) (hid : a.Open id)
    (hkind : ∀ pointer ∈ kind.pointers, a.Points id pointer) : (a.fill id kind).Sound := by
  intro other found hfound pointer hpointer
  refine Points.fill ?_ hid kind
  by_cases heq : other = id
  · obtain ⟨before, hbefore, -⟩ := hid
    rw [heq, kind?_fill_self hbefore] at hfound
    obtain rfl := Option.some.inj hfound
    rw [heq]
    exact hkind pointer hpointer
  · rw [kind?, get?_fill_of_ne kind heq] at hfound
    exact h other found hfound pointer hpointer

theorem Grows.fill (h : Grows a b) (hid : id.index < a.size) (kind : NodeKind) :
    Grows (a.fill id kind) (b.fill id kind) := by
  refine ⟨by simpa using h.size_le, fun other hother => ?_⟩
  rw [size_fill] at hother
  by_cases heq : other = id
  · rw [heq, get?_fill_self, get?_fill_self, h.get?_eq id hid]
  · rw [get?_fill_of_ne kind heq, get?_fill_of_ne kind heq, h.get?_eq other hother]

theorem fill_push_next (a : Arena) (parent : Option NodeId) (kind kind' : NodeKind) :
    (a.push ⟨parent, kind⟩).fill a.next kind' = a.push ⟨parent, kind'⟩ := by
  simp only [fill, push, next, size]
  congr 1
  apply Array.ext
  · simp
  · intro i hi hi'
    simp only [Array.getElem_modify, Array.getElem_push]
    grind

end Arena

end ApiShapes
