import ApiShapes.Proofs.Arena.Pointers
import ApiShapes.Proofs.Checker.Everywhere
import ApiShapes.Proofs.Program.Symbols
import ApiShapes.Proofs.Results

/-!
# What holds of all types that a program produces

* `Program.ObjectsAre Q` : what declarations name as an object type has `Q`;
* `Program.Keeps Q P` : every form of type has `P` if its parts have it, where an object type is a node
  with `Q`, and a type of another module is named by an import binding or an export from there;
* `Program.Produces type` : queries give the type, starting from the empty environment;
* `Keeps.everywhere_of_produces` : then `P` holds everywhere in the type.
-/

namespace ApiShapes
open CheckedType (Everywhere Preserved)

namespace Program

variable {p : Program} {Q : NodeId → Prop} {P : CheckedType → Prop}

/-- The node is an import binding or an export from another module. -/
def IsForeign (p : Program) (id : NodeId) : Prop :=
  (∃ localName imported, p.arena.kind? id = some (.binding localName imported)) ∨
    ∃ specifier localName exported,
      p.arena.kind? id = some (.reExport (some specifier) localName exported)

def HasObjects (Q : NodeId → Prop) (written : TypeExpr) : Prop :=
  ∀ pointer ∈ written.pointers, pointer.role = .object → Q pointer.node

/-- Whatever is an object type has `Q`: what declarations point at as one, and the declarations that are
object types themselves. -/
structure ObjectsAre (p : Program) (Q : NodeId → Prop) : Prop where
  pointed : ∀ id kind, p.arena.kind? id = some kind →
    ∀ pointer ∈ kind.pointers, pointer.role = .object → Q pointer.node
  interface : ∀ id name params bases members exported,
    p.arena.kind? id = some (.interface name params bases members exported) → Q id
  typeLiteral : ∀ id members, p.arena.kind? id = some (.typeLiteral members) → Q id

/-- What each form of type owes to its parts, and an object type to its node. -/
structure Keeps (p : Program) (Q : NodeId → Prop) (P : CheckedType → Prop) : Prop
    extends Preserved Q P where
  objects : p.ObjectsAre Q
  external : ∀ (origin : NodeId) (name : String) (args : List CheckedType), p.IsForeign origin →
    (∀ arg ∈ args, P arg) → P (.external origin name args)

namespace ObjectsAre

variable {id : NodeId} {kind : NodeKind}

theorem hasObjects (h : p.ObjectsAre Q) (hid : p.arena.kind? id = some kind) {written : TypeExpr}
    (hwritten : written.pointers ⊆ kind.pointers) : HasObjects Q written :=
  fun pointer hpointer => h.pointed id kind hid pointer (hwritten hpointer)

/-- The defaults of a declaration's type parameters are among what it points at. -/
theorem hasObjects_default (h : p.ObjectsAre Q) (hid : p.arena.kind? id = some kind)
    {params : List TypeParam} (hparams : TypeParamOf.pointers params ⊆ kind.pointers) :
    ∀ param ∈ params, ∀ written, param.default = some written → HasObjects Q written := by
  intro param hparam written hdefault
  refine h.hasObjects hid fun pointer hpointer => hparams (List.mem_flatMap.2 ⟨param, hparam, ?_⟩)
  rw [hdefault]
  exact hpointer

/-- So are the bases that it lists. -/
theorem hasObjects_base (h : p.ObjectsAre Q) {object : Instance} {members : List NodeId}
    {bases : List TypeExpr} (hlisted : p.listed object = .ok (members, bases)) {base : TypeExpr}
    (hbase : base ∈ bases) : HasObjects Q base := by
  unfold listed at hlisted
  split at hlisted
  · cases hlisted
  · cases hlisted
    cases hbase
  · next hkind =>
    cases hlisted
    refine h.hasObjects hkind fun pointer hpointer => ?_
    have hmem : pointer ∈ TypeExpr.allPointers bases := by
      rw [TypeExpr.allPointers_eq]
      exact List.mem_flatMap.2 ⟨base, hbase, hpointer⟩
    simp [NodeKind.pointers, hmem]
  · cases hlisted

end ObjectsAre

namespace Keeps

theorem everywhere_external (hP : p.Keeps Q P) {origin : NodeId} {name : String}
    {args : List CheckedType} (horigin : p.IsForeign origin)
    (h : ∀ arg ∈ args, Everywhere P arg) : Everywhere P (.external origin name args) :=
  .intro (hP.external origin name args horigin fun arg harg => (h arg harg).here) h

/-- Expanding a declaration keeps what holds everywhere in the arguments. -/
def Expands (p : Program) (P : CheckedType → Prop) (instantiate : Instantiate) : Prop :=
  ∀ declared name args type, p.IsMeant declared → (∀ arg ∈ args, Everywhere P arg) →
    instantiate declared name args = .ok type → Everywhere P type

variable {instantiate : Instantiate} {scope : NodeId} {env : Env}

mutual

theorem resolveWith (hP : p.Keeps Q P) (hinst : Expands p P instantiate)
    (henv : ∀ type ∈ env.types, Everywhere P type) : ∀ (written : TypeExpr) {type : CheckedType},
    HasObjects Q written → p.resolveWith instantiate scope env written = .ok type → Everywhere P type
  | .keyword word, _, _, h => by
    cases h
    exact .leaf (hP.keyword word) rfl
  | .literal value, _, _, h => by
    cases h
    exact .leaf (hP.literal value) rfl
  | .array element, type, hobjects, h => by
    obtain ⟨element', helement, h⟩ := bind_eq_ok.1 h
    cases h
    exact hP.everywhere_array (resolveWith hP hinst henv element hobjects helement)
  | .union members, type, hobjects, h => by
    obtain ⟨members', hmembers, h⟩ := bind_eq_ok.1 h
    cases h
    exact hP.everywhere_union (resolveAll hP hinst henv members hobjects hmembers)
  | .intersection members, type, hobjects, h => by
    obtain ⟨members', hmembers, h⟩ := bind_eq_ok.1 h
    cases h
    exact hP.everywhere_intersection (resolveAll hP hinst henv members hobjects hmembers)
  | .object literal, _, hobjects, h => by
    cases h
    exact hP.everywhere_object (hobjects ⟨.object, literal⟩ (List.mem_singleton.2 rfl) rfl) henv
  | .function, _, _, h => by
    cases h
    exact .leaf hP.function rfl
  | .unsupported form, _, _, h => by
    cases h
    exact .leaf (hP.unsupported form) rfl
  | .reference name args, type, hobjects, h => by
    unfold Program.resolveWith at h
    split at h
    · next bound hbound =>
      cases h
      split at hbound
      · exact henv _ (Env.mem_types_of_lookup hbound)
      · cases hbound
    · obtain ⟨args', hargs, h⟩ := bind_eq_ok.1 h
      have hargs' := resolveAll hP hinst henv args hobjects hargs
      split at h
      · next declared hdeclared =>
        exact hinst declared name args' type (symbol_isMeant hdeclared) hargs' h
      · cases h
        exact hP.everywhere_undeclared hargs'

theorem resolveAll (hP : p.Keeps Q P) (hinst : Expands p P instantiate)
    (henv : ∀ type ∈ env.types, Everywhere P type) :
    ∀ (written : List TypeExpr) {types : List CheckedType},
    (∀ pointer ∈ TypeExpr.allPointers written, pointer.role = .object → Q pointer.node) →
      p.resolveAll instantiate scope env written = .ok types → ∀ type ∈ types, Everywhere P type
  | [], _, _, h => by
    cases h
    simp
  | first :: rest, _, hobjects, h => by
    obtain ⟨type, htype, h⟩ := bind_eq_ok.1 h
    obtain ⟨types, htypes, h⟩ := bind_eq_ok.1 h
    cases h
    have hfirst := resolveWith hP hinst henv first
      (fun pointer hpointer => hobjects pointer (List.mem_append_left _ hpointer)) htype
    have hrest := resolveAll hP hinst henv rest
      (fun pointer hpointer => hobjects pointer (List.mem_append_right _ hpointer)) htypes
    exact List.forall_mem_cons.2 ⟨hfirst, hrest⟩

end

theorem bindParams {default : Env → TypeExpr → Except CheckError CheckedType}
    (hP : p.Keeps Q P)
    (hdefault : ∀ env written type, (∀ type ∈ Env.types env, Everywhere P type) →
      HasObjects Q written → default env written = .ok type → Everywhere P type)
    (params : List TypeParam)
    (hparams : ∀ param ∈ params, ∀ written, param.default = some written → HasObjects Q written)
    (args : List CheckedType) (hargs : ∀ arg ∈ args, Everywhere P arg) (env env' : Env)
    (henv : ∀ type ∈ env.types, Everywhere P type)
    (h : Program.bindParams default params args env = .ok env') :
    ∀ type ∈ env'.types, Everywhere P type := by
  induction params generalizing args env with
  | nil =>
    cases h
    exact henv
  | cons param rest ih =>
    obtain ⟨hparam, hrest⟩ := List.forall_mem_cons.1 hparams
    cases args with
    | cons arg args =>
      obtain ⟨harg, hargs⟩ := List.forall_mem_cons.1 hargs
      exact ih hrest args hargs _ (CheckedType.everywhere_types_append henv harg) h
    | nil =>
      rw [Program.bindParams] at h
      split at h
      · next written hwritten =>
        obtain ⟨type, htype, h⟩ := bind_eq_ok.1 h
        have hbound := hdefault env written type henv (hparam written hwritten) htype
        exact ih hrest [] hargs _ (CheckedType.everywhere_types_append henv hbound) h
      · have hbound : Everywhere P (.keyword .unknown) := .leaf (hP.keyword .unknown) rfl
        exact ih hrest [] hargs _ (CheckedType.everywhere_types_append henv hbound) h

theorem expands_instantiate (hP : p.Keeps Q P) (depth : Nat) :
    Expands p P (p.instantiate depth) := by
  induction depth with
  | zero =>
    intro declared name args type _ _ h
    cases h
  | succ depth ih =>
    intro declared name args type hmeant hargs h
    have hinner : ∀ (env : Env) (written : TypeExpr) (type : CheckedType),
        (∀ type ∈ env.types, Everywhere P type) → HasObjects Q written →
          p.resolveWith (p.instantiate depth) declared env written = .ok type → Everywhere P type :=
      fun env written type henv hobjects h => hP.resolveWith ih henv written hobjects h
    have hbind := fun params hparams env' =>
      hP.bindParams hinner params hparams args hargs [] env' (by simp [Env.types])
    unfold Program.instantiate at h
    simp only at h
    split at h
    · cases h
    · next hkind =>
      obtain ⟨env, henv, h⟩ := bind_eq_ok.1 h
      have hparams := hP.objects.hasObjects_default hkind (List.subset_append_left _ _)
      exact hinner env _ type (hbind _ hparams env henv)
        (hP.objects.hasObjects hkind (List.subset_append_right _ _)) h
    · next hkind =>
      obtain ⟨env, henv, h⟩ := bind_eq_ok.1 h
      cases h
      have hparams := hP.objects.hasObjects_default hkind
        fun _ h => List.mem_append_left _ (List.mem_append_left _ h)
      exact hP.everywhere_object (hP.objects.interface _ _ _ _ _ _ hkind) (hbind _ hparams env henv)
    · next localName imported hkind =>
      cases h
      exact hP.everywhere_external (Or.inl ⟨localName, imported, hkind⟩) hargs
    · next specifier localName exported hkind =>
      cases h
      cases specifier with
      | none =>
        obtain ⟨kind, hkind', hmeant⟩ := hmeant
        rw [hkind] at hkind'
        exact absurd (Option.some.inj hkind').symm (hmeant localName exported)
      | some specifier =>
        exact hP.everywhere_external (Or.inr ⟨specifier, localName, exported, hkind⟩) hargs
    · cases h
      exact .leaf (hP.unsupported _) rfl

theorem resolve (hP : p.Keeps Q P) (henv : ∀ type ∈ env.types, Everywhere P type)
    {written : TypeExpr} (hobjects : HasObjects Q written) {type : CheckedType}
    (h : p.resolve scope env written = .ok type) : Everywhere P type :=
  hP.resolveWith (hP.expands_instantiate _) henv written hobjects h

theorem typeAt (hP : p.Keeps Q P) (henv : ∀ type ∈ env.types, Everywhere P type) {id : NodeId}
    {type : CheckedType} (h : p.typeAt id env = .ok type) : Everywhere P type := by
  unfold Program.typeAt at h
  split at h
  · cases h
  · next hkind =>
    cases h
    exact hP.everywhere_object (hP.objects.interface _ _ _ _ _ _ hkind) henv
  · next hkind =>
    cases h
    exact hP.everywhere_object (hP.objects.typeLiteral _ _ hkind) henv
  · next kind _ _ hkind =>
    split at h
    · next written hwritten =>
      have hpointers := NodeKind.pointers_of_writtenType? hwritten
      exact hP.resolve henv (hP.objects.hasObjects hkind hpointers) h
    · cases h

end Keeps

/-! ## Members -/

/-- What holds of the members that an object type lists itself holds of all its members, if what is
assumed of the object type holds of its bases, too. -/
theorem membersWithin_induction (R : Instance → Prop) (M : Member → Prop)
    (hown : ∀ object members bases, R object → p.listed object = .ok (members, bases) →
      ∀ id ∈ members, M ⟨p.memberName id, id, object.env⟩)
    (hbase : ∀ object members bases base node env, R object →
      p.listed object = .ok (members, bases) → base ∈ bases →
        p.resolve object.node object.env base = .ok (.object node env) → R ⟨node, env⟩)
    (depth : Nat) (object : Instance) (found members : List Member) (hobject : R object)
    (hfound : ∀ member ∈ found, M member)
    (h : p.membersWithin depth object found = .ok members) : ∀ member ∈ members, M member := by
  have hstart : ∀ object found listed bases, R object → (∀ member ∈ found, M member) →
      p.listed object = .ok (listed, bases) →
        ∀ member ∈ found ++ p.freshMembers found object.env listed, M member := by
    intro object found listed bases hobject hfound hlisted member hmember
    rcases List.mem_append.1 hmember with hmember | hmember
    · exact hfound member hmember
    · obtain ⟨id, hid, rfl⟩ := List.mem_map.1 (List.mem_filter.1 hmember).1
      exact hown object listed bases hobject hlisted id hid
  induction depth generalizing object found members with
  | zero =>
    obtain ⟨⟨listed, bases⟩, hlisted, h⟩ := bind_eq_ok.1 h
    cases h
    exact hstart object found listed bases hobject hfound hlisted
  | succ depth ih =>
    obtain ⟨⟨listed, bases⟩, hlisted, h⟩ := bind_eq_ok.1 h
    refine @foldlM_induction _ _ _ _ _ _ _ (fun members => ∀ member ∈ members, M member) ?_ ?_ h
    · exact hstart object found listed bases hobject hfound hlisted
    · intro base hmem before after hbefore hstep
      obtain ⟨type, htype, hstep⟩ := bind_eq_ok.1 hstep
      split at hstep
      · next node env =>
        have hnext := hbase object listed bases base node env hobject hlisted hmem htype
        exact ih ⟨node, env⟩ before after hnext hbefore hstep
      · cases hstep
        exact hbefore

theorem Keeps.members (hP : p.Keeps Q P) {object : Instance} {members : List Member}
    (hobject : ∀ type ∈ object.env.types, Everywhere P type) (h : p.members object = .ok members) :
    ∀ member ∈ members, ∀ type ∈ member.env.types, Everywhere P type := by
  refine membersWithin_induction (fun object => ∀ type ∈ object.env.types, Everywhere P type)
    (fun member => ∀ type ∈ member.env.types, Everywhere P type) (fun _ _ _ hobject _ _ _ => hobject)
    ?_ _ object [] members hobject (by simp) h
  intro object members bases base node env hobject hlisted hbase htype
  have heverywhere := hP.resolve hobject (hP.objects.hasObjects_base hlisted hbase) htype
  exact fun type htype => heverywhere.part htype

/-! ## Types that a program produces -/

/-- Queries give the type: as what is written at a node, within another type, or as what the type
parameters around a member stand for. They start from the empty environment. -/
inductive Produces (p : Program) : CheckedType → Prop
  | typeAt {id : NodeId} {env : Env} {type : CheckedType}
      (henv : ∀ type ∈ env.types, Produces p type) (h : p.typeAt id env = .ok type) : Produces p type
  | part {type part : CheckedType} (h : Produces p type) (hpart : part ∈ type.parts) : Produces p part
  | member {object : Instance} {members : List Member} {member : Member} {type : CheckedType}
      (hobject : ∀ type ∈ object.env.types, Produces p type) (h : p.members object = .ok members)
      (hmember : member ∈ members) (htype : type ∈ member.env.types) : Produces p type

/-- What each form of type takes over from its parts holds of all types that the program produces. -/
theorem Keeps.everywhere_of_produces (hP : p.Keeps Q P) {type : CheckedType} (h : p.Produces type) :
    Everywhere P type := by
  induction h with
  | typeAt _ h ih => exact hP.typeAt ih h
  | part _ hpart ih => exact ih.part hpart
  | member _ h hmember htype ih => exact hP.members ih h _ hmember _ htype

end Program

end ApiShapes
