import ApiShapes.Proofs.Program.Produced
import Mathlib.Data.List.Basic
import Mathlib.Data.List.Forall2

/-!
# Unions are flat

* `CheckedType.IsFlat` : no member of the type is a union, if the type is one;
* `CheckedType.leaves` : what a type is a union of, with unions within unions taken apart;
* `Program.Produces.flat` : all types that a program produces are flat, and all types within them;
* `Program.resolveWith_union` : a union lists the leaves of its members, in order.
-/

namespace ApiShapes
open CheckedType (Everywhere)

namespace CheckedType

/-- The type is a union, be it empty. -/
def isUnion : CheckedType → Bool
  | union _ => true
  | _ => false

/-- If the type is a union, no member of it is one. -/
def IsFlat : CheckedType → Prop
  | union members => ∀ member ∈ members, member.isUnion = false
  | _ => True

mutual

/-- What a type is a union of: the leaves of its members, in order, or else the type alone. -/
def leaves : CheckedType → List CheckedType
  | union members => allLeaves members
  | keyword word => [keyword word]
  | literal value => [literal value]
  | intersection members => [intersection members]
  | array element => [array element]
  | object node env => [object node env]
  | external origin name args => [external origin name args]
  | unresolved name args => [unresolved name args]
  | function => [function]
  | unsupported form => [unsupported form]

def allLeaves : List CheckedType → List CheckedType
  | [] => []
  | type :: rest => leaves type ++ allLeaves rest

end

variable {type : CheckedType}

theorem allLeaves_eq (types : List CheckedType) : allLeaves types = types.flatMap leaves := by
  induction types with
  | nil => rfl
  | cons type types ih => rw [allLeaves, ih, List.flatMap_cons]

theorem leaves_union (members : List CheckedType) :
    leaves (.union members) = members.flatMap leaves := by
  rw [leaves, allLeaves_eq]

theorem leaves_of_not_union (h : type.isUnion = false) : type.leaves = [type] := by
  cases type with
  | union members => cases h
  | _ => rfl

theorem spliced_of_not_union (h : type.isUnion = false) : Program.spliced type = [type] := by
  cases type with
  | union members => cases h
  | _ => rfl

/-- Where unions are flat, splicing goes as deep as there is something to take apart. -/
theorem IsFlat.spliced_eq (h : type.IsFlat) : Program.spliced type = type.leaves := by
  cases htype : type.isUnion with
  | false => rw [spliced_of_not_union htype, leaves_of_not_union htype]
  | true =>
    cases type with
    | union members =>
      have hleaves : members.flatMap leaves = members.flatMap fun member => [member] :=
        List.flatMap_congr fun member hmember => leaves_of_not_union (h member hmember)
      rw [leaves_union, hleaves, List.flatMap_singleton']
      rfl
    | _ => cases htype

theorem IsFlat.not_union_of_mem_spliced (h : type.IsFlat) {member : CheckedType}
    (hmember : member ∈ Program.spliced type) : member.isUnion = false := by
  cases htype : type.isUnion with
  | false =>
    rw [spliced_of_not_union htype, List.mem_singleton] at hmember
    rwa [hmember]
  | true =>
    cases type with
    | union members => exact h member hmember
    | _ => cases htype

end CheckedType

open CheckedType

namespace Program

variable {p : Program}

theorem keeps_isFlat (p : Program) : p.Keeps (fun _ => True) IsFlat where
  keyword _ := trivial
  literal _ := trivial
  union members h member hmember := by
    obtain ⟨type, htype, hmember⟩ := List.mem_flatMap.1 hmember
    exact (h type htype).not_union_of_mem_spliced hmember
  intersection _ _ := trivial
  array _ _ := trivial
  object _ _ _ _ := trivial
  unresolved _ _ _ := trivial
  function := trivial
  unsupported _ := trivial
  objects := ⟨fun _ _ _ _ _ _ => trivial, fun _ _ _ _ _ _ _ => trivial, fun _ _ _ => trivial⟩
  external _ _ _ _ _ := trivial

theorem Produces.flat {type : CheckedType} (h : p.Produces type) : Everywhere IsFlat type :=
  p.keeps_isFlat.everywhere_of_produces h

/-- A list of type expressions means what each of them means. -/
theorem resolveAll_eq_ok {instantiate : Instantiate} {scope : NodeId} {env : Env}
    {written : List TypeExpr} {types : List CheckedType} :
    p.resolveAll instantiate scope env written = .ok types ↔
      List.Forall₂ (fun written type => p.resolveWith instantiate scope env written = .ok type)
        written types := by
  induction written generalizing types with
  | nil => exact ⟨fun h => by cases h; exact .nil, fun h => by cases h; rfl⟩
  | cons first rest ih =>
    rw [resolveAll]
    constructor
    · intro h
      obtain ⟨type, htype, h⟩ := bind_eq_ok.1 h
      obtain ⟨types, htypes, h⟩ := bind_eq_ok.1 h
      cases h
      exact .cons htype (ih.1 htypes)
    · intro h
      cases h with
      | cons htype htypes =>
        exact bind_eq_ok.2 ⟨_, htype, bind_eq_ok.2 ⟨_, ih.2 htypes, rfl⟩⟩

/-- A union lists what its members are unions of, one member after the other. -/
theorem resolveWith_union {depth : Nat} {scope : NodeId} {env : Env}
    (henv : ∀ type ∈ env.types, Everywhere IsFlat type) {members : List TypeExpr} {type : CheckedType}
    (h : p.resolveWith (p.instantiate depth) scope env (.union members) = .ok type) :
    ∃ types, List.Forall₂
        (fun written type => p.resolveWith (p.instantiate depth) scope env written = .ok type)
        members types ∧ type = .union (types.flatMap leaves) := by
  rw [resolveWith] at h
  obtain ⟨types, htypes, h⟩ := bind_eq_ok.1 h
  cases h
  have hflat : ∀ type ∈ types, Everywhere IsFlat type :=
    p.keeps_isFlat.resolveAll (p.keeps_isFlat.expands_instantiate depth) henv members
      (fun _ _ _ => trivial) htypes
  have hleaves : types.flatMap spliced = types.flatMap leaves :=
    List.flatMap_congr fun type htype => (hflat type htype).here.spliced_eq
  exact ⟨types, resolveAll_eq_ok.1 htypes, congrArg CheckedType.union hleaves⟩

end Program

end ApiShapes
