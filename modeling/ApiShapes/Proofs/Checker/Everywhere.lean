import ApiShapes.Program.Types

/-!
# What holds everywhere in a type

* `CheckedType.parts` : the types right within a type, those that type parameters stand for included;
* `CheckedType.Everywhere P` : `P` holds of the type and of all types within it;
* `CheckedType.Preserved Q P` : `P` of the parts gives `P` of the type, for each form of type that names
  no other module, where `Q` holds of the nodes of object types.
-/

namespace ApiShapes

namespace Env

def types (env : Env) : List CheckedType := env.map (·.2)

@[simp] theorem types_append (env env' : Env) : (env ++ env').types = env.types ++ env'.types :=
  List.map_append

theorem mem_types_of_lookup {env : Env} {name : String} {type : CheckedType}
    (h : env.lookup name = some type) : type ∈ env.types := by
  obtain ⟨before, after, rfl, -⟩ := List.lookup_eq_some_iff.1 h
  simp [types]

end Env

namespace CheckedType

def parts : CheckedType → List CheckedType
  | union members => members
  | intersection members => members
  | array element => [element]
  | object _ env => Env.types env
  | external _ _ args => args
  | unresolved _ args => args
  | _ => []

/-- `P` holds of the type and of all types within it. -/
inductive Everywhere (P : CheckedType → Prop) : CheckedType → Prop
  | intro {type : CheckedType} (here : P type) (parts : ∀ part ∈ type.parts, Everywhere P part) :
      Everywhere P type

variable {P : CheckedType → Prop} {type : CheckedType}

theorem Everywhere.here (h : Everywhere P type) : P type :=
  have ⟨here, _⟩ := h
  here

theorem Everywhere.part (h : Everywhere P type) {part : CheckedType} (hpart : part ∈ type.parts) :
    Everywhere P part :=
  have ⟨_, parts⟩ := h
  parts part hpart

theorem Everywhere.leaf (h : P type) (hleaf : type.parts = []) : Everywhere P type :=
  .intro h (by simp [hleaf])

theorem everywhere_types_append {env : Env} {name : String} {bound : CheckedType}
    (henv : ∀ type ∈ env.types, Everywhere P type) (hbound : Everywhere P bound) :
    ∀ type ∈ Env.types (env ++ [(name, bound)]), Everywhere P type := by
  intro type htype
  rw [Env.types_append, List.mem_append] at htype
  rcases htype with htype | htype
  · exact henv type htype
  · obtain rfl := List.mem_singleton.1 htype
    exact hbound

/-- What a type that names no other module owes to its parts, and an object type to its node. A union
is made of the members of unions. -/
structure Preserved (Q : NodeId → Prop) (P : CheckedType → Prop) : Prop where
  keyword : ∀ word, P (.keyword word)
  literal : ∀ value, P (.literal value)
  union : ∀ members : List CheckedType, (∀ member ∈ members, P member) →
    P (.union (members.flatMap Program.spliced))
  intersection : ∀ members : List CheckedType, (∀ member ∈ members, P member) →
    P (.intersection members)
  array : ∀ element, P element → P (.array element)
  object : ∀ (node : NodeId) (env : Env), Q node → (∀ type ∈ env.types, P type) → P (.object node env)
  unresolved : ∀ (name : String) (args : List CheckedType), (∀ arg ∈ args, P arg) →
    P (.unresolved name args)
  function : P .function
  unsupported : ∀ form, P (.unsupported form)

/-- The members of a union of types are parts of these types, or the types themselves. -/
theorem everywhere_of_mem_spliced {member : CheckedType} (h : Everywhere P type)
    (hmember : member ∈ Program.spliced type) : Everywhere P member := by
  unfold Program.spliced at hmember
  split at hmember
  · exact h.part hmember
  · rwa [List.mem_singleton.1 hmember]

namespace Preserved

variable {Q : NodeId → Prop} (hP : Preserved Q P)
include hP

theorem everywhere_union {members : List CheckedType}
    (h : ∀ member ∈ members, Everywhere P member) :
    Everywhere P (.union (members.flatMap Program.spliced)) := by
  refine .intro (hP.union members fun member hmember => (h member hmember).here) ?_
  intro part hpart
  obtain ⟨member, hmember, hpart⟩ := List.mem_flatMap.1 hpart
  exact everywhere_of_mem_spliced (h member hmember) hpart

theorem everywhere_intersection {members : List CheckedType}
    (h : ∀ member ∈ members, Everywhere P member) : Everywhere P (.intersection members) :=
  .intro (hP.intersection members fun member hmember => (h member hmember).here) h

theorem everywhere_array {element : CheckedType} (h : Everywhere P element) :
    Everywhere P (.array element) := by
  refine .intro (hP.array element h.here) fun part hpart => ?_
  rwa [List.mem_singleton.1 hpart]

theorem everywhere_object {node : NodeId} {env : Env} (hnode : Q node)
    (h : ∀ type ∈ env.types, Everywhere P type) : Everywhere P (.object node env) :=
  .intro (hP.object node env hnode fun type htype => (h type htype).here) h

theorem everywhere_undeclared {name : String} {args : List CheckedType}
    (h : ∀ arg ∈ args, Everywhere P arg) : Everywhere P (Program.undeclared name args) := by
  have hunresolved : Everywhere P (.unresolved name args) :=
    .intro (hP.unresolved name args fun arg harg => (h arg harg).here) h
  unfold Program.undeclared
  split
  · split
    · exact hP.everywhere_array (h _ (List.mem_singleton.2 rfl))
    · exact hunresolved
  · exact hunresolved

end Preserved

end CheckedType

end ApiShapes
