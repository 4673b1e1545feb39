import ApiShapes.Proofs.Arena.Sound
import Mathlib.Data.List.Induction
import Mathlib.Logic.Function.Iterate

/-!
# Arenas of modules

* `Arena.ofModules` : the nodes of modules, one module after the other;
* `Arena.WellFormed` : modules stand alone, all other nodes stand below an earlier one, and all pointers
  lead to nodes below that are what they have to be;
* `Arena.wellFormed_ofModules` : the arena of modules is well-formed;
* `Arena.grows_ofModules`, `Arena.fileOf?_ofModules` : later modules change nothing, and the way up from
  each node ends at the module that it was lowered from.
-/

namespace ApiShapes

abbrev ParsedModule := Path × List StatementTree

/-- At the place `id` the node is a module and stands alone, or it stands below an earlier one. -/
def Node.StandsAt (node : Node) (id : NodeId) : Prop :=
  match node.kind with
  | .sourceFile .. => node.parent = none
  | _ => ∃ parent, node.parent = some parent ∧ parent.index < id.index

namespace Arena

variable {a : Arena} {id : NodeId}

/-- The nodes of modules, one module after the other. -/
def ofModules (modules : List ParsedModule) : Arena :=
  modules.foldl (fun a module => (a.addModule module.1 module.2).2) {}

theorem ofModules_append (modules later : List ParsedModule) : ofModules (modules ++ later) =
    later.foldl (fun a module => (a.addModule module.1 module.2).2) (ofModules modules) :=
  List.foldl_append

theorem ofModules_concat (modules : List ParsedModule) (module : ParsedModule) :
    ofModules (modules ++ [module]) = ((ofModules modules).addModule module.1 module.2).2 :=
  ofModules_append modules [module]

/-- Later modules leave all nodes as they are. -/
theorem grows_ofModules (modules later : List ParsedModule) :
    (ofModules modules).Grows (ofModules (modules ++ later)) := by
  induction later generalizing modules with
  | nil => rw [List.append_nil]; exact .refl _
  | cons module rest ih =>
    have hmodule := (ofModules modules).grows_addModule module.1 module.2
    rw [← ofModules_concat] at hmodule
    rw [List.append_cons]
    exact hmodule.trans (ih (modules ++ [module]))

/-! ## Well-formed arenas -/

/-- Modules stand alone, all other nodes stand below an earlier one, and pointers lead where they have
to. -/
structure WellFormed (a : Arena) : Prop where
  stands : ∀ id node, a.get? id = some node → node.StandsAt id
  sound : a.Sound

theorem wellFormed_empty : WellFormed {} where
  stands id node h := by simp [get?] at h
  sound := sound_empty

theorem WellFormed.addModule (h : a.WellFormed) (path : Path) (body : List StatementTree) :
    (a.addModule path body).2.WellFormed where
  stands id node hid := by
    by_cases hold : id.index < a.size
    · rw [(a.grows_addModule path body).get?_eq id hold] at hid
      exact h.stands id node hid
    rcases Nat.eq_or_lt_of_le (Nat.not_lt.1 hold) with heq | hgt
    · obtain ⟨statements, hfile⟩ := a.get?_addModule path body
      obtain rfl : id = a.next := congrArg NodeId.mk heq.symm
      rw [hfile] at hid
      obtain rfl := Option.some.inj hid
      rfl
    · obtain ⟨parent, kind, hget, hlt, -, hfits⟩ :=
        a.placed_addModule path body hgt (lt_size_of_get? hid)
      rw [hget] at hid
      obtain rfl := Option.some.inj hid
      cases kind <;> first | exact hfits.elim | exact ⟨parent, rfl, hlt⟩
  sound := h.sound.addModule path body

theorem wellFormed_ofModules (modules : List ParsedModule) : (ofModules modules).WellFormed := by
  induction modules using List.reverseRecOn with
  | nil => exact wellFormed_empty
  | append_singleton modules module ih =>
    rw [ofModules_concat]
    exact ih.addModule module.1 module.2

-- An alias of `{ x: {} }`: the module lists it, it points at the object type, and so on downwards.
example (path : Path) :
    let nested := TypeTree.object [.property "x" false (some (.object []))]
    let a := ofModules [(path, [.typeAlias false "A" [] nested])]
    a.nodes.toList.map (fun node => (node.parent, node.kind.pointers)) =
      [(none, [⟨.listed, ⟨1⟩⟩]), (some ⟨0⟩, [⟨.object, ⟨2⟩⟩]), (some ⟨1⟩, [⟨.listed, ⟨3⟩⟩]),
        (some ⟨2⟩, [⟨.object, ⟨4⟩⟩]), (some ⟨3⟩, [])] := by
  cbv

/-! ## The way up -/

theorem WellFormed.parent_lt (h : a.WellFormed) {parent : NodeId}
    (hparent : a.parent? id = some parent) : parent.index < id.index := by
  obtain ⟨⟨above, kind⟩, hnode, rfl⟩ := Option.bind_eq_some_iff.1 hparent
  have hstands := h.stands id _ hnode
  cases kind with
  | sourceFile => cases hstands
  | _ =>
    obtain ⟨_, heq, hlt⟩ := hstands
    obtain rfl := Option.some.inj heq
    exact hlt

/-- The way up from a node takes at most as many steps as there are earlier nodes. -/
theorem WellFormed.iterate_parent? (h : a.WellFormed) (id : NodeId) :
    (fun current => current.bind a.parent?)^[id.index + 1] (some id) = none := by
  induction hn : id.index using Nat.strongRecOn generalizing id with
  | ind n ih =>
    rw [Function.iterate_succ_apply, Option.bind_some]
    cases hparent : a.parent? id with
    | none => exact Function.iterate_fixed rfl n
    | some parent =>
      have hlt := h.parent_lt hparent
      obtain ⟨more, hmore⟩ := Nat.exists_eq_add_of_lt (hn ▸ hlt)
      have hsplit : n = more + (parent.index + 1) := by omega
      rw [hsplit, Function.iterate_add_apply, ih parent.index (hn ▸ hlt) parent rfl]
      exact Function.iterate_fixed rfl more

/-- As parents come first, a search upwards is never cut short. -/
theorem WellFormed.findUp_eq {α : Type} (h : a.WellFormed) (f : NodeId → NodeKind → Option α)
    (id : NodeId) : a.findUp f id =
      (a.get? id).bind fun node => (f id node.kind).or (node.parent.bind (a.findUp f)) := by
  rw [findUp]
  cases hnode : a.get? id with
  | none => rfl
  | some node =>
    cases hfound : f id node.kind with
    | some found => simp [hfound]
    | none =>
      cases hparent : node.parent with
      | none => simp [hfound, hparent]
      | some parent =>
        have hlt : parent.index < id.index := h.parent_lt (by simp [parent?, hnode, hparent])
        simp [hfound, hparent, hlt]

/-! ## The nodes of each module -/

/-- The node is one of those that lowering the module adds behind the modules before it. -/
def Adds (before : List ParsedModule) (module : ParsedModule) (id : NodeId) : Prop :=
  (ofModules before).size ≤ id.index ∧ id.index < (ofModules (before ++ [module])).size

/-- Each node was added for one of the modules. -/
theorem exists_adds (modules : List ParsedModule) (h : id.index < (ofModules modules).size) :
    ∃ before module after, modules = before ++ module :: after ∧ Adds before module id := by
  induction modules using List.reverseRecOn with
  | nil => exact absurd h (Nat.not_lt_zero _)
  | append_singleton modules module ih =>
    by_cases hold : id.index < (ofModules modules).size
    · obtain ⟨before, earlier, after, rfl, hadds⟩ := ih hold
      exact ⟨before, earlier, after ++ [module], by simp, hadds⟩
    · exact ⟨modules, module, [], rfl, Nat.not_lt.1 hold, h⟩

/-- The way up from a node ends at the module that it was added for. -/
theorem fileOf?_ofModules {before : List ParsedModule} {module : ParsedModule}
    (h : Adds before module id) (after : List ParsedModule) :
    (ofModules (before ++ module :: after)).fileOf? id = some (ofModules before).next ∧
      ∃ statements, (ofModules (before ++ module :: after)).kind? (ofModules before).next =
        some (.sourceFile module.1 statements) := by
  have hgrows := grows_ofModules (before ++ [module]) after
  rw [List.append_assoc, List.singleton_append, ofModules_concat] at hgrows
  obtain ⟨hle, hlt⟩ := h
  rw [ofModules_concat] at hlt
  obtain ⟨statements, hfile⟩ := (ofModules before).get?_addModule module.1 module.2
  exact ⟨fileOf?_addModule hgrows hle hlt, statements, by simp [kind?, hgrows.get? hfile]⟩

end Arena

end ApiShapes
