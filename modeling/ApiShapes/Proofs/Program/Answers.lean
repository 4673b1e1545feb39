import ApiShapes.Proofs.Arena.WellFormed
import ApiShapes.Proofs.Program.Origin

/-!
# Queries that find their nodes

* `Answers x` : the query has an answer, unless aliases are too deep;
* `Program.resolve_answers` : resolving type expressions looks at no node that is not there;
* `Program.IsObject` : the node lists members;
* `Produces.isObject`, `Produces.members_answers`, `exists_kind?_of_mem_members` : in a sound arena the
  object types that a program produces list members, which are nodes of the arena;
* `ofModules_lookups` : lowering modules gives a well-formed arena, and queries find their nodes in it.
-/

namespace ApiShapes
open CheckedType (Everywhere)

/-- The query has an answer, unless aliases are too deep. -/
def Answers {α : Type} (query : Except CheckError α) : Prop :=
  ∀ error, query = .error error → ∃ name, error = .tooDeep name

namespace Answers

variable {α β : Type}

theorem ok (x : α) : Answers (.ok x) := fun _ h => by cases h

theorem tooDeep (name : String) : Answers (.error (.tooDeep name) : Except CheckError α) :=
  fun _ h => ⟨name, (Except.error.inj h).symm⟩

theorem bind {query : Except CheckError α} {f : α → Except CheckError β} (h : Answers query)
    (hf : ∀ x, query = .ok x → Answers (f x)) : Answers (query >>= f) := by
  intro error herror
  rcases bind_eq_error.1 herror with hquery | ⟨x, hx, hrest⟩
  · exact h error hquery
  · exact hf x hx error hrest

theorem foldlM {f : β → α → Except CheckError β} {xs : List α}
    (hf : ∀ x ∈ xs, ∀ before, Answers (f before x)) (start : β) : Answers (xs.foldlM f start) := by
  intro error herror
  obtain ⟨x, hx, before, hstep⟩ := exists_step_of_foldlM_error herror
  exact hf x hx before error hstep

end Answers

namespace Program

variable {p : Program}

/-! ## Type expressions -/

section Resolving

variable {instantiate : Instantiate} {scope : NodeId} {env : Env}

/-- Expanding a declaration that a name means has an answer. -/
def ExpandsMeant (p : Program) (instantiate : Instantiate) : Prop :=
  ∀ declared name args, p.IsMeant declared → Answers (instantiate declared name args)

mutual

theorem resolveWith_answers (hinst : p.ExpandsMeant instantiate) : ∀ written : TypeExpr,
    Answers (p.resolveWith instantiate scope env written)
  | .keyword _ => .ok _
  | .literal _ => .ok _
  | .array element => (resolveWith_answers hinst element).bind fun _ _ => .ok _
  | .union members => (resolveAll_answers hinst members).bind fun _ _ => .ok _
  | .intersection members => (resolveAll_answers hinst members).bind fun _ _ => .ok _
  | .object _ => .ok _
  | .function => .ok _
  | .unsupported _ => .ok _
  | .reference name args => by
    unfold Program.resolveWith
    split
    · exact .ok _
    · refine (resolveAll_answers hinst args).bind fun args' _ => ?_
      split
      · next declared hdeclared => exact hinst declared name args' (symbol_isMeant hdeclared)
      · exact .ok _

theorem resolveAll_answers (hinst : p.ExpandsMeant instantiate) : ∀ written : List TypeExpr,
    Answers (p.resolveAll instantiate scope env written)
  | [] => .ok _
  | type :: rest =>
    (resolveWith_answers hinst type).bind fun _ _ =>
      (resolveAll_answers hinst rest).bind fun _ _ => .ok _

end

end Resolving

theorem bindParams_answers {default : Env → TypeExpr → Except CheckError CheckedType}
    (hdefault : ∀ env written, Answers (default env written)) (params : List TypeParam)
    (args : List CheckedType) (env : Env) : Answers (bindParams default params args env) := by
  induction params generalizing args env with
  | nil => exact .ok _
  | cons param rest ih =>
    cases args with
    | cons arg args => exact ih args _
    | nil =>
      rw [bindParams]
      split
      · next written _ => exact (hdefault env written).bind fun _ _ => ih [] _
      · exact ih [] _

theorem instantiate_answers (p : Program) (depth : Nat) : p.ExpandsMeant (p.instantiate depth) := by
  induction depth with
  | zero => exact fun _ name _ _ => .tooDeep name
  | succ depth ih =>
    rintro declared name args ⟨kind, hkind, -⟩
    have hinner : ∀ env written,
        Answers (p.resolveWith (p.instantiate depth) declared env written) :=
      fun _ written => resolveWith_answers ih written
    unfold Program.instantiate
    simp only [hkind]
    cases kind with
    | typeAlias _ params type =>
      exact (bindParams_answers hinner params args []).bind fun env _ => hinner env type
    | interface _ params => exact (bindParams_answers hinner params args []).bind fun _ _ => .ok _
    | _ => exact .ok _

/-- Names lead to nodes, so that resolving a type expression fails only where aliases are too deep. -/
theorem resolve_answers (p : Program) (scope : NodeId) (env : Env) (written : TypeExpr) :
    Answers (p.resolve scope env written) :=
  resolveWith_answers (p.instantiate_answers _) written

/-! ## Object types -/

/-- The node lists members. -/
def IsObject (p : Program) (id : NodeId) : Prop :=
  (∃ members, p.arena.kind? id = some (.typeLiteral members)) ∨
    ∃ name params bases members exported,
      p.arena.kind? id = some (.interface name params bases members exported)

def HasMembers (p : Program) (type : CheckedType) : Prop :=
  ∀ node env, type = .object node env → p.IsObject node

theorem keeps_hasMembers (h : p.arena.Sound) : p.Keeps p.IsObject p.HasMembers where
  keyword _ _ _ h := by cases h
  literal _ _ _ h := by cases h
  union _ _ _ _ h := by cases h
  intersection _ _ _ _ h := by cases h
  array _ _ _ _ h := by cases h
  object _ _ hnode _ _ _ h := by
    cases h
    exact hnode
  unresolved _ _ _ _ _ h := by cases h
  function _ _ h := by cases h
  unsupported _ _ _ h := by cases h
  objects := {
    pointed := by
      rintro id kind hkind ⟨role, node⟩ hpointer rfl
      obtain ⟨_, hnode, members, rfl⟩ := (h id kind hkind _ hpointer).fits
      exact .inl ⟨members, hnode⟩
    interface := fun _ _ _ _ _ _ hkind => .inr ⟨_, _, _, _, _, hkind⟩
    typeLiteral := fun _ members hkind => .inl ⟨members, hkind⟩ }
  external _ _ _ _ _ _ _ h := by cases h

variable {object : Instance} {node : NodeId} {env : Env}

theorem IsObject.listed_answers (h : p.IsObject object.node) : Answers (p.listed object) := by
  unfold listed
  rcases h with ⟨_, hkind⟩ | ⟨_, _, _, _, _, hkind⟩
  · rw [hkind]
    exact .ok _
  · rw [hkind]
    exact .ok _

/-- The bases of an object type that resolve to object types list members again. -/
theorem membersWithin_answers (h : p.arena.Sound) (depth : Nat) (object : Instance)
    (found : List Member) (hobject : p.IsObject object.node)
    (henv : ∀ type ∈ object.env.types, Everywhere p.HasMembers type) :
    Answers (p.membersWithin depth object found) := by
  induction depth generalizing object found with
  | zero => exact hobject.listed_answers.bind fun _ _ => .ok _
  | succ depth ih =>
    refine hobject.listed_answers.bind fun ⟨listed, bases⟩ hlisted => ?_
    refine .foldlM (fun base hbase before => ?_) _
    refine (p.resolve_answers _ _ _).bind fun type htype => ?_
    have hkeeps := keeps_hasMembers h
    have hmembers : Everywhere p.HasMembers type :=
      hkeeps.resolve henv (hkeeps.objects.hasObjects_base hlisted hbase) htype
    split
    · next node env => exact ih ⟨node, env⟩ before (hmembers.here node env rfl) fun _ => hmembers.part
    · exact .ok before

/-- The members that an object type lists are nodes of the arena, and so are those of its bases. -/
theorem exists_kind?_of_mem_members (h : p.arena.Sound) {members : List Member}
    (hmembers : p.members object = .ok members) {member : Member} (hmember : member ∈ members) :
    ∃ kind, p.arena.kind? member.node = some kind := by
  refine membersWithin_induction (fun _ => True)
    (fun member => ∃ kind, p.arena.kind? member.node = some kind) ?_
    (fun _ _ _ _ _ _ _ _ _ _ => trivial) _ object [] members trivial (by simp) hmembers member hmember
  intro object listed bases _ hlisted id hid
  unfold Program.listed at hlisted
  have hlists : ∃ kind, p.arena.kind? object.node = some kind ∧ ⟨.listed, id⟩ ∈ kind.pointers := by
    split at hlisted
    · cases hlisted
    · next hkind =>
      cases hlisted
      exact ⟨_, hkind, List.mem_map.2 ⟨id, hid, rfl⟩⟩
    · next hkind =>
      cases hlisted
      exact ⟨_, hkind, List.mem_append_right _ (List.mem_map.2 ⟨id, hid, rfl⟩)⟩
    · cases hlisted
  obtain ⟨kind, hkind, hpointer⟩ := hlists
  obtain ⟨found, hfound, -⟩ := (h object.node kind hkind _ hpointer).fits
  exact ⟨found, hfound⟩

theorem Produces.everywhere_hasMembers (h : p.arena.Sound) {type : CheckedType}
    (htype : p.Produces type) : Everywhere p.HasMembers type :=
  (keeps_hasMembers h).everywhere_of_produces htype

theorem Produces.isObject (h : p.arena.Sound) (htype : p.Produces (.object node env)) :
    p.IsObject node :=
  (htype.everywhere_hasMembers h).here node env rfl

theorem Produces.members_answers (h : p.arena.Sound) (htype : p.Produces (.object node env)) :
    Answers (p.members ⟨node, env⟩) :=
  membersWithin_answers h _ ⟨node, env⟩ [] (htype.isObject h)
    fun _ hpart => (htype.everywhere_hasMembers h).part hpart

theorem exists_node {id : NodeId} {kind : NodeKind} (h : p.arena.kind? id = some kind) :
    ∃ found, p.node id = .ok found := by
  obtain ⟨found, hfound, -⟩ := Option.map_eq_some_iff.1 h
  exact ⟨found, by rw [node, hfound]⟩

theorem IsObject.exists_node (h : p.IsObject node) : ∃ found, p.node node = .ok found := by
  rcases h with ⟨_, hkind⟩ | ⟨_, _, _, _, _, hkind⟩
  · exact Program.exists_node hkind
  · exact Program.exists_node hkind

theorem IsForeign.exists_node (h : p.IsForeign node) : ∃ found, p.node node = .ok found := by
  rcases h with ⟨_, _, hkind⟩ | ⟨_, _, _, hkind⟩
  · exact Program.exists_node hkind
  · exact Program.exists_node hkind

end Program

/-! ## Modules -/

/-- **Lookups in the arena of modules never fail.** Lowering modules, one after the other, gives a
well-formed arena, which later modules only add nodes to. The way up from each node ends, so that a
search upwards is never cut short, and it leads to the module that the node was lowered from. In a
program with these nodes all object types that queries give list members, unless aliases are too deep,
and their nodes, the members and the origins of external types are nodes of the arena. -/
theorem ofModules_lookups (modules : List ParsedModule) :
    let a := Arena.ofModules modules
    a.WellFormed ∧
      (∀ later, a.Grows (Arena.ofModules (modules ++ later))) ∧
      (∀ id : NodeId, (fun current => current.bind a.parent?)^[id.index + 1] (some id) = none) ∧
      (∀ (α : Type) (f : NodeId → NodeKind → Option α) (id : NodeId), a.findUp f id =
        (a.get? id).bind fun node => (f id node.kind).or (node.parent.bind (a.findUp f))) ∧
      (∀ id : NodeId, id.index < a.size → ∃ before module after,
        modules = before ++ module :: after ∧ Arena.Adds before module id) ∧
      (∀ before module after, modules = before ++ module :: after →
        ∀ id, Arena.Adds before module id →
          a.fileOf? id = some (Arena.ofModules before).next ∧ ∃ statements,
            a.kind? (Arena.ofModules before).next = some (.sourceFile module.1 statements)) ∧
      ∀ p : Program, p.arena = a →
        (∀ node env, p.Produces (.object node env) →
          (∃ found, p.node node = .ok found) ∧ Answers (p.members ⟨node, env⟩) ∧
            ∀ members, p.members ⟨node, env⟩ = .ok members →
              ∀ member ∈ members, ∃ found, p.node member.node = .ok found) ∧
        ∀ origin name args, p.Produces (.external origin name args) →
          ∃ found, p.node origin = .ok found := by
  intro a
  have ha : a.WellFormed := Arena.wellFormed_ofModules modules
  refine ⟨ha, Arena.grows_ofModules modules, ha.iterate_parent?, fun _ => ha.findUp_eq,
    fun _ => Arena.exists_adds modules, ?_, ?_⟩
  · intro before module after heq id hadds
    rw [show a = Arena.ofModules (before ++ module :: after) from congrArg Arena.ofModules heq]
    exact Arena.fileOf?_ofModules hadds after
  · intro p hp
    have hsound : p.arena.Sound := hp ▸ ha.sound
    refine ⟨fun node env htype => ⟨(htype.isObject hsound).exists_node, htype.members_answers hsound,
      fun members hmembers member hmember => ?_⟩, fun origin name args htype => ?_⟩
    · obtain ⟨kind, hkind⟩ := Program.exists_kind?_of_mem_members hsound hmembers hmember
      exact Program.exists_node hkind
    · exact htype.isForeign.exists_node

namespace Loading

variable {exist : Path → Bool} {read : Path → Option String}

/-- A step of loading adds at most the nodes of one module. -/
theorem step_ofModules {l : Loading} {modules : List ParsedModule}
    (h : l.program.arena = Arena.ofModules modules) :
    ∃ modules', (l.step exist read).program.arena = Arena.ofModules modules' := by
  obtain ⟨p, pending⟩ := l
  cases pending with
  | nil => exact ⟨modules, h⟩
  | cons path rest =>
    cases hpath : p.isLoaded path with
    | true =>
      rw [step_loaded hpath]
      exact ⟨modules, h⟩
    | false =>
      rw [step_new hpath, Program.addFile_arena, h]
      exact ⟨modules ++ [(path, Source.bodyOf path (read path))],
        (Arena.ofModules_concat modules (path, Source.bodyOf path (read path))).symm⟩

theorem iterate_ofModules (roots : List Path) (resolver : ModuleResolver) (steps : Nat) :
    ∃ modules, ((step exist read)^[steps] (start roots resolver)).program.arena =
      Arena.ofModules modules := by
  induction steps with
  | zero => exact ⟨[], rfl⟩
  | succ steps ih =>
    obtain ⟨modules, hmodules⟩ := ih
    rw [Function.iterate_succ_apply']
    exact step_ofModules hmodules

end Loading

/-- The nodes of a loaded program are those of its modules, in the order of loading. -/
theorem Loads.exists_ofModules {exist : Path → Bool} {read : Path → Option String} {roots : List Path}
    {resolver : ModuleResolver} {p : Program} (h : Loads exist read roots resolver p) :
    ∃ modules, p.arena = Arena.ofModules modules := by
  obtain ⟨steps, hsteps⟩ := h
  obtain ⟨modules, hmodules⟩ := Loading.iterate_ofModules roots resolver steps
  rw [hsteps] at hmodules
  exact ⟨modules, hmodules⟩

end ApiShapes
