import ApiShapes.Program.Types
import ApiShapes.Proofs.Alike.Encoding
import ApiShapes.Proofs.Alike.Names

/-!
# Programs that are alike answer alike

* `Program.Alike.resolveWith`, `Program.Alike.instantiate` : type expressions and declarations that are
  alike mean types that are alike;
* `Program.Alike.members` : object types that are alike have members that are alike;
* `Program.Alike.checker` : all answers of the two programs are alike.
-/

namespace ApiShapes

variable {r : NodeId → NodeId → Prop} {p p' : Program}

theorem spliced_alike {type type' : CheckedType} (h : CheckedType.Alike r type type') :
    List.Forall₂ (CheckedType.Alike r) (Program.spliced type) (Program.spliced type') := by
  cases h with
  | union hmembers => exact hmembers
  | keyword word => exact .cons (.keyword word) .nil
  | literal value => exact .cons (.literal value) .nil
  | intersection h => exact .cons (.intersection h) .nil
  | array h => exact .cons (.array h) .nil
  | object hnode henv => exact .cons (.object hnode henv) .nil
  | external name horigin hargs => exact .cons (.external name horigin hargs) .nil
  | unresolved name h => exact .cons (.unresolved name h) .nil
  | function => exact .cons .function .nil
  | unsupported form => exact .cons (.unsupported form) .nil

theorem undeclared_alike (name : String) {args args' : List CheckedType}
    (h : List.Forall₂ (CheckedType.Alike r) args args') :
    CheckedType.Alike r (Program.undeclared name args) (Program.undeclared name args') := by
  cases h with
  | nil => exact .unresolved name .nil
  | cons harg hrest =>
    cases hrest with
    | nil =>
      unfold Program.undeclared
      simp only
      split
      · exact .array harg
      · exact .unresolved name (.cons harg .nil)
    | cons harg' hrest => exact .unresolved name (.cons harg (.cons harg' hrest))

def InstantiateAlike (r : NodeId → NodeId → Prop) (instantiate instantiate' : Program.Instantiate) :
    Prop :=
  ∀ declared declared' name args args', r declared declared' →
    List.Forall₂ (CheckedType.Alike r) args args' →
      ExceptRel (CheckedType.Alike r) (instantiate declared name args) (instantiate' declared' name args')

namespace Program.Alike

variable {instantiate instantiate' : Instantiate} {scope scope' : NodeId} {env env' : Env}

/-! ## Type expressions -/

mutual

theorem resolveWith (h : Program.Alike r p p') (hinst : InstantiateAlike r instantiate instantiate')
    (hscope : r scope scope') (henv : Env.Alike r env env') : ∀ {type type' : TypeExpr},
    TypeExpr.Alike r type type' → ExceptRel (CheckedType.Alike r)
      (p.resolveWith instantiate scope env type) (p'.resolveWith instantiate' scope' env' type')
  | _, _, .keyword word => .ok (.keyword word)
  | _, _, .literal value => .ok (.literal value)
  | _, _, .array helement =>
    (resolveWith h hinst hscope henv helement).bind fun _ _ helement => .ok (.array helement)
  | _, _, .union hmembers =>
    (resolveAll h hinst hscope henv hmembers).bind fun _ _ hmembers =>
      .ok (.union (List.rel_flatMap hmembers fun _ _ => spliced_alike))
  | _, _, .intersection hmembers =>
    (resolveAll h hinst hscope henv hmembers).bind fun _ _ hmembers => .ok (.intersection hmembers)
  | _, _, .object hliteral => .ok (.object hliteral henv)
  | _, _, .function => .ok .function
  | _, _, .unsupported form => .ok (.unsupported form)
  | _, _, @TypeExpr.Alike.reference _ name args args' hargs => by
    have hempty : args.isEmpty = args'.isEmpty := by cases hargs <;> rfl
    have hbound : Option.Rel (CheckedType.Alike r) (if args.isEmpty then env.lookup name else none)
        (if args'.isEmpty then env'.lookup name else none) := by
      rw [hempty]
      split
      · exact optionRel_lookup name henv
      · exact .none
    have hresolved := resolveAll h hinst hscope henv hargs
    simp only [Program.resolveWith]
    generalize (if args.isEmpty then _ else _) = x, (if args'.isEmpty then _ else _) = x' at hbound ⊢
    cases hbound with
    | some hbound => exact .ok hbound
    | none =>
      apply hresolved.bind
      intro types types' htypes
      have hsymbol : Option.Rel r (p.symbol scope name .type) (p'.symbol scope' name .type) :=
        h.symbol name hscope
      generalize p.symbol scope name .type = y, p'.symbol scope' name .type = y' at hsymbol ⊢
      cases hsymbol with
      | none => exact .ok (undeclared_alike name htypes)
      | some hdeclared => exact hinst _ _ name _ _ hdeclared htypes

theorem resolveAll (h : Program.Alike r p p') (hinst : InstantiateAlike r instantiate instantiate')
    (hscope : r scope scope') (henv : Env.Alike r env env') : ∀ {types types' : List TypeExpr},
    List.Forall₂ (TypeExpr.Alike r) types types' → ExceptRel (List.Forall₂ (CheckedType.Alike r))
      (p.resolveAll instantiate scope env types) (p'.resolveAll instantiate' scope' env' types')
  | _, _, .nil => .ok .nil
  | _, _, .cons htype hrest =>
    (resolveWith h hinst hscope henv htype).bind fun _ _ htype =>
      (resolveAll h hinst hscope henv hrest).bind fun _ _ hrest => .ok (.cons htype hrest)

end

end Program.Alike

/-! ## Declarations -/

theorem Env.Alike.append {env env' : Env} (henv : Env.Alike r env env') (name : String)
    {bound bound' : CheckedType} (hbound : CheckedType.Alike r bound bound') :
    Env.Alike r (env ++ [(name, bound)]) (env' ++ [(name, bound')]) :=
  List.rel_append henv (.cons (.intro name hbound) .nil)

theorem bindParams_alike {default default' : Env → TypeExpr → Except CheckError CheckedType}
    (hdefault : ∀ env env' type type', Env.Alike r env env' → TypeExpr.Alike r type type' →
      ExceptRel (CheckedType.Alike r) (default env type) (default' env' type'))
    {params params' : List TypeParam}
    (hparams : List.Forall₂ (TypeParamOf.Alike (TypeExpr.Alike r)) params params')
    {args args' : List CheckedType} (hargs : List.Forall₂ (CheckedType.Alike r) args args')
    {env env' : Env} (henv : Env.Alike r env env') :
    ExceptRel (Env.Alike r) (Program.bindParams default params args env)
      (Program.bindParams default' params' args' env') := by
  induction hparams generalizing args args' env env' with
  | nil => exact .ok henv
  | @cons param param' rest rest' hparam _ ih =>
    obtain ⟨name, htype⟩ := hparam
    cases hargs with
    | cons harg hargs => exact ih hargs (henv.append name harg)
    | nil =>
      rw [Program.bindParams, Program.bindParams]
      cases htype with
      | none => exact ih .nil (henv.append name (.keyword .unknown))
      | some htype =>
        exact (hdefault _ _ _ _ henv htype).bind fun _ _ hbound => ih .nil (henv.append name hbound)

namespace Program.Alike

variable {scope scope' : NodeId} {env env' : Env}

theorem instantiate (h : Program.Alike r p p') (depth : Nat) :
    InstantiateAlike r (p.instantiate depth) (p'.instantiate depth) := by
  induction depth with
  | zero => exact fun _ _ _ _ _ _ _ => .error
  | succ depth ih =>
    intro declared declared' name args args' hdeclared hargs
    have hinner : ∀ env env' type type', Env.Alike r env env' → TypeExpr.Alike r type type' →
        ExceptRel (CheckedType.Alike r) (p.resolveWith (p.instantiate depth) declared env type)
          (p'.resolveWith (p'.instantiate depth) declared' env' type') :=
      fun _ _ _ _ henv htype => h.resolveWith ih hdeclared henv htype
    have hempty : Env.Alike r [] [] := .nil
    obtain ⟨kind, kind', hkind, hkind', halike⟩ := h.kind? hdeclared
    simp only [Program.instantiate, hkind, hkind']
    cases halike with
    | typeAlias _ _ hparams htype =>
      exact (bindParams_alike hinner hparams hargs hempty).bind fun _ _ henv =>
        hinner _ _ _ _ henv htype
    | interface _ _ hparams _ _ =>
      exact (bindParams_alike hinner hparams hargs hempty).bind fun _ _ henv =>
        .ok (.object hdeclared henv)
    | binding _ imported => exact .ok (.external _ hdeclared hargs)
    | reExport _ localName _ => exact .ok (.external localName hdeclared hargs)
    | _ => exact .ok (.unsupported _)

theorem resolve (h : Program.Alike r p p') (hscope : r scope scope') (henv : Env.Alike r env env')
    {type type' : TypeExpr} (htype : TypeExpr.Alike r type type') :
    ExceptRel (CheckedType.Alike r) (p.resolve scope env type) (p'.resolve scope' env' type') :=
  h.resolveWith (h.instantiate _) hscope henv htype

theorem typeAt (h : Program.Alike r p p') {id id' : NodeId} (hid : r id id')
    (henv : Env.Alike r env env') :
    ExceptRel (CheckedType.Alike r) (p.typeAt id env) (p'.typeAt id' env') := by
  obtain ⟨kind, kind', hkind, hkind', halike⟩ := h.kind? hid
  simp only [Program.typeAt, hkind, hkind']
  -- an object type means itself, and elsewhere the written type counts, if there is one
  cases halike with
  | interface _ _ _ _ _ => exact .ok (.object hid henv)
  | typeLiteral _ => exact .ok (.object hid henv)
  | typeAlias _ _ _ htype => exact h.resolve hid henv htype
  | parameter _ htype =>
    cases htype with
    | none => exact .error
    | some htype => exact h.resolve hid henv htype
  | property _ _ htype =>
    cases htype with
    | none => exact .error
    | some htype => exact h.resolve hid henv htype
  | var _ _ htype _ =>
    cases htype with
    | none => exact .error
    | some htype => exact h.resolve hid henv htype
  | _ => exact .error

/-! ## Members -/

def ListedAlike (r : NodeId → NodeId → Prop) (listed listed' : List NodeId × List TypeExpr) : Prop :=
  List.Forall₂ r listed.1 listed'.1 ∧ List.Forall₂ (TypeExpr.Alike r) listed.2 listed'.2

theorem listed (h : Program.Alike r p p') {object object' : Instance}
    (hobject : Instance.Alike r object object') :
    ExceptRel (ListedAlike r) (p.listed object) (p'.listed object') := by
  obtain ⟨kind, kind', hkind, hkind', halike⟩ := h.kind? hobject.node
  simp only [Program.listed, hkind, hkind']
  cases halike with
  | typeLiteral hmembers => exact .ok ⟨hmembers, .nil⟩
  | interface _ _ _ hbases hmembers => exact .ok ⟨hmembers, hbases⟩
  | _ => exact .error

theorem memberName_eq (h : Program.Alike r p p') {id id' : NodeId} (hid : r id id') :
    p.memberName id = p'.memberName id' := by
  obtain ⟨kind, kind', hkind, hkind', halike⟩ := h.kind? hid
  simp only [Program.memberName, hkind, hkind']
  cases halike <;> rfl

theorem freshMembers (h : Program.Alike r p p') {taken taken' : List Member}
    (htaken : List.Forall₂ (Member.Alike r) taken taken') (henv : Env.Alike r env env')
    {members members' : List NodeId} (hmembers : List.Forall₂ r members members') :
    List.Forall₂ (Member.Alike r) (p.freshMembers taken env members)
      (p'.freshMembers taken' env' members') := by
  have hany : ∀ name, taken.any (·.name == name) = taken'.any (·.name == name) :=
    fun name => any_eq htaken fun _ _ hother => by rw [hother.name]
  refine List.rel_filter (fun member member' hmember => ?_) (List.rel_map ?_ hmembers)
  · simp only [hmember.name, hany]
  · exact fun _ _ hid => ⟨h.memberName_eq hid, hid, henv⟩

theorem membersWithin (h : Program.Alike r p p') (depth : Nat) {object object' : Instance}
    (hobject : Instance.Alike r object object') {found found' : List Member}
    (hfound : List.Forall₂ (Member.Alike r) found found') :
    ExceptRel (List.Forall₂ (Member.Alike r)) (p.membersWithin depth object found)
      (p'.membersWithin depth object' found') := by
  induction depth generalizing object object' found found' with
  | zero =>
    apply (h.listed hobject).bind
    rintro ⟨members, bases⟩ ⟨members', bases'⟩ ⟨hmembers, -⟩
    exact .ok (List.rel_append hfound (h.freshMembers hfound hobject.env hmembers))
  | succ depth ih =>
    apply (h.listed hobject).bind
    rintro ⟨members, bases⟩ ⟨members', bases'⟩ ⟨hmembers, hbases⟩
    refine ExceptRel.foldlM hbases (fun found found' base base' hfound hbase => ?_)
      (List.rel_append hfound (h.freshMembers hfound hobject.env hmembers))
    apply (h.resolve hobject.node hobject.env hbase).bind
    intro type type' htype
    cases htype with
    | @object node node' env env' hnode henv =>
      have hbase : Instance.Alike r ⟨node, env⟩ ⟨node', env'⟩ := ⟨hnode, henv⟩
      exact ih hbase hfound
    | _ => exact .ok hfound

/-- **Programs that are alike give answers that are alike.** -/
theorem checker (h : Program.Alike r p p') : Checker.Alike r p.checker p'.checker where
  oneToOne := h.oneToOne
  node {id id'} hid := by
    obtain ⟨node, node', hget, hget', hnode⟩ := h.nodes hid
    show ExceptRel (Node.Alike r) (p.node id) (p'.node id')
    simp only [Program.node, hget, hget']
    exact .ok hnode
  typeAt hid henv := h.typeAt hid henv
  symbol name _ hid := h.symbol name hid
  members hobject := h.membersWithin _ hobject .nil
  callSignature hscope hcall := h.callSignature hscope hcall
  importOrigin hid := h.importOrigin_eq hid

end Program.Alike

end ApiShapes
