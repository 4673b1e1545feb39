import ApiShapes.Handler.Extract
import ApiShapes.Proofs.Alike.Encoding

/-!
# Checkers that answer alike find the same handlers

* `methodTable_alike` : the method tables are alike;
* `handlerParams_alike` : the parameters of the handler behind a table entry are related;
* `extractHandlers_eq` : the handlers of a file are the same.
-/

namespace ApiShapes

variable {r : NodeId → NodeId → Prop} {checker checker' : Checker}

def ScopedAlike (r : NodeId → NodeId → Prop) (item item' : NodeId × Expr) : Prop :=
  r item.1 item'.1 ∧ Expr.Alike r item.2 item'.2

def TableAlike (r : NodeId → NodeId → Prop) (table table' : NodeId × List ObjectProperty) : Prop :=
  r table.1 table'.1 ∧ List.Forall₂ (PropertyOf.Alike (Expr.Alike r)) table.2 table'.2

/-! ## The method table -/

theorem followNames_alike (h : Checker.Alike r checker checker') (steps : Nat) {scope scope' : NodeId}
    {value value' : Expr} (hscope : r scope scope') (hvalue : Expr.Alike r value value') :
    Option.Rel (ScopedAlike r) (followNames checker steps scope value)
      (followNames checker' steps scope' value') := by
  induction steps generalizing scope scope' value value' with
  | zero => exact .none
  | succ steps ih =>
    cases hvalue with
    | ident name =>
      apply optionRel_bind (h.symbol name .value hscope)
      intro declared declared' hdeclared
      apply optionRel_bind (h.node hdeclared).toOption
      rintro ⟨_, kind⟩ ⟨_, kind'⟩ ⟨_, hkind⟩
      cases hkind with
      | var name exported _ hvalue =>
        cases hvalue with
        | none => exact .none
        | some hvalue => exact ih hdeclared hvalue
      | _ => exact .none
    | call hcallee hargs => exact .some ⟨hscope, .call hcallee hargs⟩
    | object hproperties => exact .some ⟨hscope, .object hproperties⟩
    | function hnode => exact .some ⟨hscope, .function hnode⟩
    | other => exact .some ⟨hscope, .other⟩

theorem exportedExpr_alike (h : Checker.Alike r checker checker') {exported exported' : NodeId}
    (hexported : r exported exported') :
    Option.Rel (ScopedAlike r) (exportedExpr checker exported) (exportedExpr checker' exported') := by
  apply optionRel_bind (h.node hexported).toOption
  rintro ⟨_, kind⟩ ⟨_, kind'⟩ ⟨_, hkind⟩
  cases hkind with
  | exportDefault hvalue => exact followNames_alike h _ hexported hvalue
  | var name exported _ hvalue =>
    cases hvalue with
    | none => exact .none
    | some hvalue => exact followNames_alike h _ hexported hvalue
  | _ => exact .none

theorem objectNamed_alike (h : Checker.Alike r checker checker') {scope scope' : NodeId}
    (hscope : r scope scope') (name : String) :
    Option.Rel (TableAlike r) (objectNamed checker scope name) (objectNamed checker' scope' name) := by
  apply optionRel_bind (h.symbol name .value hscope)
  intro declared declared' hdeclared
  apply optionRel_bind (h.node hdeclared).toOption
  rintro ⟨_, kind⟩ ⟨_, kind'⟩ ⟨_, hkind⟩
  cases hkind with
  | var name exported _ hvalue =>
    cases hvalue with
    | none => exact .none
    | some hvalue =>
      cases hvalue with
      | object hproperties => exact .some ⟨hdeclared, hproperties⟩
      | _ => exact .none
  | _ => exact .none

theorem innermostTable_alike (h : Checker.Alike r checker checker') {scope scope' : NodeId}
    (hscope : r scope scope') (steps : Nat) {value value' : Expr} (hvalue : Expr.Alike r value value') :
    Option.Rel (TableAlike r) (innermostTable checker scope steps value)
      (innermostTable checker' scope' steps value') := by
  induction steps generalizing value value' with
  | zero => exact .none
  | succ steps ih =>
    cases hvalue with
    | call hcallee hargs =>
      cases hargs with
      | nil => exact .none
      | cons harg hrest =>
        cases harg with
        | object hproperties => exact .some ⟨hscope, hproperties⟩
        | ident name => exact objectNamed_alike h hscope name
        | call hcallee hargs => exact ih (.call hcallee hargs)
        | function _ => exact .none
        | other => exact .none
    | _ => exact .none

theorem callsWithoutParams_eq (h : Checker.Alike r checker checker') {scope scope' : NodeId}
    (hscope : r scope scope') {call call' : Expr} (hcall : Expr.Alike r call call') :
    callsWithoutParams checker scope call = callsWithoutParams checker' scope' call' := by
  have hsignature := h.callSignature hscope hcall
  unfold callsWithoutParams
  generalize checker.callSignature scope call = x, checker'.callSignature scope' call' = x'
    at hsignature
  cases hsignature with
  | none => rfl
  | @some signature signature' hsignature =>
    obtain ⟨node, params⟩ := signature
    obtain ⟨node', params'⟩ := signature'
    obtain ⟨-, hparams⟩ := hsignature
    cases hparams <;> rfl

theorem methodTable_alike (h : Checker.Alike r checker checker') {file file' : Path}
    (hfile : Option.Rel r (checker.defaultExport file) (checker'.defaultExport file')) :
    Option.Rel (TableAlike r) (methodTable checker file) (methodTable checker' file') := by
  apply optionRel_bind hfile
  intro exported exported' hexported
  apply optionRel_bind (exportedExpr_alike h hexported)
  rintro ⟨scope, value⟩ ⟨scope', value'⟩ ⟨hscope, hvalue⟩
  simp only [callsWithoutParams_eq h hscope hvalue]
  split
  · exact .none
  · exact innermostTable_alike h hscope _ hvalue

/-! ## Handlers -/

def PairAlike (r : NodeId → NodeId → Prop) (params params' : NodeId × NodeId) : Prop :=
  r params.1 params'.1 ∧ r params.2 params'.2

theorem twoParams_alike (h : Checker.Alike r checker checker') {function function' : NodeId}
    (hfunction : r function function') :
    Option.Rel (PairAlike r) (twoParams checker function) (twoParams checker' function') := by
  have hnode := h.node hfunction
  unfold twoParams
  generalize checker.node function = x, checker'.node function' = x' at hnode
  cases hnode with
  | error => exact .none
  | @ok node node' hnode =>
    obtain ⟨parent, kind⟩ := node
    obtain ⟨parent', kind'⟩ := node'
    obtain ⟨-, hkind⟩ := hnode
    cases hkind with
    | function name exported hparams =>
      cases hparams with
      | nil => exact .none
      | cons hrequest hrest =>
        cases hrest with
        | nil => exact .none
        | cons hresponse hrest =>
          cases hrest with
          | nil => exact .some ⟨hrequest, hresponse⟩
          | cons _ _ => exact .none
    | _ => exact .none

theorem contains_eq (hr : OneToOne r) {ids ids' : List NodeId} (h : List.Forall₂ r ids ids')
    {id id' : NodeId} (hid : r id id') : ids.contains id = ids'.contains id' := by
  rw [List.contains_eq_any_beq, List.contains_eq_any_beq]
  exact any_eq h fun _ _ hother => hr.beq_eq hid hother

theorem searchHandler_alike (h : Checker.Alike r checker checker') (steps : Nat)
    {work work' : List (NodeId × Expr)} {visited visited' : List NodeId}
    (hwork : List.Forall₂ (ScopedAlike r) work work') (hvisited : List.Forall₂ r visited visited') :
    Option.Rel (PairAlike r) (searchHandler checker steps work visited)
      (searchHandler checker' steps work' visited') := by
  induction steps generalizing work work' visited visited' with
  | zero => cases hwork <;> exact .none
  | succ steps ih =>
    cases hwork with
    | nil => exact .none
    | @cons item item' rest rest' hitem hrest =>
      obtain ⟨scope, value⟩ := item
      obtain ⟨scope', value'⟩ := item'
      obtain ⟨hscope, hvalue⟩ := hitem
      cases hvalue with
      | @function function function' hfunction =>
        have htwo := twoParams_alike h hfunction
        simp only [searchHandler]
        generalize twoParams checker function = x, twoParams checker' function' = x' at htwo
        cases htwo with
        | none => exact ih hrest hvisited
        | some htwo => exact .some htwo
      | ident name =>
        have hsymbol := h.symbol name .value hscope
        simp only [searchHandler]
        generalize checker.symbol scope name .value = x, checker'.symbol scope' name .value = x'
          at hsymbol
        cases hsymbol with
        | none => exact ih hrest hvisited
        | @some declared declared' hdeclared =>
          simp only [contains_eq h.oneToOne hvisited hdeclared]
          split
          · exact ih hrest hvisited
          · have hvisited' := List.Forall₂.cons hdeclared hvisited
            have hnode := h.node hdeclared
            generalize checker.node declared = y, checker'.node declared' = y' at hnode
            cases hnode with
            | error => exact ih hrest hvisited'
            | @ok node node' hnode =>
              obtain ⟨_, kind⟩ := node
              obtain ⟨_, kind'⟩ := node'
              obtain ⟨-, hkind⟩ := hnode
              cases hkind with
              | function _ _ _ =>
                have htwo := twoParams_alike h hdeclared
                simp only
                generalize twoParams checker declared = z, twoParams checker' declared' = z' at htwo
                cases htwo with
                | none => exact ih hrest hvisited'
                | some htwo => exact .some htwo
              | var _ _ _ hvalue =>
                cases hvalue with
                | none => exact ih hrest hvisited'
                | some hvalue => exact ih (.cons ⟨hdeclared, hvalue⟩ hrest) hvisited'
              | _ => exact ih hrest hvisited'
      | call _ hargs =>
        refine ih (List.rel_append (List.rel_map ?_ hargs) hrest) hvisited
        exact fun _ _ harg => ⟨hscope, harg⟩
      | object _ => exact ih hrest hvisited
      | other => exact ih hrest hvisited

theorem handlerParams_alike (h : Checker.Alike r checker checker') {scope scope' : NodeId}
    (hscope : r scope scope') {value value' : Expr} (hvalue : Expr.Alike r value value') :
    Option.Rel (PairAlike r) (handlerParams checker scope value)
      (handlerParams checker' scope' value') :=
  searchHandler_alike h _ (.cons ⟨hscope, hvalue⟩ .nil) .nil

/-! ## Shapes of parameters -/

variable {framework : Framework}

theorem comesFrom_eq (h : Checker.Alike r checker checker') {origin origin' : NodeId}
    (horigin : r origin origin') (module : String) :
    comesFrom checker origin module = comesFrom checker' origin' module := by
  unfold comesFrom
  rw [h.importOrigin horigin]

theorem isRequest_eq (h : Checker.Alike r checker checker') {type type' : CheckedType}
    (htype : CheckedType.Alike r type type') :
    isRequest checker framework type = isRequest checker' framework type' := by
  cases htype with
  | external name horigin _ => simp only [isRequest, comesFrom_eq h horigin]
  | _ => rfl

theorem wrapsRequest_eq (h : Checker.Alike r checker checker') {type type' : CheckedType}
    (htype : CheckedType.Alike r type type') :
    wrapsRequest checker framework type = wrapsRequest checker' framework type' := by
  cases htype with
  | unresolved name hargs =>
    cases hargs with
    | nil => rfl
    | cons harg _ => exact isRequest_eq h harg
  | external name horigin hargs => exact isRequest_eq h (.external name horigin hargs)
  | _ => rfl

theorem helperOf_alike (h : Checker.Alike r checker checker') {type type' : CheckedType}
    (htype : CheckedType.Alike r type type') :
    Option.Rel (fun found found' => found.1 = found'.1 ∧
        List.Forall₂ (CheckedType.Alike r) found.2 found'.2)
      (helperOf checker framework type) (helperOf checker' framework type') := by
  cases htype with
  | external name horigin hargs =>
    simp only [helperOf, comesFrom_eq h horigin]
    split
    · cases requestHelpers.find? (·.name == name) with
      | none => exact .none
      | some helper => exact .some ⟨rfl, hargs⟩
    · exact .none
  | _ => exact .none

theorem argumentShape_alike (h : Checker.Alike r checker checker') {args args' : List CheckedType}
    (hargs : List.Forall₂ (CheckedType.Alike r) args args') (place : Option Nat) :
    Encoding.Alike r Eq (argumentShape checker args place) (argumentShape checker' args' place) := by
  have harg : Option.Rel (CheckedType.Alike r) (place.bind (args[·]?)) (place.bind (args'[·]?)) := by
    cases place with
    | none => exact .none
    | some place => exact optionRel_getElem? hargs place
  unfold argumentShape
  generalize place.bind (args[·]?) = x, place.bind (args'[·]?) = x' at harg
  cases harg with
  | none => exact .pure rfl
  | some harg => exact Encoding.encode_alike h harg

theorem objectParts_alike {parts parts' : List CheckedType}
    (hparts : List.Forall₂ (CheckedType.Alike r) parts parts') :
    List.Forall₂ (Instance.Alike r) (objectParts parts) (objectParts parts') := by
  refine List.rel_filterMap (fun part part' hpart => ?_) hparts
  cases hpart with
  | object hnode henv => exact .some ⟨hnode, henv⟩
  | _ => exact .none

theorem memberShape_alike (h : Checker.Alike r checker checker') {objects objects' : List Instance}
    (hobjects : List.Forall₂ (Instance.Alike r) objects objects') (name : String) :
    Encoding.Alike r Eq (memberShape checker objects name) (memberShape checker' objects' name) := by
  have hmembers : List.Forall₂ (Member.Alike r)
      (objects.flatMap fun object => (checker.members object).toOption.getD [])
      (objects'.flatMap fun object => (checker'.members object).toOption.getD []) :=
    List.rel_flatMap hobjects fun _ _ hobject => optionRel_getD (h.members hobject).toOption .nil
  have hname : ∀ member member' : Member, Member.Alike r member member' →
      (member.name == name) = (member'.name == name) :=
    fun _ _ hmember => by rw [hmember.name]
  have hfound := optionRel_find? hmembers hname
  simp only [memberShape]
  generalize List.find? _ _ = x at hfound ⊢
  generalize List.find? _ _ = x' at hfound ⊢
  cases hfound with
  | none => exact .pure rfl
  | some hmember => exact Encoding.encodeNode_alike h hmember.node hmember.env

/-- Two shapes, one for the body and one for the query. -/
theorem requestObject_alike {body body' query query' : Encoding Shape}
    (hbody : Encoding.Alike r Eq body body') (hquery : Encoding.Alike r Eq query query') :
    Encoding.Alike r Eq (do return requestObject (← body) (← query))
      (do return requestObject (← body') (← query')) := by
  apply hbody.bind
  rintro body _ rfl
  apply hquery.bind
  rintro query _ rfl
  exact .pure rfl

theorem requestShapeOf_eq (h : Checker.Alike r checker checker') {type type' : CheckedType}
    (htype : CheckedType.Alike r type type') :
    requestShapeOf checker framework type = requestShapeOf checker' framework type' := by
  unfold requestShapeOf
  rw [isRequest_eq h htype]
  split
  · rfl
  · have hhelper : Option.Rel _ (helperOf checker framework type) (helperOf checker' framework type') :=
      helperOf_alike h htype
    generalize helperOf checker framework type = x, helperOf checker' framework type' = x' at hhelper
    cases hhelper with
    | @some found found' hfound =>
      obtain ⟨helper, args⟩ := found
      obtain ⟨helper', args'⟩ := found'
      obtain ⟨rfl, hargs⟩ := hfound
      exact Encoding.result_eq (requestObject_alike (argumentShape_alike h hargs _)
        (argumentShape_alike h hargs _))
    | none =>
      cases htype with
      | intersection hparts =>
        simp only [any_eq hparts fun _ _ hpart => wrapsRequest_eq h hpart]
        split
        · have hobjects := objectParts_alike hparts
          exact Encoding.result_eq (requestObject_alike (memberShape_alike h hobjects _)
            (memberShape_alike h hobjects _))
        · rfl
      | _ => rfl

theorem requestShape_eq (h : Checker.Alike r checker checker') {param param' : NodeId}
    (hparam : r param param') :
    requestShape checker framework param = requestShape checker' framework param' := by
  have hempty : Env.Alike r [] [] := .nil
  have htype := h.typeAt hparam hempty
  unfold requestShape
  generalize checker.typeAt param [] = x, checker'.typeAt param' [] = x' at htype
  cases htype with
  | ok htype => exact requestShapeOf_eq h htype
  | error => rfl

theorem responseShapeOf_eq (h : Checker.Alike r checker checker') {type type' : CheckedType}
    (htype : CheckedType.Alike r type type') :
    responseShapeOf checker framework type = responseShapeOf checker' framework type' := by
  cases htype with
  | external name horigin hargs =>
    simp only [responseShapeOf, comesFrom_eq h horigin]
    split
    · cases hargs with
      | nil => rfl
      | cons harg _ => exact Encoding.result_eq (Encoding.encode_alike h harg)
    · rfl
  | _ => rfl

theorem responseShape_eq (h : Checker.Alike r checker checker') {param param' : NodeId}
    (hparam : r param param') :
    responseShape checker framework param = responseShape checker' framework param' := by
  have hempty : Env.Alike r [] [] := .nil
  have htype := h.typeAt hparam hempty
  unfold responseShape
  generalize checker.typeAt param [] = x, checker'.typeAt param' [] = x' at htype
  cases htype with
  | ok htype => exact responseShapeOf_eq h htype
  | error => rfl

/-! ## Handlers of a file -/

theorem extractEntry_eq (h : Checker.Alike r checker checker') {scope scope' : NodeId}
    (hscope : r scope scope') {entry entry' : ObjectProperty}
    (hentry : PropertyOf.Alike (Expr.Alike r) entry entry') :
    extractEntry checker framework scope entry = extractEntry checker' framework scope' entry' := by
  obtain ⟨key, hvalue⟩ := hentry
  unfold extractEntry
  cases key with
  | none => simp only [Option.bind_eq_bind, Option.bind_none]
  | some key =>
    simp only [Option.bind_eq_bind, Option.bind_some]
    cases Method.ofKey? key with
    | none => rw [Option.bind_none, Option.bind_none]
    | some method =>
      rw [Option.bind_some, Option.bind_some]
      refine optionRel_eq (optionRel_bind (handlerParams_alike h hscope hvalue) ?_)
      rintro ⟨request, response⟩ ⟨request', response'⟩ ⟨hrequest, hresponse⟩
      have hrequest : requestShape checker framework request =
          requestShape checker' framework request' := requestShape_eq h hrequest
      have hresponse : responseShape checker framework response =
          responseShape checker' framework response' := responseShape_eq h hresponse
      simp only [hrequest, hresponse]
      exact .some rfl

/-- **Checkers that answer alike find the same handlers.** -/
theorem extractHandlers_eq (h : Checker.Alike r checker checker') {file file' : Path}
    (hfile : Option.Rel r (checker.defaultExport file) (checker'.defaultExport file')) :
    extractHandlers checker framework file = extractHandlers checker' framework file' := by
  have htable := methodTable_alike h hfile
  unfold extractHandlers
  generalize methodTable checker file = x, methodTable checker' file' = x' at htable
  cases htable with
  | none => rfl
  | @some table table' htable =>
    obtain ⟨scope, entries⟩ := table
    obtain ⟨scope', entries'⟩ := table'
    obtain ⟨hscope, hentries⟩ := htable
    refine List.forall₂_eq_eq_eq ▸ List.rel_filterMap (fun entry entry' hentry => ?_) hentries
    rw [extractEntry_eq h hscope hentry]
    cases extractEntry checker' framework scope' entry' with
    | none => exact .none
    | some handler => exact .some rfl

end ApiShapes
