import ApiShapes.Proofs.Arena.WellFormed
import ApiShapes.Proofs.Program.Unions
import ApiShapes.Proofs.Shape.Lines
import ApiShapes.Proofs.Shape.Pure
import ApiShapes.Proofs.Text.Bars
import ApiShapes.Source.Module

/-!
# Unions within shapes

* `Shape.Everywhere P` : `P` holds of a shape and of all shapes within it;
* `Shape.IsFlat` : no member of the shape is a union, if the shape is one;
* `Shape.closes_chars` : the text of a shape that is flat everywhere has a bar outside of its brackets
  exactly if the shape is a union of more than one member;
* `Program.unions_flat` : so the shape of what a program writes at a node has parentheses where they are
  needed, since unions are flat all the way from its types.
-/

namespace ApiShapes

open Text Encoding

namespace Shape

def parts : Shape → List Shape
  | union members => members
  | array element => [element]
  | object fields => fields.map (·.type)
  | _ => []

/-- `P` holds of the shape and of all shapes within it. -/
inductive Everywhere (P : Shape → Prop) : Shape → Prop
  | intro {shape : Shape} (here : P shape) (parts : ∀ part ∈ shape.parts, Everywhere P part) :
      Everywhere P shape

def IsFlat : Shape → Prop
  | union members => ∀ member ∈ members, member.isUnion = false
  | _ => True

variable {P Q : Shape → Prop} {t : Shape}

theorem Everywhere.here (h : Everywhere P t) : P t :=
  have ⟨here, _⟩ := h
  here

theorem Everywhere.part (h : Everywhere P t) {part : Shape} (hpart : part ∈ t.parts) :
    Everywhere P part :=
  have ⟨_, parts⟩ := h
  parts part hpart

theorem Everywhere.leaf (h : P t) (hleaf : t.parts = []) : Everywhere P t :=
  .intro h (by simp [hleaf])

/-- What follows from `P` everywhere in a shape holds everywhere in it. -/
theorem Everywhere.imp (himp : ∀ t, Everywhere P t → Q t) (h : Everywhere P t) : Everywhere Q t := by
  induction h with
  | intro here parts ih => exact .intro (himp _ (.intro here parts)) ih

/-! ## Texts of flat shapes -/

theorem closes_of_word? {w : String} (h : t.word? = some w) (depth : Nat) :
    Closes false (t.chars depth) := by
  have hwords : typeWords.all (·.toList.all isPlain) = true := by decide
  rw [chars_of_word? h]
  exact closes_plain (List.all_eq_true.1 hwords w (mem_typeWords h))

theorem closes_propertyKey (s : String) : Closes false (propertyKey s).toList := by
  rw [propertyKey]
  split
  · exact closes_quote s
  · next hbare =>
    have hparts := isKeyPart_of_bare (Bool.eq_false_of_not_eq_true hbare)
    exact closes_plain (List.all_eq_true.2 fun c hc => isPlain_of_marks (by decide) (hparts c hc))

theorem closes_literal (x : Double) : Closes false x.literal.toList :=
  closes_plain (List.all_eq_true.2 fun c hc => isPlain_of_marks (by decide) (x.isNumeral_literal c hc))

theorem closes_blanks (depth : Nat) : Closes false (blanks depth) :=
  closes_plain (by simp [blanks, isPlain, marks, openings, closings])

/-- Further members of a union have a bar in front of them. -/
theorem closes_barred {depth : Nat} {ts : List Shape} (h : ∀ t ∈ ts, ∃ bar, Closes bar (t.chars depth)) :
    Closes (!ts.isEmpty) (barred depth ts) := by
  induction ts with
  | nil => exact .nil
  | cons t ts ih =>
    obtain ⟨⟨bar, ht⟩, hts⟩ := List.forall_mem_cons.1 h
    have hblank : Closes false [' '] := closes_plain (by decide)
    have hbar : Closes true [' ', '|', ' '] := (hblank.append closes_bar).append hblank
    have hcons := (hbar.append ht).append (ih hts)
    exact hcons

/-- The lines of fields close if the types of the fields do. -/
theorem closes_fieldLines {depth : Nat} {fields : List Field}
    (h : ∀ f ∈ fields, ∃ bar, Closes bar (f.type.chars (depth + 1))) :
    ∃ bar, Closes bar (fieldLines depth fields) := by
  induction fields with
  | nil => exact ⟨false, .nil⟩
  | cons f fields ih =>
    obtain ⟨⟨bar, htype⟩, hfields⟩ := List.forall_mem_cons.1 h
    obtain ⟨bar', hrest⟩ := ih hfields
    have hline : Closes false ['\n'] := closes_plain (by decide)
    have hmark : Closes false ((if f.optional then ['?'] else []) ++ [':', ' ']) := by
      cases f.optional <;> exact closes_plain (by decide)
    have hend : Closes false [';'] := closes_plain (by decide)
    have htail := (hmark.append htype).append (hend.append hrest)
    have hall := hline.append ((closes_blanks (depth + 1)).append ((closes_propertyKey f.name).append htail))
    have hchars := fieldLines_cons depth f fields []
    rw [List.append_nil, List.append_nil] at hchars
    rw [hchars]
    exact ⟨_, by simpa [Source.fieldTail] using hall⟩

theorem closes_object {depth : Nat} {f : Field} {fields : List Field}
    (h : ∀ g ∈ f :: fields, ∃ bar, Closes bar (g.type.chars (depth + 1))) :
    Closes false ((object (f :: fields)).chars depth) := by
  obtain ⟨bar, hlines⟩ := closes_fieldLines h
  have hline : Closes false ['\n'] := closes_plain (by decide)
  have hinner := (hlines.append hline).append (closes_blanks depth)
  have hall := hinner.enclosed (by decide : '{' ∈ openings) (by decide : '}' ∈ closings)
  rw [chars_object]
  simpa using hall

/-- **The text of a flat shape has a bar outside of its brackets exactly if the shape is a union of more
than one member.** It leaves all brackets closed. -/
theorem closes_chars (h : Everywhere IsFlat t) (depth : Nat) : Closes t.isOpenUnion (t.chars depth) := by
  induction h generalizing depth with
  | @intro t here parts ih =>
    cases t with
    | primitive kind => exact closes_of_word? rfl depth
    | unknown => exact closes_of_word? rfl depth
    | literal value =>
      cases value with
      | string s => exact closes_quote s
      | number x => exact closes_literal x
      | bool b => cases b <;> exact closes_of_word? rfl depth
    | union members =>
      match members, here, ih with
      | [], _, _ => exact closes_of_word? rfl depth
      | [t], here, ih =>
        have ht := ih t (List.mem_singleton.2 rfl) depth
        rw [isOpenUnion_of_not_union (here t (List.mem_singleton.2 rfl))] at ht
        rw [chars_union_singleton]
        exact ht
      | t :: u :: ts, _, ih =>
        have ht := ih t List.mem_cons_self depth
        have hts := closes_barred fun v hv => ⟨_, ih v (List.mem_cons_of_mem t hv) depth⟩
        have hall := ht.append hts
        rw [List.isEmpty_cons, Bool.not_false, Bool.or_true] at hall
        rw [chars_union]
        exact hall
    | array element =>
      have helement := ih element (List.mem_singleton.2 rfl) depth
      have hbrackets : Closes false ['[', ']'] := Closes.nil.enclosed (by decide) (by decide)
      rw [chars_array]
      split
      · exact (helement.enclosed (by decide) (by decide)).append hbrackets
      · next hopen =>
        rw [Bool.eq_false_of_not_eq_true hopen] at helement
        exact helement.append hbrackets
    | object fields =>
      cases fields with
      | nil =>
        rw [chars_object_nil]
        exact Closes.nil.enclosed (by decide) (by decide)
      | cons f fields =>
        have htypes : ∀ g ∈ f :: fields, ∃ bar, Closes bar (g.type.chars (depth + 1)) :=
          fun g hg => ⟨_, ih g.type (List.mem_map_of_mem hg) (depth + 1)⟩
        exact closes_object htypes

/-- Within flat shapes an element of an array has parentheses exactly if its text has a bar outside of
brackets. -/
theorem printAt_array {element : Shape} (h : Everywhere IsFlat element) (depth : Nat) :
    (array element).printAt depth =
      if hasOpenBar (element.printAt depth) then "(" ++ element.printAt depth ++ ")[]"
      else element.printAt depth ++ "[]" := by
  rw [printAt, (closes_chars h depth).hasOpenBar]

end Shape

/-! ## Shapes of flat types -/

section

variable {checker : Checker} {around : List Instance} {depth : Nat} {type : CheckedType}

/-- No other type has a union as its shape. -/
theorem shapeAt_not_union (h : type.isUnion = false) :
    (shapeAt checker around depth type).isUnion = false := by
  unfold shapeAt
  split
  · rfl
  · cases type with
    | keyword word => cases word <;> rfl
    | union members => cases h
    | object node env =>
      simp only
      split
      · rfl
      · split <;> rfl
    | _ => rfl

theorem exists_member_of_mem_propertyFields {shapeOf : CheckedType → Shape} {members : List Member}
    {field : Field} (h : field ∈ propertyFields checker shapeOf members) :
    ∃ member ∈ members, field.type = nodeShape checker shapeOf member.node member.env := by
  obtain ⟨member, hmember, hfield⟩ := List.mem_filterMap.1 h
  obtain ⟨optional, -, rfl⟩ := Option.map_eq_some_iff.1 hfield
  exact ⟨member, hmember, rfl⟩

end

namespace Program

variable (p : Program)

theorem nodeShape_flat {shapeOf : CheckedType → Shape}
    (hshape : ∀ type, type.Everywhere CheckedType.IsFlat → (shapeOf type).Everywhere Shape.IsFlat)
    (id : NodeId) {env : Env} (henv : ∀ type ∈ env.types, type.Everywhere CheckedType.IsFlat) :
    (nodeShape p.checker shapeOf id env).Everywhere Shape.IsFlat := by
  unfold nodeShape
  split
  · next type htype => exact hshape type (p.keeps_isFlat.typeAt henv htype)
  · exact .leaf trivial rfl

/-- The shape of a flat type is flat. -/
theorem shapeAt_flat (around : List Instance) (depth : Nat) {type : CheckedType}
    (h : type.Everywhere CheckedType.IsFlat) :
    (shapeAt p.checker around depth type).Everywhere Shape.IsFlat := by
  obtain ⟨levels, hlevels⟩ : ∃ levels, maxDepth + 1 ≤ depth + levels := ⟨maxDepth + 1, by omega⟩
  induction levels generalizing around depth type with
  | zero =>
    rw [shapeAt_of_lt (by omega)]
    exact .leaf trivial rfl
  | succ levels ih =>
    by_cases hdepth : maxDepth < depth
    · rw [shapeAt_of_lt hdepth]
      exact .leaf trivial rfl
    have hnext : maxDepth + 1 ≤ depth + 1 + levels := by omega
    cases type with
    | union members =>
      rw [shapeAt_union (Nat.not_lt.1 hdepth)]
      refine .intro ?_ fun part hpart => ?_
      · intro shape hshape
        obtain ⟨member, hmember, rfl⟩ := List.mem_map.1 hshape
        exact shapeAt_not_union (h.here member hmember)
      · obtain ⟨member, hmember, rfl⟩ := List.mem_map.1 hpart
        exact ih around (depth + 1) (h.part hmember) hnext
    | array element =>
      rw [shapeAt_array (Nat.not_lt.1 hdepth)]
      refine .intro trivial fun part hpart => ?_
      rw [List.mem_singleton.1 hpart]
      exact ih around (depth + 1) (h.part (List.mem_singleton.2 rfl)) hnext
    | object node env =>
      rw [shapeAt_object (Nat.not_lt.1 hdepth) ⟨node, env⟩]
      split
      · exact .leaf trivial rfl
      · split
        · next members hmembers =>
          -- what type parameters stand for around an inherited member is flat, too
          have henv : ∀ type ∈ Env.types env, type.Everywhere CheckedType.IsFlat := fun _ => h.part
          have hmember := @Keeps.members p _ _ p.keeps_isFlat ⟨node, env⟩ _ henv hmembers
          refine .intro trivial fun part hpart => ?_
          obtain ⟨field, hfield, rfl⟩ := List.mem_map.1 hpart
          obtain ⟨member, hmem, htype⟩ := exists_member_of_mem_propertyFields hfield
          rw [htype]
          exact p.nodeShape_flat (fun type htype => ih _ (depth + 1) htype hnext) member.node
            (hmember member hmem)
        · exact .leaf trivial rfl
    | keyword word =>
      rw [shapeAt, if_neg hdepth]
      cases word <;> exact .leaf trivial rfl
    | _ =>
      rw [shapeAt, if_neg hdepth]
      exact .leaf trivial rfl

/-! ## All together -/

/-- **Unions are flat from the types of a program to the text of its shapes.** No type that a program
produces has a union right within a union, here or anywhere within it. A union that is resolved lists
what its members are unions of, in order, however deep it is hidden behind aliases, type parameters and
defaults. So the shape of what is written at a node has no union right within a union either, and where
it is printed, the element of an array has parentheses exactly if its text has a bar outside of
brackets and quotes. -/
theorem unions_flat (p : Program) :
    (∀ type, p.Produces type → type.Everywhere CheckedType.IsFlat) ∧
    (∀ depth scope env members type, (∀ bound ∈ Env.types env, bound.Everywhere CheckedType.IsFlat) →
      p.resolveWith (p.instantiate depth) scope env (.union members) = .ok type →
        ∃ types, List.Forall₂
            (fun written type => p.resolveWith (p.instantiate depth) scope env written = .ok type)
            members types ∧ type = .union (types.flatMap CheckedType.leaves)) ∧
    ∀ id env, (∀ type ∈ Env.types env, p.Produces type) →
      (result (encodeNode p.checker id env)).Everywhere fun shape => shape.IsFlat ∧
        ∀ element, shape = .array element → ∀ depth, shape.printAt depth =
          if hasOpenBar (element.printAt depth) then "(" ++ element.printAt depth ++ ")[]"
          else element.printAt depth ++ "[]" := by
  refine ⟨fun type h => h.flat, fun _ _ _ _ _ henv h => resolveWith_union henv h,
    fun id env henv => ?_⟩
  have hflat : (nodeShape p.checker (shapeAt p.checker [] 0) id env).Everywhere Shape.IsFlat :=
    p.nodeShape_flat (fun type htype => p.shapeAt_flat [] 0 htype) id fun type htype =>
      (henv type htype).flat
  have hresult : result (encodeNode p.checker id env) =
      nodeShape p.checker (shapeAt p.checker [] 0) id env :=
    ((EncodeCall.atNode id env).steps_yields p.checker).result_eq
  rw [hresult]
  refine hflat.imp fun shape hshape => ⟨hshape.here, ?_⟩
  rintro element rfl depth
  exact Shape.printAt_array (hshape.part (List.mem_singleton.2 rfl)) depth

/-- A union behind an alias that is the default of a type parameter, which stands in a union. -/
def unionModule : ParsedModule :=
  (.ofString "a.ts", Source.parseModule (.ofPath (.ofString "a.ts")) (
    "type AB = 'a' | 'b';\ntype Of<T = AB> = T | 'c';\ninterface List \x7b items: Of[] \x7d"))

def unionProgram : Program where
  arena := Arena.ofModules [unionModule]
  files := [(unionModule.1, ⟨0⟩)]
  roots := [unionModule.1]
  resolver := {}

/-- Within another union the two members have become four, and the element of the array is in
parentheses. -/
theorem unions_flat_default :
    (∃ types : List CheckedType, types.length = 2 ∧ (types.flatMap CheckedType.leaves).length = 4 ∧
      unionProgram.resolve ⟨0⟩ [] (.union [.reference "Of" [], .literal (.string "d")]) =
        .ok (.union (types.flatMap CheckedType.leaves))) ∧
    (result (encodeNode unionProgram.checker ⟨3⟩ [])).print =
      "\x7b\n  items: (\"a\" | \"b\" | \"c\")[];\n\x7d" ∧
    (result (encodeNode unionProgram.checker ⟨3⟩ [])).Everywhere Shape.IsFlat := by
  obtain ⟨-, hunion, hshape⟩ := unions_flat unionProgram
  have hempty : ∀ bound ∈ Env.types [], bound.Everywhere CheckedType.IsFlat := by simp [Env.types]
  have hcount : (unionProgram.resolve ⟨0⟩ [] (.union [.reference "Of" [], .literal (.string "d")])).toOption.map
      (·.parts.length) = some 4 := by
    decide +kernel
  refine ⟨?_, by decide +kernel, ?_⟩
  · cases hresolved : unionProgram.resolve ⟨0⟩ [] (.union [.reference "Of" [], .literal (.string "d")]) with
    | error e =>
      rw [hresolved] at hcount
      cases hcount
    | ok type =>
      obtain ⟨types, htypes, rfl⟩ := hunion _ ⟨0⟩ [] _ type hempty hresolved
      rw [hresolved] at hcount
      exact ⟨types, htypes.length_eq.symm, Option.some.inj hcount, rfl⟩
  · exact (hshape ⟨3⟩ [] (by simp [Env.types])).imp fun _ h => h.here.1

end Program

end ApiShapes
