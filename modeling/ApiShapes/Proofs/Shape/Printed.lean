import ApiShapes.Proofs.Source.TypePhrases
import ApiShapes.Shape.Print

/-!
# What a printed shape is made of

* `Shape.Legible` : the shapes whose text says everything about them: no union stands directly in a
  union, none has a single member, and no literal is a number;
* `Shape.tree` : the type expression that a shape prints as; `TypeTree.shape?` : the shape that a
  type expression stands for; `shape?_tree` : the second undoes the first;
* `Shape.chars` : the characters of a printed shape, with one equation for each form
  (`chars_union`, `chars_array`, `chars_object`).
-/

namespace ApiShapes

open Source

/-! ## Shapes and type expressions -/

/-- The shape is a union, be it empty. -/
def Shape.isUnion : Shape → Bool
  | union _ => true
  | _ => false

theorem Shape.isOpenUnion_of_not_union {t : Shape} (h : t.isUnion = false) : t.isOpenUnion = false := by
  cases t with
  | union members => cases h
  | _ => rfl

/-- The shapes that can be told from their text. -/
inductive Shape.Legible : Shape → Prop
  | primitive (kind : Primitive) : Legible (.primitive kind)
  | string (s : String) : Legible (.literal (.string s))
  | bool (b : Bool) : Legible (.literal (.bool b))
  | unknown : Legible .unknown
  | union {members : List Shape} (count : members.length ≠ 1)
      (flat : ∀ m ∈ members, m.isUnion = false) (legible : ∀ m ∈ members, Legible m) :
      Legible (.union members)
  | array {element : Shape} (legible : Legible element) : Legible (.array element)
  | object {fields : List Field} (legible : ∀ f ∈ fields, Legible f.type) :
      Legible (.object fields)

def Primitive.keyword : Primitive → Keyword
  | string => .string
  | number => .number
  | boolean => .boolean
  | undefined => .undefined

namespace Shape

mutual

/-- The type expression that a shape prints as. -/
def tree : Shape → TypeTree
  | primitive kind => .keyword kind.keyword
  | literal value => .literal value
  | unknown => .keyword .unknown
  | union [] => .keyword .never
  | union (member :: rest) => .union (member.tree :: trees rest)
  | array element => .array element.tree
  | object fields => .object (memberTrees fields)

def trees : List Shape → List TypeTree
  | [] => []
  | member :: rest => member.tree :: trees rest

def memberTrees : List Field → List MemberTree
  | [] => []
  | ⟨name, type, optional⟩ :: rest => .property name optional (some type.tree) :: memberTrees rest

end

end Shape

mutual

/-- The shape that a type expression stands for, if it is made of the forms that shapes have. -/
def TypeTree.shape? : TypeTree → Option Shape
  | .keyword .string => some (.primitive .string)
  | .keyword .number => some (.primitive .number)
  | .keyword .boolean => some (.primitive .boolean)
  | .keyword .undefined => some (.primitive .undefined)
  | .keyword .never => some (.union [])
  | .keyword .unknown => some .unknown
  | .literal value => some (.literal value)
  | .array element => element.shape?.map .array
  | .union members => (TypeTree.shapes? members).map .union
  | .object members => (TypeTree.fields? members).map .object
  | _ => none

def TypeTree.shapes? : List TypeTree → Option (List Shape)
  | [] => some []
  | member :: rest => do return (← member.shape?) :: (← TypeTree.shapes? rest)

def TypeTree.fields? : List MemberTree → Option (List Field)
  | [] => some []
  | .property name optional (some type) :: rest => do
    return ⟨name, ← type.shape?, optional⟩ :: (← TypeTree.fields? rest)
  | _ => none

end

namespace Shape

mutual

theorem shape?_tree : ∀ t : Shape, t.tree.shape? = some t
  | primitive kind => by cases kind <;> rfl
  | literal _ => rfl
  | unknown => rfl
  | union [] => rfl
  | union (member :: rest) => by
    simp [tree, TypeTree.shape?, TypeTree.shapes?, shape?_tree member, shapes?_trees rest]
  | array element => by simp [tree, TypeTree.shape?, shape?_tree element]
  | object fields => by simp [tree, TypeTree.shape?, fields?_memberTrees fields]

theorem shapes?_trees : ∀ ts : List Shape, TypeTree.shapes? (trees ts) = some ts
  | [] => rfl
  | member :: rest => by
    simp [trees, TypeTree.shapes?, shape?_tree member, shapes?_trees rest]

theorem fields?_memberTrees : ∀ fields : List Field,
    TypeTree.fields? (memberTrees fields) = some fields
  | [] => rfl
  | ⟨name, type, optional⟩ :: rest => by
    simp [memberTrees, TypeTree.fields?, shape?_tree type, fields?_memberTrees rest]

end

theorem trees_eq_map (ts : List Shape) : trees ts = ts.map tree := by
  induction ts with
  | nil => rfl
  | cons t ts ih => rw [trees, ih, List.map_cons]

/-! ## Characters -/

def chars (depth : Nat) (t : Shape) : List Char :=
  (t.printAt depth).toList

/-- The words that shapes are printed as. -/
def typeWords : List String :=
  ["string", "number", "boolean", "undefined", "unknown", "never", "true", "false"]

/-- The word that is the whole of a printed shape. -/
def word? : Shape → Option String
  | primitive kind => some kind.print
  | literal (.bool true) => some "true"
  | literal (.bool false) => some "false"
  | unknown => some "unknown"
  | union [] => some "never"
  | _ => none

theorem chars_of_word? {t : Shape} {w : String} (h : t.word? = some w) (depth : Nat) :
    t.chars depth = w.toList := by
  unfold word? at h
  split at h <;> cases h <;> rfl

theorem mem_typeWords {t : Shape} {w : String} (h : t.word? = some w) : w ∈ typeWords := by
  unfold word? at h
  split at h
  · rename_i kind
    cases h
    cases kind <;> decide
  all_goals
    cases h
    try decide

theorem needsQuoting_of_mem_typeWords {w : String} (h : w ∈ typeWords) :
    Text.needsQuoting w = false := by
  revert w
  decide

def blanks (depth : Nat) : List Char :=
  List.replicate (2 * depth) ' '

/-- Further members of a union, each behind its bar. -/
def barred (depth : Nat) (ts : List Shape) : List Char :=
  ts.flatMap fun t => ' ' :: '|' :: ' ' :: t.chars depth

def fieldLines (depth : Nat) (fields : List Field) : List Char :=
  fields.flatMap fun f =>
    '\n' :: (blanks (depth + 1) ++ ((Text.propertyKey f.name).toList ++
      fieldTail f.optional (f.type.chars (depth + 1)) []))

theorem fieldTail_append (optional : Bool) (text tail rest : List Char) :
    fieldTail optional text tail ++ rest = fieldTail optional text (tail ++ rest) := by
  simp [fieldTail]

theorem fieldLines_cons (depth : Nat) (f : Field) (fields : List Field) (rest : List Char) :
    fieldLines depth (f :: fields) ++ rest =
      '\n' :: (blanks (depth + 1) ++ ((Text.propertyKey f.name).toList ++
        fieldTail f.optional (f.type.chars (depth + 1)) (fieldLines depth fields ++ rest))) := by
  simp [fieldLines, fieldTail_append]

theorem chars_union_singleton (depth : Nat) (t : Shape) : chars depth (union [t]) = t.chars depth := by
  simp [chars, printAt, printMembers]

theorem chars_union (depth : Nat) (t u : Shape) (ts : List Shape) :
    chars depth (union (t :: u :: ts)) = t.chars depth ++ barred depth (u :: ts) := by
  have hbars : ∀ (ts : List Shape) (t : Shape),
      [' ', '|', ' '].intercalate ((printMembers depth (t :: ts)).map String.toList) =
        t.chars depth ++ barred depth ts := by
    intro ts
    induction ts with
    | nil => intro t; simp [printMembers, barred, chars]
    | cons u ts ih =>
      intro t
      have hu := ih u
      rw [printMembers, printMembers] at *
      simp only [List.map_cons, List.intercalate_cons_cons] at hu ⊢
      rw [hu]
      simp [barred, chars]
  rw [← hbars, chars, printAt, String.toList_intercalate]
  · rfl
  · simp

theorem chars_array (depth : Nat) (t : Shape) : chars depth (array t) =
    (if t.isOpenUnion then '(' :: (t.chars depth ++ [')']) else t.chars depth) ++ ['[', ']'] := by
  rw [chars, printAt]
  split <;> simp [chars, *]

theorem chars_object_nil (depth : Nat) : chars depth (object []) = ['{', '}'] := by
  simp [chars, printAt]

theorem chars_object (depth : Nat) (f : Field) (fields : List Field) :
    chars depth (object (f :: fields)) =
      '{' :: (fieldLines depth (f :: fields) ++ '\n' :: (blanks depth ++ ['}'])) := by
  have hlines : ∀ fields : List Field,
      '\n' :: (printFields depth fields).flatMap String.toList =
        fieldLines depth fields ++ ['\n'] := by
    intro fields
    induction fields with
    | nil => rfl
    | cons f fields ih =>
      rw [fieldLines_cons, ← ih, printFields]
      cases f.optional <;> simp [fieldTail, indent, blanks, chars]
  rw [chars, printAt]
  · have hline : '\n' :: (blanks depth ++ ['}']) = ['\n'] ++ (blanks depth ++ ['}']) := rfl
    rw [hline, ← List.append_assoc, ← hlines]
    simp [indent, blanks]
  · simp

theorem chars_object_append (depth : Nat) (f : Field) (fields : List Field) (rest : List Char) :
    chars depth (object (f :: fields)) ++ rest =
      '{' :: (fieldLines depth (f :: fields) ++ '\n' :: (blanks depth ++ '}' :: rest)) := by
  simp [chars_object]

end Shape

end ApiShapes
