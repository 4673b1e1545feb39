import ApiShapes.Proofs.Shape.Pure
import Mathlib.Data.List.Basic

/-!
# Shapes have few levels

* `Shape.StandsAt whole level piece` : in a shape another one stands so many levels down;
* `Shape.cut levels shape` : the shape with no more levels than these;
* `cut_shapeWithin` : a shape with fewer levels is one with more levels, cut (`shapeWithin` gives both);
* `encode_bounded` : what comes of a call has at most one level more than the bound, where nothing is known
  any more, and a higher bound would change nothing above that level;
* `shapeWithin_nested` : a generic interface that refers to an ever larger instance of itself fills all
  levels, so that no smaller bound holds for all checkers.
-/

namespace ApiShapes

open Encoding

/-! ## Levels of a shape -/

namespace Shape

/-- In the first shape the second one stands, so many levels down. -/
inductive StandsAt : Shape → Nat → Shape → Prop
  | here (shape : Shape) : StandsAt shape 0 shape
  | member {members : List Shape} {member piece : Shape} {level : Nat} (hmem : member ∈ members)
      (h : StandsAt member level piece) : StandsAt (.union members) (level + 1) piece
  | element {element piece : Shape} {level : Nat} (h : StandsAt element level piece) :
      StandsAt (.array element) (level + 1) piece
  | field {fields : List Field} {field : Field} {piece : Shape} {level : Nat} (hmem : field ∈ fields)
      (h : StandsAt field.type level piece) : StandsAt (.object fields) (level + 1) piece

/-- The shape with so many levels. What lies below them is unknown; on them all is as it was. -/
def cut : Nat → Shape → Shape
  | 0, _ => .unknown
  | levels + 1, shape =>
    match shape with
    | .primitive kind => .primitive kind
    | .literal value => .literal value
    | .union members => .union (members.map (cut levels))
    | .array element => .array (element.cut levels)
    | .object fields => .object (fields.map fun field => { field with type := field.type.cut levels })
    | .unknown => .unknown

variable {levels level : Nat} {shape piece : Shape}

theorem cut_unknown (levels : Nat) : cut levels .unknown = .unknown := by
  cases levels <;> rfl

/-- What stands in a shape that was cut is no deeper than that, and at the very bottom unknown. -/
theorem StandsAt.of_cut (h : StandsAt (shape.cut levels) level piece) :
    level ≤ levels ∧ (level = levels → piece = .unknown) := by
  induction levels generalizing shape level piece with
  | zero =>
    cases h
    exact ⟨Nat.le_refl 0, fun _ => rfl⟩
  | succ levels ih =>
    -- one level down the next shape was cut one level earlier
    have hbelow : ∀ {inner : Shape} {level : Nat}, StandsAt (inner.cut levels) level piece →
        level + 1 ≤ levels + 1 ∧ (level + 1 = levels + 1 → piece = .unknown) := by
      intro inner level hinner
      obtain ⟨hle, hbottom⟩ := ih hinner
      exact ⟨by omega, fun heq => hbottom (by omega)⟩
    cases shape with
    | union members =>
      cases h with
      | here => exact ⟨Nat.zero_le _, by omega⟩
      | member hmem h =>
        obtain ⟨inner, -, rfl⟩ := List.mem_map.1 hmem
        exact hbelow h
    | array element =>
      cases h with
      | here => exact ⟨Nat.zero_le _, by omega⟩
      | element h => exact hbelow h
    | object fields =>
      cases h with
      | here => exact ⟨Nat.zero_le _, by omega⟩
      | field hmem h =>
        obtain ⟨inner, -, rfl⟩ := List.mem_map.1 hmem
        exact hbelow h
    | _ =>
      cases h
      exact ⟨Nat.zero_le _, by omega⟩

end Shape

/-! ## Fewer levels are more levels, cut -/

variable {checker : Checker} {levels : Nat}

theorem cut_keyword (word : Keyword) : word.shape.cut (levels + 1) = word.shape := by
  cases word <;> rfl

theorem cut_nodeShape (shapeOf : CheckedType → Shape) (id : NodeId) (env : Env) :
    (nodeShape checker shapeOf id env).cut levels =
      nodeShape checker (fun type => (shapeOf type).cut levels) id env := by
  unfold nodeShape
  cases checker.typeAt id env with
  | ok type => rfl
  | error e => exact Shape.cut_unknown levels

theorem cut_propertyFields (shapeOf : CheckedType → Shape) (members : List Member) :
    ((propertyFields checker shapeOf members).map fun field =>
        { field with type := field.type.cut levels }) =
      propertyFields checker (fun type => (shapeOf type).cut levels) members := by
  unfold propertyFields
  rw [List.map_filterMap]
  apply List.filterMap_congr
  intro member _
  cases propertyFlag? checker member with
  | none => rfl
  | some optional => simp [cut_nodeShape]

/-- A shape with fewer levels is one with more levels, cut: the object types around a type are the same
for both. -/
theorem cut_shapeWithin {more : Nat} (hmore : levels ≤ more) (around : List Instance)
    (type : CheckedType) :
    (shapeWithin checker more around type).cut levels = shapeWithin checker levels around type := by
  induction levels generalizing more around type with
  | zero => rfl
  | succ levels ih =>
    obtain ⟨more, rfl⟩ : ∃ rest, more = rest + 1 := ⟨more - 1, by omega⟩
    have hbelow : ∀ around, (fun type => (shapeWithin checker more around type).cut levels) =
        shapeWithin checker levels around :=
      fun around => funext fun type => ih (by omega) around type
    cases type with
    | keyword word => exact cut_keyword word
    | union members =>
      simp only [shapeWithin, Shape.cut, List.map_map, ← hbelow]
      rfl
    | array element => simp only [shapeWithin, Shape.cut, ← hbelow]
    | object node env =>
      simp only [shapeWithin]
      split
      · rfl
      · cases checker.members ⟨node, env⟩ with
        | ok members => simp only [Shape.cut, cut_propertyFields, hbelow]
        | error e => rfl
    | _ => rfl

/-! ## Calls with another bound -/

namespace EncodeCall

variable (checker)

def stepsWithin (bound : Nat) : EncodeCall → Encoding Shape
  | .ofType type => degrade (encodeAt checker bound (bound + 1) type)
  | .atNode id env => nodeWith checker (encodeAt checker bound (bound + 1)) id env

theorem steps_eq_stepsWithin (call : EncodeCall) :
    call.steps checker = call.stepsWithin checker maxDepth := by
  cases call <;> rfl

def shapeWithin (levels : Nat) (around : List Instance) : EncodeCall → Shape
  | .ofType type => ApiShapes.shapeWithin checker levels around type
  | .atNode id env => nodeShape checker (ApiShapes.shapeWithin checker levels around) id env

theorem stepsWithin_yields (bound : Nat) (around : List Instance) (call : EncodeCall) :
    Yields (call.stepsWithin checker bound) around (call.shapeWithin checker (bound + 1) around) := by
  have hencode : ∀ type, Gives (encodeAt checker bound (bound + 1) type) around
      (ApiShapes.shapeWithin checker (bound + 1) around type) :=
    encodeAt_gives_within bound (bound + 1) around
  cases call with
  | ofType type => exact (hencode type).degrade
  | atNode id env => exact nodeWith_yields hencode id env

theorem cut_shapeWithin {more : Nat} (hmore : levels ≤ more) (around : List Instance)
    (call : EncodeCall) :
    (call.shapeWithin checker more around).cut levels = call.shapeWithin checker levels around := by
  cases call with
  | ofType type => exact ApiShapes.cut_shapeWithin hmore around type
  | atNode id env =>
    simp only [shapeWithin, cut_nodeShape, ApiShapes.cut_shapeWithin hmore]

end EncodeCall

variable (checker)

/-- **Encoding is bounded for every checker**, also for one that answers with types that never repeat. Each
call comes to a shape and leaves the object types around as they were. In that shape nothing stands deeper
than one level below the bound, and what stands there is unknown. With a higher bound the call comes to a
shape that is the same on all levels up to the bound. -/
theorem encode_bounded (call : EncodeCall) (around : List Instance) :
    ∃ shape, Yields (call.steps checker) around shape ∧
      (∀ level piece, shape.StandsAt level piece →
        level ≤ maxDepth + 1 ∧ (level = maxDepth + 1 → piece = .unknown)) ∧
      ∀ bound, maxDepth ≤ bound → ∃ deeper, Yields (call.stepsWithin checker bound) around deeper ∧
        deeper.cut (maxDepth + 1) = shape := by
  have hyields := call.stepsWithin_yields checker maxDepth around
  rw [← EncodeCall.steps_eq_stepsWithin] at hyields
  refine ⟨_, hyields, fun level piece hpiece => ?_, fun bound hbound => ?_⟩
  · -- the shape is itself, cut
    rw [← call.cut_shapeWithin checker (Nat.le_refl _) around] at hpiece
    exact hpiece.of_cut
  · refine ⟨_, call.stepsWithin_yields checker bound around, ?_⟩
    exact call.cut_shapeWithin checker (by omega) around

/-! ## Instances that never repeat -/

/-- A list of lists of texts, so many deep. -/
def nestedList : Nat → CheckedType
  | 0 => .keyword .string
  | depth + 1 => .array (nestedList depth)

/-- The interface `L<T> { next: L<T[]> }` for such lists. -/
def nestedInstance (depth : Nat) : Instance := ⟨⟨0⟩, [("T", nestedList depth)]⟩

/-- A checker that knows this interface. -/
def nestedChecker : Checker where
  node _ := .ok { parent := none, kind := .property "next" false none }
  typeAt _ env := .ok (.object ⟨0⟩ (env.map fun (name, type) => (name, .array type)))
  members object := .ok [⟨"next", ⟨1⟩, object.env⟩]
  defaultExport _ := none
  symbol _ _ _ := none
  callSignature _ _ := none
  importOrigin _ := none

/-- Objects within objects. -/
def objectChain : Nat → Shape
  | 0 => .unknown
  | levels + 1 => .object [⟨"next", objectChain levels, false⟩]

theorem same_nestedList_of_lt {m n : Nat} (h : m < n) :
    (nestedList n).same (nestedList m) = false := by
  induction n generalizing m with
  | zero => omega
  | succ n ih =>
    cases m with
    | zero => simp [nestedList, CheckedType.same]
    | succ m => simpa [nestedList, CheckedType.same] using ih (by omega)

theorem same_nestedInstance_of_lt {m n : Nat} (h : m < n) :
    (nestedInstance n).same (nestedInstance m) = false := by
  simp [nestedInstance, Instance.same, sameEnvs, same_nestedList_of_lt h]

/-- Every level has an object: the instances around are all smaller than the one that is met. -/
theorem shapeWithin_nested (levels depth : Nat) (around : List Instance)
    (haround : ∀ object ∈ around, ∃ smaller < depth, object = nestedInstance smaller) :
    shapeWithin nestedChecker levels around (.object ⟨0⟩ [("T", nestedList depth)]) =
      objectChain levels := by
  induction levels generalizing depth around with
  | zero => rfl
  | succ levels ih =>
    have hnew : around.any (nestedInstance depth).same = false := by
      rw [List.any_eq_false]
      intro object hobject
      obtain ⟨smaller, hsmaller, rfl⟩ := haround object hobject
      simp [same_nestedInstance_of_lt hsmaller]
    have hnext := ih (depth + 1) (nestedInstance depth :: around) fun object hobject => by
      rcases List.mem_cons.1 hobject with rfl | hobject
      · exact ⟨depth, by omega, rfl⟩
      · obtain ⟨smaller, hsmaller, rfl⟩ := haround object hobject
        exact ⟨smaller, by omega, rfl⟩
    rw [shapeWithin, show (⟨⟨0⟩, [("T", nestedList depth)]⟩ : Instance) = nestedInstance depth from rfl,
      hnew, objectChain, ← hnext]
    rfl

theorem standsAt_objectChain (level below : Nat) :
    (objectChain (level + below)).StandsAt level (objectChain below) := by
  induction level with
  | zero =>
    rw [Nat.zero_add]
    exact .here _
  | succ level ih =>
    rw [Nat.succ_add]
    exact .field List.mem_cons_self ih

/-- The interface for texts fills all levels, with the bound that encodings have and with a higher one. -/
theorem encode_bounded_nested : ∃ shape deeper : Shape,
    Yields ((EncodeCall.ofType (.object ⟨0⟩ [("T", nestedList 0)])).steps nestedChecker) [] shape ∧
      shape.StandsAt 33 .unknown ∧ deeper.StandsAt 33 (objectChain 8) ∧ maxDepth ≤ 40 ∧
      deeper.cut 33 = shape := by
  let call := EncodeCall.ofType (.object ⟨0⟩ [("T", nestedList 0)])
  have hchain : ∀ levels, call.shapeWithin nestedChecker levels [] = objectChain levels := fun levels =>
    shapeWithin_nested levels 0 [] (by simp)
  have hyields : ∀ bound, Yields (call.stepsWithin nestedChecker bound) [] (objectChain (bound + 1)) :=
    fun bound => hchain (bound + 1) ▸ call.stepsWithin_yields nestedChecker bound []
  have hunique : ∀ {steps : Encoding Shape} {shape shape' : Shape}, Yields steps [] shape →
      Yields steps [] shape' → shape = shape' := by
    intro steps shape shape' h h'
    simpa using congrArg Prod.fst (h.symm.trans h')
  obtain ⟨shape, hshape, hlevels, hmore⟩ := encode_bounded nestedChecker call []
  obtain ⟨deeper, hdeeper, hcut⟩ := hmore 40 (by decide)
  obtain rfl := hunique hdeeper (hyields 40)
  obtain rfl : shape = objectChain 33 := hunique hshape (hyields 32)
  have hbottom := standsAt_objectChain 33 0
  have hunknown := (hlevels 33 _ hbottom).2 rfl
  exact ⟨_, _, hshape, hunknown ▸ hbottom, standsAt_objectChain 33 8, by decide, hcut⟩

end ApiShapes
