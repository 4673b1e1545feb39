import ApiShapes.Shape.Encode

/-!
# Running the steps of an encoding

* `Encoding.run_bind`, `Encoding.run_degrade` : what two steps in a row come to, and what comes of a
  failure that is taken up;
* `Encoding.Yields m around a` : with these object types around them the steps come to `a`, and leave the
  object types as they were;
* `Encoding.Gives m around shape` : the same for steps that may also fail, where `shape` is unknown.
-/

namespace ApiShapes.Encoding

variable {α β : Type} {around : List Instance}

theorem run_bind (m : Encoding α) (f : α → Encoding β) (around : List Instance) :
    (m >>= f).run.run around =
      match m.run.run around with
      | (.ok a, after) => (f a).run.run after
      | (.error e, after) => (.error e, after) := by
  show (match m.run.run around with | (x, after) => (ExceptT.bindCont f x).run after) = _
  rcases m.run.run around with ⟨x, after⟩
  cases x <;> rfl

theorem run_degrade (shape : Encoding Shape) (around : List Instance) :
    (degrade shape).run.run around =
      match shape.run.run around with
      | (.ok shape, after) => (.ok shape, after)
      | (.error _, after) => (.ok .unknown, after) := by
  rcases h : shape.run.run around with ⟨x, after⟩
  unfold degrade
  simp only [tryCatch, tryCatchThe, MonadExceptOf.tryCatch, ExceptT.tryCatch, ExceptT.run_mk,
    StateT.run_bind]
  unfold ExceptT.run at h
  rw [h]
  cases x <;> rfl

/-! ## Steps that succeed -/

/-- The steps come to `a` and leave the object types around them as they were. -/
def Yields (m : Encoding α) (around : List Instance) (a : α) : Prop :=
  m.run.run around = (.ok a, around)

theorem Yields.pure (a : α) : Yields (pure a) around a := rfl

theorem Yields.bind {m : Encoding α} {a : α} (h : Yields m around a) (f : α → Encoding β) :
    (m >>= f).run.run around = (f a).run.run around := by
  rw [run_bind, h]

theorem Yields.map {m : Encoding α} {a : α} (h : Yields m around a) (f : α → β) :
    Yields (do return f (← m)) around (f a) :=
  h.bind _

theorem Yields.mapM {f : α → Encoding β} {g : α → β} (h : ∀ a, Yields (f a) around (g a))
    (as : List α) : Yields (as.mapM f) around (as.map g) := by
  induction as with
  | nil => exact .pure []
  | cons a rest ih =>
    rw [List.mapM_cons]
    exact ((h a).bind _).trans (ih.bind _)

theorem Yields.filterMapM {f : α → Encoding (Option β)} {g : α → Option β}
    (h : ∀ a, Yields (f a) around (g a)) (as : List α) :
    Yields (as.filterMapM f) around (as.filterMap g) := by
  induction as with
  | nil => exact .pure []
  | cons a rest ih =>
    rw [List.filterMapM_cons, List.filterMap_cons]
    refine ((h a).bind _).trans ?_
    cases g a with
    | none => exact ih
    | some b => exact ih.bind _

/-! ## Steps that may fail -/

/-- The steps leave the object types around them as they were. They come to `shape`, or they fail and
`shape` is unknown. -/
inductive Gives (m : Encoding Shape) (around : List Instance) : Shape → Prop
  | ok {shape : Shape} (h : m.run.run around = (.ok shape, around)) : Gives m around shape
  | error {e : EncodeError} (h : m.run.run around = (.error e, around)) : Gives m around .unknown

theorem Gives.of_run_eq {m m' : Encoding Shape} {shape : Shape}
    (hrun : m.run.run around = m'.run.run around) (h : Gives m' around shape) :
    Gives m around shape := by
  cases h with
  | ok h => exact .ok (hrun.trans h)
  | error h => exact .error (hrun.trans h)

theorem Gives.throw (e : EncodeError) : Gives (throw e) around .unknown := .error rfl

theorem Yields.gives {m : Encoding Shape} {shape : Shape} (h : Yields m around shape) :
    Gives m around shape :=
  .ok h

/-- A failure that is taken up is a shape like any other. -/
theorem Gives.degrade {m : Encoding Shape} {shape : Shape} (h : Gives m around shape) :
    Yields (degrade m) around shape := by
  unfold Yields
  cases h with
  | ok h => rw [run_degrade, h]
  | error h => rw [run_degrade, h]

theorem Yields.result_eq {m : Encoding Shape} {shape : Shape} (h : Yields m [] shape) :
    result m = shape := by
  unfold result
  rw [h]

end ApiShapes.Encoding
