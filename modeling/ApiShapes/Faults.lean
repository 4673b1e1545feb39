import ApiShapes.Checker

/-!
# Checkers that fail on some queries

* `Faults` : queries that are to have no answer;
* `Checker.withFaults` : a checker without these answers.
-/

namespace ApiShapes

/-- Queries that are to have no answer. -/
structure Faults where
  types : NodeId → Env → Bool := fun _ _ => false
  members : Instance → Bool := fun _ => false
  nodes : NodeId → Bool := fun _ => false

/-- The checker without the answers to some queries. -/
def Checker.withFaults (checker : Checker) (faults : Faults) : Checker :=
  { checker with
    typeAt := fun id env =>
      if faults.types id env then .error (.untyped id) else checker.typeAt id env
    members := fun object =>
      if faults.members object then .error (.notAnObject object.node) else checker.members object
    node := fun id => if faults.nodes id then .error (.unknownNode id) else checker.node id }

end ApiShapes
