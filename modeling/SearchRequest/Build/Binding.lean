import SearchRequest.Build.Names

/-!
# Criteria or a binding

A function that takes an index and criteria builds criteria if it is given any, and otherwise
binds the index: to a name, as the default of a search text, or to the name of the index.

* `Build.criteriaOrBinding` — what criteria and bindings make together.
-/

namespace SearchRequest.Build

/-- What criteria and bindings make together: no more than one of criteria, name and default may
be given; with none of them the index is bound to its own name. -/
def criteriaOrBinding (combinator : String) (index : IndexedName) (criteria : Option Criteria)
    (name : Option String) (default : Option DefaultSpec) (constraint : ConstraintSpec) :
    Build Query :=
  match criteria, name, default with
  | some c, none, none => .ok (.criteria c)
  | none, some n, none => .ok (.constraint ⟨n, constraint⟩)
  | none, none, some spec => .ok (.default spec)
  | none, none, none => do
    let n ← index.requireName
    .ok (.constraint ⟨n, constraint⟩)
  | _, _, _ => .error (.conflictingBinding combinator)

end SearchRequest.Build
