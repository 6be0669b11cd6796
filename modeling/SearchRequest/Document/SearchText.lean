import SearchRequest.Document.Query.Read
import SearchRequest.Document.Query.Written

/-!
# Search texts and their bindings

A search text such as `rating:5 moby` gets its meaning from bindings: named constraints for the
terms that name one, a default for the others, and what an empty text matches.

* `EmptyPolicy` — what an empty text matches.
* `TermBinding` — the meaning of terms without a constraint, and of the empty text.
* `ParseBindings` — constraints and term bindings.
* `SearchText` — a text with its bindings.
-/

namespace SearchRequest

/-- What an empty search text matches. -/
inductive EmptyPolicy where
  /-- Everything. -/
  | allResults
  /-- Nothing. -/
  | noResults
  deriving DecidableEq, Repr

namespace EmptyPolicy

/-- The name of a policy. -/
def name : EmptyPolicy → String
  | .allResults => "all-results"
  | .noResults => "no-results"

/-- Both policies. -/
def all : List EmptyPolicy := [.allResults, .noResults]

/-- The policy with a name. -/
def ofName? (text : String) : Option EmptyPolicy := all.find? fun p => p.name = text

/-- A policy as it is written, in a record of its own. -/
def node (p : EmptyPolicy) : Node := .record (Node.member "apply" (.string p.name))

/-- A policy, read from a record of its own. -/
def decoder : Decoder EmptyPolicy :=
  Fields.record (Fields.required "apply" (Decoder.oneOfNames (all.map fun p => (p.name, p))))

end EmptyPolicy

/-- The meaning of terms without a constraint, and of the empty text. -/
structure TermBinding where
  /-- What the terms mean. -/
  default : Option DefaultSpec := none
  /-- What the empty text matches. -/
  empty : Option EmptyPolicy := none
  deriving BEq, DecidableEq

/-- The bindings of a search text. -/
structure ParseBindings where
  /-- The named constraints. -/
  constraint : Option (List Constraint) := none
  /-- The meaning of other terms. -/
  term : Option TermBinding := none
  deriving BEq, DecidableEq

/-- A search text with its bindings. -/
structure SearchText where
  /-- The text. -/
  text : String
  /-- The named constraints. -/
  constraint : Option (List Constraint) := none
  /-- The meaning of other terms. -/
  term : Option TermBinding := none
  deriving BEq, DecidableEq

namespace TermBinding

/-- Whether nothing is bound. -/
def isEmpty (t : TermBinding) : Bool := t.default.isNone && t.empty.isNone

/-- Term bindings as they are written. -/
def node (t : TermBinding) : Node :=
  .record (Node.optional "default" DefaultSpec.node t.default ++
    Node.optional "empty" EmptyPolicy.node t.empty)

/-- Term bindings, read. -/
def decoder : Decoder TermBinding :=
  Fields.record (mk <$> Fields.optional "default" DefaultSpec.decoder <*>
    Fields.optional "empty" EmptyPolicy.decoder)

end TermBinding

namespace ParseBindings

/-- The entries of bindings. -/
def entries (constraint : Option (List Constraint)) (term : Option TermBinding) :
    List (String × Node) :=
  Node.optional "constraint" (Node.listOf Constraint.node) constraint ++
    Node.optional "term" TermBinding.node term

/-- Bindings as they are written. -/
def node (b : ParseBindings) : Node := .record (entries b.constraint b.term)

/-- Bindings, read. -/
def decoder : Decoder ParseBindings :=
  Fields.record (mk <$> Fields.optional "constraint" (Decoder.list Constraint.decoder) <*>
    Fields.optional "term" TermBinding.decoder)

end ParseBindings

namespace SearchText

/-- A search text as it is written. -/
def node (t : SearchText) : Node :=
  .record (Node.member "qtext" (.string t.text) ++ ParseBindings.entries t.constraint t.term)

/-- A search text, read. -/
def decoder : Decoder SearchText :=
  Fields.record (mk <$> Fields.required "qtext" Decoder.string <*>
    Fields.optional "constraint" (Decoder.list Constraint.decoder) <*>
    Fields.optional "term" TermBinding.decoder)

end SearchText

end SearchRequest
