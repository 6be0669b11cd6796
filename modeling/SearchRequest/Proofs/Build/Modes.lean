import SearchRequest.Proofs.Build.Runs

/-!
# How criteria are expressed

A request records how its criteria are expressed: as an example, or as queries and a search text.
The record stands beside the criteria, and a document may state it as it likes.

* `RequestChange`, `Request.change` — steps of a run, and edits of the criteria in place.
* `Request.Reached` — the requests that changes lead to, from the request without clauses or from
  one that was read.
* `Request.Typed.change` — a change leaves the record in agreement with the criteria.
* `Request.Reached.mode_eq` — the record of every request that is reached says what its criteria
  are, and a copy of the request is the request itself.
-/

namespace SearchRequest

/-! ## Edits of criteria -/

namespace WhereClause

/-- Another example does not turn criteria into an example. -/
@[simp] theorem queryType_replaceExample (v : Value) (w : WhereClause) :
    (w.replaceExample v).queryType = w.queryType := by
  cases w <;> rfl

@[simp] theorem queryType_editStructured (edit : StructuredWhere → StructuredWhere)
    (w : WhereClause) : (w.editStructured edit).queryType = w.queryType := by
  cases w <;> rfl

theorem queryType_eq_byExample_iff {w : WhereClause} :
    w.queryType = .byExample ↔ ∃ v, w = .byExample v := by
  cases w <;> simp [queryType]

theorem queryType_eq_structured_iff {w : WhereClause} :
    w.queryType = .structured ↔ ∃ s, w = .structured s := by
  cases w <;> simp [queryType]

end WhereClause

/-- A change of a request. -/
inductive RequestChange where
  /-- A call, a copy or a reload. -/
  | step (s : RequestStep)
  /-- Another example in place of the one there is. -/
  | replaceExample (v : Value)
  /-- Other queries, or other documents or properties, in place of those there are. -/
  | editStructured (edit : StructuredWhere → StructuredWhere)

namespace Request

variable {r : Request}

section Changes

variable (ρ : FloatReader)

/-- What a change makes of a request. -/
def change (r : Request) : RequestChange → Request
  | .step s => r.step ρ s
  | .replaceExample v => r.editWhere (WhereClause.replaceExample v)
  | .editStructured edit => r.editWhere (WhereClause.editStructured edit)

/-- The requests that changes lead to. -/
inductive Reached : Request → Prop where
  /-- The request without clauses. -/
  | empty : Reached empty
  /-- A request that was read from a document, whatever type and format the document states. -/
  | read {t : String} {r : Request} (h : read ρ t = .ok r) : Reached r
  /-- What a change makes of a request. -/
  | change {r : Request} (h : Reached r) (c : RequestChange) : Reached (r.change ρ c)

end Changes

variable {ρ : FloatReader}

/-! ## The record -/

theorem typed_of_read {t : String} (h : read ρ t = .ok r) : r.Typed := by
  obtain ⟨-, -, hcopy⟩ := restorable_of_ofText (ofText_of_read h)
  rw [← hcopy]
  exact .copy r

/-- An edit keeps the record, if it leaves an example an example and queries queries. -/
theorem Typed.editWhere (h : r.Typed) {edit : WhereClause → WhereClause}
    (hedit : ∀ w, (edit w).queryType = w.queryType) : (r.editWhere edit).Typed where
  queryType := by
    rw [show (r.editWhere edit).queryType = r.queryType from rfl, h.queryType]
    cases hw : r.whereClause <;> simp [Request.editWhere, hw, hedit]
  queryFormat := by
    rw [show (r.editWhere edit).queryFormat = r.queryFormat from rfl, h.queryFormat]
    cases hw : r.whereClause <;> simp [Request.editWhere, hw]

/-- A change leaves a request with the type and the format that its criteria have.  A reload may
fail, or give another request; either way its record agrees. -/
theorem Typed.change (h : r.Typed) (c : RequestChange) : (r.change ρ c).Typed := by
  cases c with
  | step s =>
    cases s with
    | call c =>
      show ((r.call c).toOption.getD r).Typed
      cases hcall : r.call c with
      | ok next => exact h.call hcall
      | error e => exact h
    | copy => exact .copy r
    | reload =>
      show ((Request.read ρ r.text).toOption.getD r).Typed
      cases hread : Request.read ρ r.text with
      | ok next => exact typed_of_read hread
      | error e => exact h
  | replaceExample v => exact h.editWhere (WhereClause.queryType_replaceExample v)
  | editStructured edit => exact h.editWhere (WhereClause.queryType_editStructured edit)

theorem Reached.typed (h : r.Reached ρ) : r.Typed := by
  induction h with
  | empty => exact ⟨rfl, rfl⟩
  | read h => exact typed_of_read h
  | change _ c ih => exact ih.change c

/-- A request that is reached records the type and the format that its criteria have, and none if
it has no criteria; a copy of it is the request itself. -/
theorem Reached.mode_eq (h : r.Reached ρ) :
    (r.queryType = some .byExample ↔ ∃ v, r.whereClause = some (.byExample v)) ∧
      (r.queryType = some .structured ↔ ∃ s, r.whereClause = some (.structured s)) ∧
      (r.queryType = none ↔ r.whereClause = none) ∧
      (r.queryFormat = some .json ↔ ∃ w, r.whereClause = some w) ∧
      (r.queryFormat = none ↔ r.whereClause = none) ∧ r.copy = r := by
  obtain ⟨htype, hformat⟩ := h.typed
  have hcopy : r.copy = r := h.typed.copy_eq
  rw [htype, hformat]
  cases hwhere : r.whereClause with
  | none => simp [hcopy]
  | some w =>
    have hexample := w.queryType_eq_byExample_iff
    have hstructured := w.queryType_eq_structured_iff
    simp [hcopy, hexample, hstructured]

/-- A document may call queries an example; what is read from it, and then edited, does not. -/
theorem mode_eq_of_document :
    let r : Request :=
      { whereClause := some (.structured { queries := some [] })
        queryType := some .structured, queryFormat := some .json }
    let edited : Request :=
      r.change .quick (.editStructured fun s => (s.setScope (some .properties)).clearQueries)
    read .quick "[\x7b\"query\":\x7b\"queries\":[]\x7d\x7d,null,null,null,null,\"qbe\"]" = .ok r ∧
      edited.Reached .quick ∧
      edited.whereClause = some (.structured { fragmentScope := some .properties }) ∧
      edited.queryType = some .structured ∧ edited.copy = edited := by
  intro r edited
  have hreading : Reading.ofText .quick
        "[\x7b\"query\":\x7b\"queries\":[]\x7d\x7d,null,null,null,null,\"qbe\"]" =
      ⟨.array [.object [(.string "query", .object [(.string "queries", .array [] .closed)] .closed)]
        .closed, .null, .null, .null, .null, .string "qbe"] .closed, false⟩ := by cbv
  have hread :
      read .quick "[\x7b\"query\":\x7b\"queries\":[]\x7d\x7d,null,null,null,null,\"qbe\"]" = .ok r := by
    rw [read, ofText, Decoder.readText, hreading]
    rfl
  have hreached : edited.Reached .quick := .change (.read hread) _
  obtain ⟨-, hstructured, -, -, -, hcopy⟩ := hreached.mode_eq
  exact ⟨hread, hreached, rfl, hstructured.2 ⟨_, rfl⟩, hcopy⟩

end Request

end SearchRequest
