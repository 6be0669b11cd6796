import SearchRequest.Proofs.Document.Requests

/-!
# Requests that are built call by call

* `ClauseCall`, `Request.call`, `Request.build` — the calls that set a clause, what one of them
  makes of a request, and what several of them make of the request without clauses.
* `Request.Typed` — a request states the type and the format that its criteria have; every call
  leaves a request so.
* `Request.read_text_of_build` — a request that calls have built is read from its text as the
  request itself.
-/

namespace SearchRequest

/-- A call that sets one clause of a request. -/
inductive ClauseCall where
  /-- Sets the criteria. -/
  | setWhere (args : List Argument)
  /-- Sets the facets. -/
  | setFacets (args : List Argument)
  /-- Sets the sort keys. -/
  | setOrder (args : List Argument)
  /-- Sets the page of results. -/
  | setSlice (args : List Argument)
  /-- Sets the options. -/
  | setOptions (config : ValueMap)

namespace Request

/-- What a call makes of a request. -/
def call (r : Request) : ClauseCall → Build Request
  | .setWhere args => r.setWhere args
  | .setFacets args => r.setFacets args
  | .setOrder args => r.setOrder args
  | .setSlice args => r.setSlice args
  | .setOptions config => r.setOptions config

/-- What calls make, one after the other, of the request without clauses. -/
def build (calls : List ClauseCall) : Build Request := calls.foldlM call empty

/-- A request states the type and the format that its criteria have. -/
structure Typed (r : Request) : Prop where
  /-- The type is that of the criteria. -/
  queryType : r.queryType = r.whereClause.map WhereClause.queryType
  /-- The format is there if there are criteria. -/
  queryFormat : r.queryFormat = r.whereClause.map fun _ => .json

theorem Typed.copy_eq {r : Request} (h : r.Typed) : r.copy = r := by
  rw [copy, ← h.queryType, ← h.queryFormat]

/-- A call leaves a request with the type and the format that its criteria have. -/
theorem Typed.call {r s : Request} {c : ClauseCall} (h : r.Typed) (hcall : r.call c = .ok s) :
    s.Typed := by
  cases c with
  | setWhere args =>
    obtain ⟨clause, -, hs⟩ := bind_eq_ok hcall
    cases hs
    exact ⟨rfl, rfl⟩
  | setFacets args =>
    obtain ⟨facets, -, hs⟩ := bind_eq_ok hcall
    cases hs
    exact ⟨h.queryType, h.queryFormat⟩
  | setOrder args =>
    obtain ⟨keys, -, hs⟩ := bind_eq_ok hcall
    cases hs
    exact ⟨h.queryType, h.queryFormat⟩
  | setSlice args =>
    obtain ⟨clause, -, hs⟩ := bind_eq_ok hcall
    cases hs
    exact ⟨h.queryType, h.queryFormat⟩
  | setOptions config =>
    obtain ⟨options, -, hs⟩ := bind_eq_ok hcall
    cases hs
    exact ⟨h.queryType, h.queryFormat⟩

theorem Typed.foldlM_call {calls : List ClauseCall} {r s : Request} (h : r.Typed)
    (hcalls : calls.foldlM Request.call r = .ok s) : s.Typed := by
  induction calls generalizing r with
  | nil =>
    cases hcalls
    exact h
  | cons c rest ih =>
    rw [List.foldlM_cons] at hcalls
    obtain ⟨next, hnext, hrest⟩ := bind_eq_ok hcalls
    exact ih (h.call hnext) hrest

theorem typed_of_build {calls : List ClauseCall} {r : Request} (h : build calls = .ok r) :
    r.Typed := Typed.foldlM_call (r := empty) ⟨rfl, rfl⟩ h

/-- A request that calls have built, in which every number is of a kind that texts are read as and
every floating-point number is read back, is read from its text as the request itself if no more
than 127 arrays and objects are nested in one another, and cannot be read if more are. -/
theorem read_text_of_build {ρ : FloatReader} {calls : List ClauseCall} {r : Request}
    (hbuild : build calls = .ok r) (hfaithful : r.node.Faithful)
    (hfloats : ρ.RestoresAll r.json.floats) (hrestorable : r.Restorable) :
    (r.json.depth ≤ 127 → read ρ r.text = .ok r) ∧
      (127 < r.json.depth → ∃ e, read ρ r.text = .error (.unreadable e)) := by
  have hread := ofText_text hrestorable hfaithful hfloats
  rw [(typed_of_build hbuild).copy_eq] at hread
  refine ⟨fun hle => ?_, fun hlt => ?_⟩
  · rw [read, hread.1 hle]
    rfl
  · obtain ⟨e, he⟩ := hread.2 (Nat.not_le.2 hlt)
    exact ⟨e, by rw [read, he]; rfl⟩

theorem read_text_of_build_clauses :
    let novels : Query := .criteria (.collection ["novels"])
    let old : Bucket := { name := "old", label := "before 1900", lt := some (.text "1900") }
    let year : Facet := ⟨"year", .range { facet := true, bucket := some [old] }⟩
    let half : Binary64 := .finite false ⟨1022 * 2 ^ 52, by decide⟩
    let snippet : Snippet :=
      { apply := "snippet"
        options := ValueMap.ofJsonEntries [("share", .number (.float half))] }
    let r : Request :=
      { whereClause := some (.structured { queries := some [novels] }), facets := some [year]
        slice := some { snippet := some snippet }
        queryType := some .structured, queryFormat := some .json }
    build [.setWhere [.query novels], .setFacets [.facet year], .setSlice [.snippet snippet]] =
      .ok r ∧ r.node.Faithful ∧ FloatReader.quick.RestoresAll r.json.floats ∧ r.Restorable ∧
      r.json.depth ≤ 127 ∧ read .quick r.text = .ok r := by
  intro novels old year half snippet r
  have hbuild : build [.setWhere [.query novels], .setFacets [.facet year],
      .setSlice [.snippet snippet]] = .ok r := rfl
  have hcriteria : (StructuredWhere.node { queries := some [novels] }).Faithful :=
    ⟨⟨⟨⟨⟨trivial, trivial⟩, trivial⟩, trivial⟩, trivial⟩, trivial⟩
  have hold : old.node.Faithful := ⟨trivial, trivial, trivial, trivial⟩
  have hfacets : (facetsNode [year]).Faithful :=
    ⟨⟨⟨trivial, ⟨trivial, ⟨hold, trivial⟩, trivial⟩, trivial⟩, trivial⟩, trivial⟩
  have hsnippet : snippet.node.Faithful := ⟨trivial, Number.faithful_float rfl, trivial⟩
  have hfaithful : r.node.Faithful :=
    ⟨hcriteria, hfacets, ⟨hsnippet, trivial⟩, trivial, trivial, trivial⟩
  have hbounded : ∀ fs ∈ r.facets, ∀ f ∈ fs, f.Bounded := by
    rintro _ ⟨⟩
    refine List.forall_mem_singleton.2 ⟨?_, nofun⟩
    rintro _ ⟨⟩
    exact List.forall_mem_singleton.2 ⟨nofun, nofun⟩
  have hapart : ∀ s ∈ r.slice, s.Apart := by
    rintro _ ⟨⟩ _ ⟨⟩
    exact List.forall_mem_singleton.2 (by decide)
  have hrestorable : r.Restorable := ⟨hbounded, hapart⟩
  have hhalf : r.json.floats = [half] := rfl
  have hfloats : FloatReader.quick.RestoresAll r.json.floats :=
    hhalf ▸ FloatReader.restoresAll_quick_half
  have hdepth : r.json.depth ≤ 127 := by decide
  exact ⟨hbuild, hfaithful, hfloats, hrestorable, hdepth,
    (read_text_of_build hbuild hfaithful hfloats hrestorable).1 hdepth⟩

end Request

end SearchRequest
