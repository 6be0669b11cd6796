import SearchRequest.Proofs.Build.Scans

/-!
# How criteria are read from arguments

The only argument of a where clause may be an example of the documents to match.  Otherwise the
clause is made of the items of all its arguments: queries, a search text, and documents or
properties, in any order.

* `Argument.IsCriterion`, `CriteriaFit` — the items that criteria are made of, and lists of them
  that fit together.
* `StructuredWhere.Holds` — the criteria hold exactly what items say.
* `Build.WhereParts.of`, `Build.whereParts_sift` — what items add up to, and the scan that takes the
  items that fit and no others.
* `Request.setWhere_reads` — which lists of arguments make criteria, and what these hold.
-/

namespace SearchRequest

open Argument

/-- An argument that criteria are made of. -/
inductive Argument.IsCriterion : Argument → Prop where
  /-- A query. -/
  | query (q : Query) : IsCriterion (.query q)
  /-- A search text. -/
  | searchText (t : SearchText) : IsCriterion (.searchText t)
  /-- Documents or properties. -/
  | fragmentScope (s : FragmentScope) : IsCriterion (.fragmentScope s)

/-- Items that can be the criteria of one request. -/
structure CriteriaFit (items : List Argument) : Prop where
  /-- Criteria can be made of each of them. -/
  kinds : ∀ a ∈ items, a.IsCriterion
  /-- There is one search text at most. -/
  searchText : (items.filterMap searchText?).length ≤ 1
  /-- There are documents or properties once at most. -/
  scope : (items.filterMap scope?).length ≤ 1

/-- Criteria hold what items say, and nothing else. -/
structure StructuredWhere.Holds (s : StructuredWhere) (items : List Argument) : Prop where
  /-- The search text is that of the items. -/
  searchText : s.searchText.toList = items.filterMap searchText?
  /-- The documents or properties are those of the items. -/
  scope : s.fragmentScope.toList = items.filterMap scope?
  /-- The queries are those of the items, in order. -/
  queries : items.filterMap query? ≠ [] → s.queries = some (items.filterMap query?)
  /-- A search text alone needs no queries. -/
  noQueries : items.filterMap query? = [] → items.filterMap searchText? ≠ [] → s.queries = none
  /-- With neither there is one query, which every document matches. -/
  everything : items.filterMap query? = [] → items.filterMap searchText? = [] →
    ∃ q, Build.and [] = .ok q ∧ s.queries = some [q]

/-! ## Items that fit -/

section Items

variable {B : Type} {g : Argument → Option B} {us vs items : List Argument} {a : Argument}

/-- What there is one of at most, there is none of before an argument that has it. -/
theorem filterMap_eq_nil_of_snoc {b : B} (hg : g a = some b)
    (h : ((us ++ [a]).filterMap g).length ≤ 1) : us.filterMap g = [] := by
  rw [List.filterMap_append, List.filterMap_cons_some hg, List.length_append] at h
  exact List.eq_nil_of_length_eq_zero (by simpa using h)

theorem length_filterMap_snoc_le_one (h : (us.filterMap g).length ≤ 1)
    (hroom : g a = none ∨ us.filterMap g = []) : ((us ++ [a]).filterMap g).length ≤ 1 := by
  rw [List.filterMap_append]
  obtain hnone | hnil := hroom
  · rwa [List.filterMap_cons_none hnone, List.filterMap_nil, List.append_nil]
  · rw [hnil, List.nil_append]
    exact List.length_filterMap_le g [a]

theorem toList_head?_of_length_le_one {l : List B} (h : l.length ≤ 1) : l.head?.toList = l := by
  match l, h with
  | [], _ => rfl
  | [b], _ => rfl

theorem CriteriaFit.of_append (h : CriteriaFit (us ++ vs)) : CriteriaFit us := by
  obtain ⟨hkinds, htext, hscope⟩ := h
  rw [List.filterMap_append, List.length_append] at htext hscope
  exact ⟨fun a ha => hkinds a (List.mem_append_left vs ha), by omega, by omega⟩

/-- One more criterion fits if there is room for it. -/
theorem CriteriaFit.snoc (h : CriteriaFit us) (ha : a.IsCriterion)
    (htext : searchText? a = none ∨ us.filterMap searchText? = [])
    (hscope : scope? a = none ∨ us.filterMap scope? = []) : CriteriaFit (us ++ [a]) where
  kinds := List.forall_mem_append.2 ⟨h.kinds, List.forall_mem_singleton.2 ha⟩
  searchText := length_filterMap_snoc_le_one h.searchText htext
  scope := length_filterMap_snoc_le_one h.scope hscope

end Items

namespace Build

/-! ## The scan -/

namespace WhereParts

/-- The parts that items add up to if they fit. -/
def of (items : List Argument) : WhereParts where
  queries := items.filterMap query?
  searchText := (items.filterMap searchText?).head?
  fragmentScope := (items.filterMap scope?).head?

variable {us items : List Argument} {a : Argument}

theorem add_of_fits (h : CriteriaFit (us ++ [a])) : (of us).add a = .ok (of (us ++ [a])) := by
  cases h.kinds a (by simp) with
  | query q =>
    simp only [of, List.filterMap_append, List.filterMap_cons, List.filterMap_nil, query?,
      searchText?, scope?, List.append_nil]
    rfl
  | searchText t =>
    have hnil : us.filterMap searchText? = [] := filterMap_eq_nil_of_snoc rfl h.searchText
    simp [of, add, hnil, query?, searchText?, scope?]
  | fragmentScope s =>
    have hnil : us.filterMap scope? = [] := filterMap_eq_nil_of_snoc rfl h.scope
    simp [of, add, hnil, query?, searchText?, scope?]

/-- A second search text, and documents or properties a second time, are refused like whatever is
no criterion at all. -/
theorem add_of_misfit (h : CriteriaFit us) (hmisfit : ¬CriteriaFit (us ++ [a])) :
    (of us).add a = refuse "where" a := by
  cases a with
  | query q => exact absurd (h.snoc (.query q) (.inl rfl) (.inl rfl)) hmisfit
  | searchText t =>
    have hne : us.filterMap searchText? ≠ [] := fun hnil =>
      hmisfit (h.snoc (.searchText t) (.inr hnil) (.inl rfl))
    obtain ⟨t', ts, htexts⟩ := List.exists_cons_of_ne_nil hne
    simp only [of, add, htexts]
    rfl
  | fragmentScope s =>
    have hne : us.filterMap scope? ≠ [] := fun hnil =>
      hmisfit (h.snoc (.fragmentScope s) (.inl rfl) (.inr hnil))
    obtain ⟨s', ss, hscopes⟩ := List.exists_cons_of_ne_nil hne
    simp only [of, add, hscopes]
    rfl
  | _ => rfl

theorem sifts :
    Sifts CriteriaFit of (fun _ a => .unrecognized "where" (.argument a)) add where
  fits_nil := ⟨nofun, Nat.zero_le 1, Nat.zero_le 1⟩
  fits_of_append := CriteriaFit.of_append
  takes := add_of_fits
  refuses := add_of_misfit

theorem clause_holds (h : CriteriaFit items) : (of items).clause.Holds items where
  searchText := toList_head?_of_length_le_one h.searchText
  scope := toList_head?_of_length_le_one h.scope
  queries hne := by simp [of, clause, hne]
  noQueries hnil hne := by
    obtain ⟨t, ts, htexts⟩ := List.exists_cons_of_ne_nil hne
    simp [of, clause, hnil, htexts]
  everything hqueries htexts := by
    refine ⟨.criteria (.and [] none), rfl, ?_⟩
    simp [of, clause, hqueries, htexts]

end WhereParts

end Build

theorem StructuredWhere.Holds.matches_something {s : StructuredWhere} {items : List Argument}
    (h : s.Holds items) : s.searchText.isSome ∨ ∃ q qs, s.queries = some (q :: qs) := by
  by_cases hqueries : items.filterMap query? = []
  · by_cases htexts : items.filterMap searchText? = []
    · obtain ⟨q, -, hq⟩ := h.everything hqueries htexts
      exact .inr ⟨q, [], hq⟩
    · rw [← h.searchText] at htexts
      exact .inl (Option.isSome_iff_ne_none.2 fun hnone => htexts (by rw [hnone]; rfl))
  · obtain ⟨q, qs, hq⟩ := List.exists_cons_of_ne_nil hqueries
    exact .inr ⟨q, qs, hq ▸ h.queries hqueries⟩

namespace Request

variable {args : List Argument}

/-- Arguments that are not an example are taken apart, and what they add up to is the clause. -/
theorem setWhere_eq_map (r : Request) (h : Build.soleExample? (spliceSole args) = none) :
    r.setWhere args =
      ((flatten (spliceSole args)).foldlM Build.WhereParts.add (.of [])).map fun p =>
        { r with
          whereClause := some (.structured p.clause), queryType := some .structured
          queryFormat := some .json } := by
  have hnil : Build.WhereParts.of [] = {} := rfl
  simp only [setWhere, Build.whereClause, h, hnil]
  cases (flatten (spliceSole args)).foldlM Build.WhereParts.add {} <;> rfl

/-- Arguments other than a sole example make criteria exactly if their items fit together.  The
criteria then hold the queries in order, the search text, and the documents or properties that the
items say; where these are neither queries nor a search text there is the one query that every
document matches, so no criteria are without both.  If the items do not fit, the first one that does
not fit after those before it is refused. -/
theorem setWhere_reads (r : Request) (h : Build.soleExample? (spliceSole args) = none) :
    let items := flatten (spliceSole args)
    ((∃ r', r.setWhere args = .ok r') ↔ CriteriaFit items) ∧
    (∀ r', r.setWhere args = .ok r' →
      ∃ s : StructuredWhere, s.Holds items ∧
        (s.searchText.isSome ∨ ∃ q qs, s.queries = some (q :: qs)) ∧
        r' = { r with
          whereClause := some (.structured s), queryType := some .structured
          queryFormat := some .json }) ∧
    (¬CriteriaFit items →
      ∃ us a, FirstMisfit CriteriaFit items us a ∧
        r.setWhere args = .error (.unrecognized "where" (.argument a))) := by
  intro items
  rw [setWhere_eq_map r h]
  obtain ⟨hfits, hok⟩ | ⟨hmisfit, us, a, hfirst, herror⟩ :=
    Build.WhereParts.sifts.foldlM_cases items
  · have hholds := Build.WhereParts.clause_holds hfits
    rw [hok]
    refine ⟨iff_of_true ⟨_, rfl⟩ hfits, fun r' hr' => ?_, fun hmisfit => absurd hfits hmisfit⟩
    exact ⟨_, hholds, hholds.matches_something, (Except.ok.inj hr').symm⟩
  · rw [herror, Except.map]
    refine ⟨iff_of_false ?_ hmisfit, ?_, fun _ => ⟨us, a, hfirst, rfl⟩⟩
    · rintro ⟨r', hr'⟩
      cases hr'
    · intro r' hr'
      cases hr'

/-- Properties in a list with a query, a search text after the list, and one more query; and then
the documents, for which there is no room any more. -/
theorem setWhere_reads_scope_in_list :
    let r : Request := {}
    let sun : Query := .criteria (.term [.text "sun"] none)
    let sea : Query := .criteria (.term [.text "sea"] none)
    let moby : SearchText := { text := "moby" }
    let args : List Argument :=
      [.list [.fragmentScope .properties, .query sun], .searchText moby, .query sea]
    let more : List Argument := args ++ [.fragmentScope .documents, .byExample Value.null]
    (Build.soleExample? (spliceSole args) = none ∧ Build.soleExample? (spliceSole more) = none) ∧
    (∃ s : StructuredWhere,
      (s.queries = some [sun, sea] ∧ s.searchText.toList = [moby] ∧
        s.fragmentScope.toList = [.properties]) ∧
      r.setWhere args = .ok { r with
        whereClause := some (.structured s), queryType := some .structured
        queryFormat := some .json }) ∧
    ∃ a, r.setWhere more = .error (.unrecognized "where" (.argument a)) := by
  intro r sun sea moby args more
  have hfits : CriteriaFit (flatten (spliceSole args)) := by
    refine ⟨fun a ha => ?_, Nat.le_refl 1, Nat.le_refl 1⟩
    simp only [args, flatten, spliceSole, toItems, List.flatMap_cons, List.flatMap_nil,
      List.append_nil, List.cons_append, List.nil_append, List.mem_cons, List.not_mem_nil,
      or_false] at ha
    obtain rfl | rfl | rfl | rfl := ha
    · exact .fragmentScope _
    · exact .query _
    · exact .searchText _
    · exact .query _
  have hmisfit : ¬CriteriaFit (flatten (spliceSole more)) := fun hfit =>
    absurd hfit.scope (by decide)
  obtain ⟨hiff, hreads, -⟩ := @setWhere_reads args r rfl
  obtain ⟨-, -, hrefused⟩ := @setWhere_reads more r rfl
  obtain ⟨r', hr'⟩ := hiff.2 hfits
  obtain ⟨s, hholds, -, rfl⟩ := hreads r' hr'
  obtain ⟨us, a, -, herror⟩ := hrefused hmisfit
  exact ⟨⟨rfl, rfl⟩, ⟨s, ⟨hholds.queries nofun, hholds.searchText, hholds.scope⟩, hr'⟩, a, herror⟩

end Request

end SearchRequest
