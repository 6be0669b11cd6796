import SearchRequest.Document.Request
import SearchRequest.Proofs.Document.Facets
import SearchRequest.Proofs.Document.Shapes

/-!
# Clauses in documents

* `SearchText.reads`, `SortKey.reads`, `Options.reads`, `WhereClause.reads`, `SliceClause.reads` —
  each is read as it is written.
* `SearchText.yields` and the others — what is accepted is written no deeper than it was.  The
  options are the exception: a single string may stand for a list and is written as one.
-/

namespace SearchRequest

/-! ## Search texts -/

theorem EmptyPolicy.reads (p : EmptyPolicy) : decoder.Reads p.node p := by
  refine .record (List.nodup_singleton _) (.required ?_)
  cases p <;> exact .oneOfNames rfl

theorem EmptyPolicy.yields : decoder.YieldsFitting node := by
  have hname : (Decoder.oneOfNames (all.map fun p => (p.name, p))).YieldsFitting
      fun p => .string p.name := fun _ _ _ p _ _ => Node.fits_string p.name
  exact .record (.required hname)

theorem TermBinding.reads (t : TermBinding) : decoder.Reads t.node t := by
  obtain ⟨default, empty⟩ := t
  exact .record (by decide) (.seq (.map (.optional DefaultSpec.reads .oneOf) mk)
    (.optional EmptyPolicy.reads .record))

theorem TermBinding.yields : decoder.YieldsFitting node := by
  refine .record (.seq (.map (.optional DefaultSpec.yields) ?_) (.optional EmptyPolicy.yields))
  intro room _ hdefault _ hempty
  exact hdefault.append hempty

theorem SearchText.reads (t : SearchText) : decoder.Reads t.node t := by
  obtain ⟨text, constraint, term⟩ := t
  have hfields : (mk <$> Fields.required "qtext" Decoder.string <*>
      Fields.optional "constraint" (Decoder.list Constraint.decoder) <*>
      Fields.optional "term" TermBinding.decoder).Reads
      (Node.member "qtext" (.string text) ++
        Node.optional "constraint" (Node.listOf Constraint.node) constraint ++
        Node.optional "term" TermBinding.node term) ⟨text, constraint, term⟩ :=
    .seq (.seq (.map (.required (.string text)) mk)
      (.optional (fun cs => .listOf fun c _ => c.reads) .list))
      (.optional TermBinding.reads .record)
  rw [List.append_assoc] at hfields
  exact .record (show ["qtext", "constraint", "term"].Nodup by decide) hfields

theorem SearchText.yields : decoder.YieldsFitting node := by
  refine .record (.seq (.seq (.map (.required .string) ?_)
    (.optional (.listOf Constraint.yields))) (.optional TermBinding.yields))
  intro room _ htext _ hconstraint _ hterm
  exact htext.append (hconstraint.append hterm)

/-! ## Sort keys -/

namespace SortKey

/-- The default method of scoring is written as `null`, and a sort by something else than relevance
without the field. -/
theorem score_reads (v : Option (Option String)) :
    (Fields.defaulted "score" scoreDecoder none).Reads (Node.optional "score" scoreNode v) v := by
  cases v with
  | none => exact .absent
  | some method => cases method <;> exact .present (.leaf rfl fun _ _ => rfl)

theorem score_yields : (Fields.defaulted "score" scoreDecoder none).Yields fun room v =>
    Node.FitsEntries room (Node.optional "score" scoreNode v) := by
  have hscore : ∀ room (v : Option (Option String)),
      Node.FitsEntries room (Node.optional "score" scoreNode v) := by
    intro room v
    refine Node.fitsEntries_optional fun method _ => ?_
    cases method with
    | none => exact Node.fits_null
    | some method => exact Node.fits_string method
  exact fun _ _ _ room v _ _ => hscore room v

theorem reads (k : SortKey) : decoder.Reads k.node k := by
  obtain ⟨index, score, direction, datatype, collation⟩ := k
  have hown : ownFields.Reads
      (Node.optional "score" scoreNode score ++
        Node.optional "direction" Direction.node direction ++
        Node.optional "type" .string datatype ++ Node.optional "collation" .string collation) _ :=
    .seq (.seq (.seq (.map (score_reads score) _) (.optional Direction.reads .oneOf))
      (.optional .string .string)) (.optional .string .string)
  exact Decoder.Reads.withIndex (by decide) hown
    (perm_append_of_eq (by simp only [List.append_assoc])) (by decide)

theorem yields : decoder.YieldsFitting node := by
  refine .withIndex (.seq (.seq (.seq (.map score_yields ?_) (.optional Direction.yields))
    (.optional .string)) (.optional .string))
  intro room _ hscore _ hdirection _ htype _ hcollation _ hindex
  exact (((hindex.append hscore).append hdirection).append htype).append hcollation

end SortKey

/-! ## Options -/

namespace Options

/-- A list of strings is read as it is written; a single string does not come in between. -/
theorem oneOrMany_reads (ss : List String) : oneOrMany.Reads (Node.strings ss) ss := by
  refine .firstOf 1 rfl (.strings ss) (List.forall_mem_singleton.2 fun j hj => ?_)
  obtain ⟨js, rfl, -⟩ := hj.list
  exact ⟨_, rfl⟩

theorem oneOrMany_refusesNull : oneOrMany.RefusesNull := fun _ => ⟨_, rfl⟩

theorem uint32_refusesNull : Decoder.uint32.RefusesNull := fun _ => ⟨_, rfl⟩

theorem reads (o : Options) : decoder.Reads o.node o := by
  obtain ⟨search, weight, forestNames, similarDocs, metrics, queryPlan, debug, concurrencyLevel,
    categories, txid⟩ := o
  exact .record (by decide) (.seq (.seq (.seq (.seq (.seq (.seq (.seq (.seq (.seq
    (.map (.optional oneOrMany_reads oneOrMany_refusesNull) mk) (.optional .number .number))
    (.optional oneOrMany_reads oneOrMany_refusesNull)) (.optional .bool .bool))
    (.optional .bool .bool)) (.optional .bool .bool)) (.optional .bool .bool))
    (.optional .uint32 uint32_refusesNull)) (.optional oneOrMany_reads oneOrMany_refusesNull))
    (.optional .string .string))

/-- Options that are accepted are written as a record whose values are at most lists. -/
theorem yields : decoder.Yields fun _ o => o.node.Fits 2 := by
  have hlist : oneOrMany.Yields fun _ ss => (Node.strings ss).Fits 1 := fun _ _ _ ss _ _ =>
    Node.fits_list Nat.one_pos (List.forall_mem_map.2 fun s _ => Node.fits_string s)
  have hnumber : Decoder.number.Yields fun _ n => n.node.Fits 1 := fun o d room n hd hn =>
    Node.fits_number (Decoder.YieldsFitting.number o d room n hd hn).1
  have hbool : Decoder.bool.Yields fun _ b => (Node.bool b).Fits 1 :=
    fun _ _ _ b _ _ => Node.fits_bool b
  have hlevel : Decoder.uint32.Yields fun _ n => (Node.number (Number.ofInt n.toNat)).Fits 1 := by
    intro _ _ _ n _ _
    have hlt := n.toNat_lt
    exact Node.fits_number (Number.faithful_ofInt (by omega))
  have hstring : Decoder.string.Yields fun _ s => (Node.string s).Fits 1 :=
    fun _ _ _ s _ _ => Node.fits_string s
  refine .record_succ (.seq (.seq (.seq (.seq (.seq (.seq (.seq (.seq (.seq (.map
    (.optional_of_fits hlist) ?_) (.optional_of_fits hnumber)) (.optional_of_fits hlist))
    (.optional_of_fits hbool)) (.optional_of_fits hbool)) (.optional_of_fits hbool))
    (.optional_of_fits hbool)) (.optional_of_fits hlevel)) (.optional_of_fits hlist))
    (.optional_of_fits hstring))
  intro room _ hsearch _ hweight _ hforests _ hsimilar _ hmetrics _ hplan _ hdebug _ hlevel _
    hcategories _ htxid
  have hentries := ((((((((hsearch.append hweight).append hforests).append hsimilar).append
    hmetrics).append hplan).append hdebug).append hlevel).append hcategories).append htxid
  exact Node.fits_record Nat.two_pos hentries

end Options

/-! ## Criteria -/

namespace StructuredWhere

/-- The queries of criteria, in the record that holds them. -/
def queriesNode (qs : List Query) : Node := .record (Node.member "queries" (.list (Query.nodes qs)))

theorem queries_reads (qs : List Query) :
    (Decoder.only "queries" (Decoder.list Query.decoder)).Reads (queriesNode qs) qs := by
  rw [queriesNode, Query.nodes_eq_map]
  exact .record (List.nodup_singleton _) (.required (.listOf fun q _ => q.reads))

theorem queries_yields :
    (Decoder.only "queries" (Decoder.list Query.decoder)).YieldsFitting queriesNode :=
  .record (.required (Query.nodes_yield Query.yields))

theorem reads (s : StructuredWhere) : decoder.Reads s.node s := by
  obtain ⟨queries, searchText, scope⟩ := s
  have hfields : (mk <$>
      Fields.optional "query" (Decoder.only "queries" (Decoder.list Query.decoder)) <*>
      Fields.optional "parsedQuery" SearchText.decoder <*>
      Fields.optional "fragment-scope" FragmentScope.decoder).Reads
      (Node.optional "query" queriesNode queries ++
        Node.optional "parsedQuery" SearchText.node searchText ++
        Node.optional "fragment-scope" FragmentScope.node scope) ⟨queries, searchText, scope⟩ :=
    .seq (.seq (.map (.optional queries_reads .record) mk) (.optional SearchText.reads .record))
      (.optional FragmentScope.reads .oneOf)
  exact .record (show ["query", "parsedQuery", "fragment-scope"].Nodup by decide) hfields

theorem yields : decoder.YieldsFitting node := by
  refine .record_succ (.seq (.seq (.map (.optional queries_yields) ?_)
    (.optional SearchText.yields)) (.optional FragmentScope.yields))
  intro room _ hqueries _ htext _ hscope
  exact Node.fits_record (Nat.succ_pos _) ((hqueries.append htext).append hscope)

/-- Criteria that are written as queries or a search text are not read as an example. -/
theorem refuses_example (s : StructuredWhere) : exampleDecoder.Refuses s.node := by
  obtain ⟨queries, searchText, scope⟩ := s
  have hkeys : (Json.keys (Node.optional "query" queriesNode queries ++
      Node.optional "parsedQuery" SearchText.node searchText ++
      Node.optional "fragment-scope" FragmentScope.node scope)).Sublist
      ["query", "parsedQuery", "fragment-scope"] := by
    simp only [Json.keys_append]
    exact ((Node.keys_optional_sublist _ _ _).append (Node.keys_optional_sublist _ _ _)).append
      (Node.keys_optional_sublist _ _ _)
  refine .record (hkeys.nodup (by decide)) fun hmem => ?_
  exact absurd (hkeys.subset hmem) (by decide)

end StructuredWhere

namespace WhereClause

theorem reads (w : WhereClause) : decoder.Reads w.node w := by
  cases w with
  | byExample v =>
    have hexample : exampleDecoder.Reads (exampleNode v) v :=
      .record (List.nodup_singleton _) (.required (.value v))
    exact .firstOf 0 rfl (hexample.as WhereClause.byExample) nofun
  | structured s =>
    exact .firstOf 1 rfl (s.reads.as WhereClause.structured)
      (List.forall_mem_singleton.2 (s.refuses_example.as _))

theorem yields : decoder.YieldsFitting node := by
  have hexample : exampleDecoder.YieldsFitting exampleNode := .record (.required .value)
  refine Decoder.Yields.firstOf (List.forall_mem_cons.2 ⟨?_, List.forall_mem_singleton.2 ?_⟩)
  · exact hexample.as fun _ _ h => h
  · exact StructuredWhere.yields.as fun _ _ h => h

theorem refusesNull : decoder.RefusesNull := fun _ => ⟨_, rfl⟩

end WhereClause

/-! ## Pages -/

namespace SliceClause

/-- No option of a snippet has the key of a field. -/
def Apart (s : SliceClause) : Prop := ∀ snippet ∈ s.snippet, snippet.Apart

theorem uint64_refusesNull : Decoder.uint64.RefusesNull := fun _ => ⟨_, rfl⟩

theorem uint64_yields : Decoder.uint64.YieldsFitting fun n => .number (Number.ofUInt64 n) :=
  fun _ _ _ n _ _ => Node.fits_number (Number.faithful_ofInt n.toNat_lt)

theorem snippet_refusesNull : Snippet.decoder.RefusesNull := fun _ => ⟨_, rfl⟩

theorem transform_refusesNull : Transform.decoder.RefusesNull := fun _ => ⟨_, rfl⟩

theorem reads {s : SliceClause} (h : s.Apart) : decoder.Reads s.node s := by
  obtain ⟨start, length, snippet, extract, transform⟩ := s
  have hsnippet : (Fields.optional "transform-results" Snippet.decoder).Reads
      (Node.optional "transform-results" Snippet.node snippet) snippet :=
    .optional_of_mem (fun s hs => Snippet.reads (h s hs)) snippet_refusesNull
  exact .record (by decide) (.seq (.seq (.seq (.seq
    (.map (.optional .uint64 uint64_refusesNull) mk) (.optional .uint64 uint64_refusesNull))
    hsnippet) (.optional Extract.reads .record)) (.optional Transform.reads transform_refusesNull))

theorem yields : decoder.Yields fun room s => s.node.Fits room ∧ s.Apart := by
  refine .record_succ (.seq (.seq (.seq (.seq (.map (.optional uint64_yields) ?_)
    (.optional uint64_yields)) (.optional_and Snippet.yields)) (.optional Extract.yields))
    (.optional Transform.yields))
  rintro room start hstart length hlength snippet ⟨hsnippet, hapart⟩ extract hextract transform
    htransform
  have hentries := (((hstart.append hlength).append hsnippet).append hextract).append htransform
  exact ⟨Node.fits_record (Nat.succ_pos _) hentries, hapart⟩

end SliceClause

end SearchRequest
