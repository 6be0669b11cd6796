import SearchRequest.Document.Query.Written
import SearchRequest.Proofs.Document.Places

/-!
# Bodies of queries in documents

The bodies that hold no query are read as they are written (`reads`), and what is accepted for
them is written no deeper than it was (`yields`).

* `TextSpec`, `RangeSpec`, `ContainerSpec` — bodies with the name of an index.
* `LsqtSpec`, `Period`, `AxisComparison`, `PeriodComparison` — temporal bodies.
* `CustomConstraint` — a constraint whose terms are parsed by a library function.
-/

namespace SearchRequest

/-! ## Bodies with the name of an index -/

namespace TextSpec

theorem reads (t : TextSpec) : decoder.Reads t.node t := by
  obtain ⟨index, scope, options, weight, text⟩ := t
  have hown : ownFields.Reads
      (Node.optional "fragment-scope" FragmentScope.node scope ++
        Node.optional "term-option" Node.strings options ++
        Node.optional "weight" Number.node weight ++
        Node.optional "text" (Node.listOf Scalar.node) text) _ :=
    .seq (.seq (.seq (.map (.optional FragmentScope.reads .oneOf) _) (.optional .strings .list))
      (.optional .number .number)) (.optional (fun ss => .listOf fun s _ => s.reads) .list)
  exact Decoder.Reads.withIndex (by decide) hown
    (perm_append_of_eq (by simp only [List.append_assoc])) (by decide)

theorem yields : decoder.YieldsFitting node := by
  refine .withIndex (.seq (.seq (.seq (.map (.optional FragmentScope.yields) ?_)
    (.optional .strings)) (.optional .number)) (.optional (.listOf Scalar.yields)))
  intro room _ hscope _ hoptions _ hweight _ htext _ hindex
  exact (((hindex.append hscope).append hoptions).append hweight).append htext

end TextSpec

namespace RangeSpec

theorem reads (s : RangeSpec) : decoder.Reads s.node s := by
  obtain ⟨index, datatype, collation, scope, options, value, operator⟩ := s
  have hown : ownFields.Reads
      (Node.optional "type" .string datatype ++ Node.optional "collation" .string collation ++
        Node.optional "fragment-scope" FragmentScope.node scope ++
        Node.optional "range-option" Node.strings options ++
        Node.optional "value" (Node.listOf Scalar.node) value ++
        Node.optional "range-operator" RangeOperator.node operator) _ :=
    .seq (.seq (.seq (.seq (.seq (.map (.optional .string .string) _) (.optional .string .string))
      (.optional FragmentScope.reads .oneOf)) (.optional .strings .list))
      (.optional (fun ss => .listOf fun s _ => s.reads) .list))
      (.optional RangeOperator.reads .oneOf)
  exact Decoder.Reads.withIndex (by decide) hown
    (perm_append_of_eq (by simp only [List.append_assoc])) (by decide)

theorem yields : decoder.YieldsFitting node := by
  refine .withIndex (.seq (.seq (.seq (.seq (.seq (.map (.optional .string) ?_)
    (.optional .string)) (.optional FragmentScope.yields)) (.optional .strings))
    (.optional (.listOf Scalar.yields))) (.optional RangeOperator.yields))
  intro room _ hdatatype _ hcollation _ hscope _ hoptions _ hvalue _ hoperator _ hindex
  exact (((((hindex.append hdatatype).append hcollation).append hscope).append hoptions).append
    hvalue).append hoperator

end RangeSpec

namespace ContainerSpec

theorem ownFields_reads (scope : Option FragmentScope) :
    ownFields.Reads (Node.optional "fragment-scope" FragmentScope.node scope) scope :=
  .optional FragmentScope.reads .oneOf

theorem ownFields_yields : ownFields.Yields fun room scope =>
    Node.FitsEntries room (Node.optional "fragment-scope" FragmentScope.node scope) :=
  .optional FragmentScope.yields

theorem reads (c : ContainerSpec) : decoder.Reads c.node c := by
  obtain ⟨index, scope⟩ := c
  have hdisjoint : ∀ k ∈ IndexFields.fields.names, k ∉ ownFields.names := by decide
  exact (Decoder.Reads.withOpenPart (by decide) (ownFields_reads scope)
    (IndexFields.part_reads index) List.perm_append_comm
    fun k hk => hdisjoint k (index.mem_names k hk)).map _

theorem yields : decoder.YieldsFitting node := by
  refine Decoder.Yields.map (Decoder.Yields.withOpenPart ownFields_yields
    fun js room b hfaithful hdepth _ hb =>
      PartYields.within IndexFields.fields_yields js room b hfaithful hdepth hb) ?_
  rintro room ⟨scope, index⟩ ⟨hpos, hscope, hindex⟩
  exact Node.fits_record hpos (hindex.append hscope)

end ContainerSpec

/-! ## Temporal bodies -/

theorem LsqtSpec.reads (l : LsqtSpec) : decoder.Reads l.node l := by
  obtain ⟨temporalCollection, weight, timestamp, options⟩ := l
  exact .record (by decide) (.seq (.seq (.seq (.map (.required (.string temporalCollection)) mk)
    (.optional .number .number)) (.optional .string .string)) (.optional .strings .list))

theorem LsqtSpec.yields : decoder.YieldsFitting node := by
  refine .record (.seq (.seq (.seq (.map (.required .string) ?_) (.optional .number))
    (.optional .string)) (.optional .strings))
  intro room _ hcollection _ hweight _ htimestamp _ hoptions
  exact ((hcollection.append hweight).append htimestamp).append hoptions

theorem Period.reads (p : Period) : decoder.Reads p.node p := by
  obtain ⟨start, finish⟩ := p
  exact .record (by decide)
    (.seq (.map (.required (.string start)) mk) (.optional .string .string))

theorem Period.yields : decoder.YieldsFitting node := by
  refine .record (.seq (.map (.required .string) ?_) (.optional .string))
  intro room _ hstart _ hfinish
  exact hstart.append hfinish

theorem AxisComparison.reads (a : AxisComparison) : decoder.Reads a.node a := by
  obtain ⟨axis1, operator, axis2, options⟩ := a
  exact .record (by decide) (.seq (.seq (.seq (.map (.required (.string axis1)) mk)
    (.required (.string operator))) (.required (.string axis2))) (.optional .strings .list))

theorem AxisComparison.yields : decoder.YieldsFitting node := by
  refine .record (.seq (.seq (.seq (.map (.required .string) ?_) (.required .string))
    (.required .string)) (.optional .strings))
  intro room _ haxis1 _ hoperator _ haxis2 _ hoptions
  exact ((haxis1.append hoperator).append haxis2).append hoptions

theorem PeriodComparison.reads (p : PeriodComparison) : decoder.Reads p.node p := by
  obtain ⟨axis, operator, period, options⟩ := p
  exact .record (by decide) (.seq (.seq (.seq (.map (.required (.strings axis)) mk)
    (.required (.string operator))) (.required (.listOf fun p _ => Period.reads p)))
    (.optional .strings .list))

theorem PeriodComparison.yields : decoder.YieldsFitting node := by
  refine .record (.seq (.seq (.seq (.map (.required .strings) ?_) (.required .string))
    (.required (.listOf Period.yields))) (.optional .strings))
  intro room _ haxis _ hoperator _ hperiod _ hoptions
  exact ((haxis.append hoperator).append hperiod).append hoptions

theorem CustomConstraint.reads (c : CustomConstraint) : decoder.Reads c.node c := by
  obtain ⟨parse, facet, options⟩ := c
  exact .record (by decide) (.seq (.seq (.map (.required parse.reads) mk)
    (.required (.bool facet))) (.optional .strings .list))

theorem CustomConstraint.yields : decoder.YieldsFitting node := by
  refine .record (.seq (.seq (.map (.required LibraryFunction.yields) ?_) (.required .bool))
    (.optional .strings))
  intro room _ hparse _ hfacet _ hoptions
  exact (hparse.append hfacet).append hoptions

end SearchRequest
