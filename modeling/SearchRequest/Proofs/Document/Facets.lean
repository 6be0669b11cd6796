import SearchRequest.Document.Facet
import SearchRequest.Proofs.Document.Queries

/-!
# Facets in documents

* `Bucket.Bounded`, `Facet.Bounded` — no bound of a bucket is the literal `null`, which is written
  as an absent bound is read.
* `Bucket.nonnull_reads` — the bucket without such bounds is read for it.
* `Facet.reads` — such a facet is read as it is written.
* `Facet.yields` — what is accepted for a facet is such a facet, written no deeper than it was.
-/

namespace SearchRequest

/-! ## Buckets -/

namespace Bucket

/-- No bound is the literal `null`. -/
def Bounded (b : Bucket) : Prop := b.ge ≠ some .null ∧ b.lt ≠ some .null

/-- The bucket without the bounds that are the literal `null`. -/
def nonnull (b : Bucket) : Bucket :=
  { b with ge := b.ge.filter (· ≠ .null), lt := b.lt.filter (· ≠ .null) }

theorem filter_eq_self_iff {v : Option Scalar} : v.filter (· ≠ .null) = v ↔ v ≠ some .null := by
  cases v with
  | none => simp
  | some s => simp

theorem nonnull_eq_self_iff {b : Bucket} : b.nonnull = b ↔ b.Bounded := by
  obtain ⟨name, label, anchor, ge, geAnchor, lt, ltAnchor⟩ := b
  rw [nonnull, Bounded, ← filter_eq_self_iff, ← filter_eq_self_iff]
  simp

/-- A bound is read as it is written, but the literal `null` as no bound. -/
theorem bound_reads (name : String) (v : Option Scalar) :
    (Fields.optional name Scalar.decoder).Reads (Node.optional name Scalar.node v)
      (v.filter (· ≠ .null)) := by
  by_cases hv : v = some .null
  · rw [hv]
    have hnull : (Decoder.optional Scalar.decoder).Reads .null none := .leaf rfl fun _ _ => rfl
    exact .present hnull
  · rw [filter_eq_self_iff.2 hv]
    refine .optional_of_ne_null (fun s _ => s.reads) fun s hs hfaithful => ?_
    cases s with
    | null => exact absurd hs hv
    | number m =>
      rw [Scalar.node, Decoder.Reads.toJson_number hfaithful]
      rintro ⟨⟩
    | _ => rintro ⟨⟩

theorem bound_yields {name : String} : (Fields.optional name Scalar.decoder).Yields fun room v =>
    Node.FitsEntries room (Node.optional name Scalar.node v) ∧ v ≠ some .null := by
  intro o place cells room v hcells hv
  have hbound : ∀ s ∈ v, s.node.Fits room ∧ s ≠ .null :=
    Fields.Yields.optional_of_ne_null (P := fun room s => s.node.Fits room ∧ s ≠ .null)
      (fun o d room s hne hd hs => ⟨Scalar.yields o d room s hd hs,
        Scalar.ne_null_of_decoder hne hs⟩) o place cells room v hcells hv
  refine ⟨Node.fitsEntries_optional fun s hs => (hbound s hs).1, ?_⟩
  rintro rfl
  exact (hbound .null rfl).2 rfl

/-- A bucket is read as it is written, but for its bounds that are `null`. -/
theorem nonnull_reads (b : Bucket) : decoder.Reads b.node b.nonnull := by
  obtain ⟨name, label, anchor, ge, geAnchor, lt, ltAnchor⟩ := b
  exact .record (by decide) (.seq (.seq (.seq (.seq (.seq (.seq
    (.map (.required (.string name)) mk) (.required (.string label))) (.optional .string .string))
    (bound_reads _ ge)) (.optional .string .string)) (bound_reads _ lt))
    (.optional .string .string))

/-- A bucket is read as it is written, unless a bound of it is `null`. -/
theorem reads {b : Bucket} (h : b.Bounded) : decoder.Reads b.node b := by
  have hreads : decoder.Reads b.node b.nonnull := b.nonnull_reads
  rwa [nonnull_eq_self_iff.2 h] at hreads

theorem yields : decoder.Yields fun room b => b.node.Fits room ∧ b.Bounded := by
  refine .record_succ (.seq (.seq (.seq (.seq (.seq (.seq (.map (.required .string) ?_)
    (.required .string)) (.optional .string)) bound_yields) (.optional .string)) bound_yields)
    (.optional .string))
  rintro room name hname label hlabel anchor hanchor ge ⟨hge, hne⟩ geAnchor hgeAnchor lt
    ⟨hlt, hltne⟩ ltAnchor hltAnchor
  have hentries := ((((((hname.append hlabel).append hanchor).append hge).append hgeAnchor).append
    hlt).append hltAnchor)
  exact ⟨Node.fits_record (Nat.succ_pos _) hentries, hne, hltne⟩

theorem lists_yield {name : String} : (Fields.optional name (Decoder.list decoder)).Yields
    fun room v => Node.FitsEntries room (Node.optional name (Node.listOf node) v) ∧
      ∀ bs ∈ v, ∀ b ∈ bs, b.Bounded := .optional_and yields.list_and

end Bucket

/-! ## Facets over an index -/

theorem FacetFunctions.fields_reads (f : FacetFunctions) : fields.Reads f.entries f := by
  obtain ⟨start, finish⟩ := f
  exact .seq (.map (.required start.reads) mk) (.required finish.reads)

theorem FacetFunctions.fields_yields :
    fields.Yields fun room f => Node.FitsEntries room f.entries := by
  refine .seq (.map (.required LibraryFunction.yields) ?_) (.required LibraryFunction.yields)
  intro room _ hstart _ hfinish
  exact hstart.append hfinish

namespace RangeFacet

/-- No bound of a bucket is the literal `null`. -/
def Bounded (r : RangeFacet) : Prop :=
  (∀ bs ∈ r.bucket, ∀ b ∈ bs, b.Bounded) ∧ ∀ bs ∈ r.computedBucket, ∀ b ∈ bs, b.Bounded

theorem reads {r : RangeFacet} (h : r.Bounded) : decoder.Reads r.node r := by
  obtain ⟨facet, datatype, collation, index, bucket, computed, options⟩ := r
  obtain ⟨hbucket, hcomputed⟩ := h
  have hlists : ∀ {name : String} {v : Option (List Bucket)}, (∀ bs ∈ v, ∀ b ∈ bs, b.Bounded) →
      (Fields.optional name (Decoder.list Bucket.decoder)).Reads
        (Node.optional name (Node.listOf Bucket.node) v) v := by
    intro name v hv
    exact .optional_of_mem (fun bs hbs => .listOf fun b hb => Bucket.reads (hv bs hbs b hb)) .list
  have hown : ownFields.Reads
      (Node.member "facet" (.bool facet) ++ Node.optional "type" .string datatype ++
        Node.optional "collation" .string collation ++
        Node.optional "bucket" (Node.listOf Bucket.node) bucket ++
        Node.optional "computed-bucket" (Node.listOf Bucket.node) computed ++
        Node.optional "facet-option" Node.strings options) _ :=
    .seq (.seq (.seq (.seq (.seq (.map (.required (.bool facet)) _) (.optional .string .string))
      (.optional .string .string)) (hlists hbucket)) (hlists hcomputed)) (.optional .strings .list)
  refine Decoder.Reads.withIndex (by decide) hown ?_ (by decide)
  -- The fields of the index stand in the middle.
  simp only [List.append_assoc]
  refine (List.Perm.refl _).append ((List.Perm.refl _).append ((List.Perm.refl _).append ?_))
  exact List.perm_append_comm.trans (.of_eq (by simp only [List.append_assoc]))

theorem yields : decoder.Yields fun room r => r.node.Fits room ∧ r.Bounded := by
  have hown : ownFields.Yields fun room make => ∀ index : IndexFields,
      Node.FitsEntries room index.entries →
        (make index).node.Fits (room + 1) ∧ (make index).Bounded := by
    refine .seq (.seq (.seq (.seq (.seq (.map (.required .bool) ?_) (.optional .string))
      (.optional .string)) Bucket.lists_yield) Bucket.lists_yield) (.optional .strings)
    rintro room facet hfacet datatype htype collation hcollation bucket ⟨hbucket, hbounded⟩ computed
      ⟨hcomputed, hcbounded⟩ options hoptions index hindex
    have hentries := (((((hfacet.append htype).append hcollation).append hindex).append
      hbucket).append hcomputed).append hoptions
    exact ⟨Node.fits_record (Nat.succ_pos _) hentries, hbounded, hcbounded⟩
  refine Decoder.Yields.map (Decoder.Yields.withOpenPart hown fun js room b hfaithful hdepth _ hb =>
    PartYields.within IndexFields.fields_yields js room b hfaithful hdepth hb) ?_
  rintro room ⟨make, index⟩ ⟨hpos, hmake, hindex⟩
  obtain ⟨hfits, hbounded⟩ := hmake index hindex
  exact ⟨Nat.sub_add_cancel hpos ▸ hfits, hbounded⟩

end RangeFacet

/-! ## Facets -/

namespace FacetKind

/-- No bound of a bucket is the literal `null`. -/
def Bounded : FacetKind → Prop
  | .range r => r.Bounded
  | _ => True

theorem case_reads {k : FacetKind} (h : k.Bounded) : CaseReads cases k.member k := by
  cases k with
  | collection facet options =>
    have hrecord : (Fields.record (FacetKind.collection <$> Fields.required "facet" Decoder.bool <*>
        Fields.optional "facet-option" Decoder.strings)).Reads _
        (FacetKind.collection facet options) :=
      .record (by decide) (.seq (.map (.required (.bool facet)) _) (.optional .strings .list))
    exact ⟨_, rfl, hrecord⟩
  | custom facet functions options =>
    have hrecord : (Fields.record (FacetKind.custom <$> Fields.required "facet" Decoder.bool <*>
        FacetFunctions.fields <*> Fields.optional "facet-option" Decoder.strings)).Reads _
        (FacetKind.custom facet functions options) :=
      .record (by decide) (.seq (.seq (.map (.required (.bool facet)) _) functions.fields_reads)
        (.optional .strings .list))
    exact ⟨_, rfl, hrecord⟩
  | range facet => exact ⟨_, rfl, (RangeFacet.reads h).as FacetKind.range⟩

theorem cases_yield :
    ∀ c ∈ cases, c.2.Yields fun room k => k.member.2.Fits room ∧ k.Bounded := by
  refine List.forall_mem_cons.2 ⟨?_, List.forall_mem_cons.2 ⟨?_, List.forall_mem_singleton.2 ?_⟩⟩
  · refine .record_succ (.seq (.map (.required .bool) ?_) (.optional .strings))
    intro room _ hfacet _ hoptions
    exact ⟨Node.fits_record (Nat.succ_pos room) (hfacet.append hoptions), trivial⟩
  · refine .record_succ (.seq (.seq (.map (.required .bool) ?_) FacetFunctions.fields_yields)
      (.optional .strings))
    intro room _ hfacet _ hfunctions _ hoptions
    exact ⟨Node.fits_record (Nat.succ_pos room) ((hfacet.append hfunctions).append hoptions),
      trivial⟩
  · exact RangeFacet.yields.as fun _ _ h => h

end FacetKind

namespace Facet

/-- No bound of a bucket is the literal `null`. -/
def Bounded (f : Facet) : Prop := f.kind.Bounded

/-- A facet is read as it is written, unless a bound of a bucket is `null`. -/
theorem reads {f : Facet} (h : f.Bounded) : decoder.Reads f.node f := by
  obtain ⟨name, kind⟩ := f
  have hcase : CaseReads FacetKind.cases kind.member kind := FacetKind.case_reads h
  have hkey : ∀ k ∈ Json.keys [kind.member], k ∉ ["name"] := by
    simpa [Json.keys] using hcase.ne_of_none rfl
  exact (Decoder.Reads.withOpenPart (by decide) (.required (.string name)) hcase.part (.refl _)
    hkey).map _

theorem yields : decoder.Yields fun room f => f.node.Fits room ∧ f.Bounded := by
  refine Decoder.Yields.map (Decoder.Yields.withOpenPart (.required .string)
    fun js room b hfaithful hdepth _ hb =>
      PartYields.caseWithin FacetKind.cases_yield js room b hfaithful hdepth hb) ?_
  rintro room ⟨name, kind⟩ ⟨hpos, hname, hkind, hbounded⟩
  exact ⟨Node.fits_record hpos (hname.append (Node.fitsEntries_member hkind)), hbounded⟩

end Facet

end SearchRequest
