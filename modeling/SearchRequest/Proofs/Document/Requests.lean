import SearchRequest.Build.Clauses
import SearchRequest.Proofs.Document.Clauses

/-!
# Requests in documents

* `Request.Restorable` — no bound of a bucket is the literal `null`, and no option of a snippet has
  the key of a field.
* `Request.reads` — such a request is read as it is written.
* `Request.copy_yields` — what is accepted for a request is such a request, and is written no deeper
  than it was.
* `Decoder.Reads.readText`, `Decoder.Yields.of_readText` — what decoders make of whole texts.
* `Request.ofText_of_writes` — the text of such a request is read as the request exactly if it is
  not nested too deeply, whatever the order of its keys.
* `Request.read_text_of_read` — reading and writing a second time changes nothing.
-/

namespace SearchRequest

theorem QueryType.reads (t : QueryType) : decoder.Reads (.string t.name) t := by
  cases t <;> exact .oneOfNames rfl

theorem QueryType.yields : decoder.YieldsFitting fun t => .string t.name :=
  fun _ _ _ t _ _ => Node.fits_string t.name

theorem QueryFormat.reads (f : QueryFormat) : decoder.Reads (.string f.name) f := by
  cases f
  exact .oneOfNames rfl

theorem QueryFormat.yields : decoder.YieldsFitting fun f => .string f.name :=
  fun _ _ _ f _ _ => Node.fits_string f.name

namespace Request

/-- What a request holds is told apart again in its document: no bound of a bucket is the literal
`null`, and no option of a snippet has the key of a field. -/
structure Restorable (r : Request) : Prop where
  /-- No bound of a bucket is the literal `null`. -/
  bounded : ∀ fs ∈ r.facets, ∀ f ∈ fs, f.Bounded
  /-- No option of a snippet has the key of a field. -/
  apart : ∀ s ∈ r.slice, s.Apart

/-- Facets, in the record that holds them. -/
def facetsNode (fs : List Facet) : Node :=
  .record (Node.member "constraint" (Node.listOf Facet.node fs))

/-- Sort keys, in the record that holds them. -/
def sortKeysNode (ks : List SortKey) : Node :=
  .record (Node.member "sort-order" (Node.listOf SortKey.node ks))

theorem facets_reads {fs : List Facet} (h : ∀ f ∈ fs, f.Bounded) :
    (Decoder.only "constraint" (Decoder.list Facet.decoder)).Reads (facetsNode fs) fs :=
  .record (List.nodup_singleton _) (.required (.listOf fun f hf => Facet.reads (h f hf)))

theorem sortKeys_reads (ks : List SortKey) :
    (Decoder.only "sort-order" (Decoder.list SortKey.decoder)).Reads (sortKeysNode ks) ks :=
  .record (List.nodup_singleton _) (.required (.listOf fun k _ => k.reads))

theorem facets_yield : (Decoder.only "constraint" (Decoder.list Facet.decoder)).Yields
    fun room fs => (facetsNode fs).Fits room ∧ ∀ f ∈ fs, f.Bounded := by
  refine .record_succ (Fields.Yields.field (fun o d room fs hd hfs => ?_) nofun)
  obtain ⟨hfits, hbounded⟩ := Facet.yields.list_and o d room fs hd hfs
  exact ⟨Node.fits_record (Nat.succ_pos _) (Node.fitsEntries_member hfits), hbounded⟩

theorem sortKeys_yield :
    (Decoder.only "sort-order" (Decoder.list SortKey.decoder)).YieldsFitting sortKeysNode :=
  .record (.required (.listOf SortKey.yields))

/-- A request is read as it is written, with the type and the format that it states. -/
theorem reads {r : Request} (h : r.Restorable) : decoder.Reads r.node r := by
  obtain ⟨whereClause, facets, sortKeys, slice, options, queryType, queryFormat⟩ := r
  obtain ⟨hbounded, hapart⟩ := h
  exact .record (by decide) (.seq (.seq (.seq (.seq (.seq (.seq
    (.map (.optional WhereClause.reads WhereClause.refusesNull) mk)
    (.optional_of_mem (fun fs hfs => facets_reads (hbounded fs hfs)) .record))
    (.optional sortKeys_reads .record))
    (.optional_of_mem (fun s hs => SliceClause.reads (hapart s hs)) .record))
    (.optional Options.reads .record)) (.optional QueryType.reads .oneOf))
    (.optional QueryFormat.reads .oneOf))

/-- A copy of a request that is accepted can be restored from what is written for it, which is no
deeper than the request was, or than its options are as lists. -/
theorem copy_yields :
    decoder.Yields fun room r => r.copy.node.Fits (max room 3) ∧ r.copy.Restorable := by
  refine .record_succ (.seq (.seq (.seq (.seq (.seq (.seq (.map
    (.optional WhereClause.yields) ?_) (.optional_and facets_yield)) (.optional sortKeys_yield))
    (.optional_and SliceClause.yields)) (.optional_of_fits Options.yields))
    (.optional QueryType.yields)) (.optional QueryFormat.yields))
  rintro room criteria hcriteria facets ⟨hfacets, hbounded⟩ sortKeys hsortKeys slice
    ⟨hslice, hapart⟩ options hoptions _ _ _ _
  have hclauses := ((((hcriteria.append hfacets).append hsortKeys).append hslice).mono
    (Nat.le_max_left room 2)).append (hoptions.mono (Nat.le_max_right room 2))
  refine ⟨Node.fits_record (by omega) ?_, hbounded, hapart⟩
  rw [show max (room + 1) 3 - 1 = max room 2 by omega]
  refine (hclauses.append ?_).append ?_
  · exact Node.fitsEntries_optional fun t _ => Node.fits_string (QueryType.name t)
  · exact Node.fitsEntries_optional fun f _ => Node.fits_string (QueryFormat.name f)

end Request

/-! ## Texts -/

namespace Decoder

variable {ρ : FloatReader} {α : Type} {decoder : Decoder α} {n : Node} {a : α}

theorem readText_compact (decoder : Decoder α) {j : Json} (h : j.Faithful)
    (hfloats : ρ.RestoresAll j.floats) :
    decoder.readText ρ j.compact = decoder .text (j.draftWithin Json.Parser.nestingLimit) := by
  rw [readText, Reading.ofText_compact h hfloats]
  cases decoder .text (j.draftWithin Json.Parser.nestingLimit) <;> rfl

/-- The JSON of a written value, whatever the order of its keys, is read if it is not nested too
deeply, and not at all if it is. -/
theorem Reads.readText_of_writes (h : decoder.Reads n a) (hn : n.Faithful) {j : Json}
    (hj : n.Writes j) (hjfaithful : j.Faithful) (hfloats : ρ.RestoresAll j.floats) :
    OkWhen (j.depth ≤ Json.Parser.nestingLimit) (decoder.readText ρ j.compact) a := by
  rw [Decoder.readText_compact _ hjfaithful hfloats]
  exact (h hn).2 .text j Json.Parser.nestingLimit hj

theorem Reads.readText (h : decoder.Reads n a) (hn : n.Faithful)
    (hfloats : ρ.RestoresAll n.toJson.floats) :
    OkWhen (n.toJson.depth ≤ Json.Parser.nestingLimit) (decoder.readText ρ n.toJson.compact) a :=
  h.readText_of_writes hn (Node.writes_toJson (h hn).1) hn.toJson hfloats

/-- What is read from a text has what the decoder yields. -/
theorem Yields.of_readText {P : Nat → α → Prop} (h : decoder.Yields P) {t : String}
    (ht : decoder.readText ρ t = .ok a) : P Json.Parser.nestingLimit a := by
  obtain ⟨a', hdecoded, hrest⟩ := bind_eq_ok ht
  have hresult : a' = a := by
    split at hrest
    · cases hrest
    · exact Except.ok.inj hrest
  subst hresult
  exact h .text _ _ a' (Reading.within_ofText ρ t) hdecoded

end Decoder

/-! ## Texts of requests -/

namespace Request

variable {ρ : FloatReader} {r : Request}

/-- The JSON of a request, whatever the order of its keys, is read as a copy of the request if it
is not nested too deeply, and not at all if it is. -/
theorem ofText_of_writes (h : r.Restorable) (hfaithful : r.node.Faithful) {j : Json}
    (hj : r.node.Writes j) (hjfaithful : j.Faithful) (hfloats : ρ.RestoresAll j.floats) :
    OkWhen (j.depth ≤ Json.Parser.nestingLimit) (ofText ρ j.compact) r.copy :=
  ((reads h).readText_of_writes hfaithful hj hjfaithful hfloats).map copy

theorem ofText_text (h : r.Restorable) (hfaithful : r.node.Faithful)
    (hfloats : ρ.RestoresAll r.json.floats) :
    OkWhen (r.json.depth ≤ Json.Parser.nestingLimit) (ofText ρ r.text) r.copy :=
  ofText_of_writes h hfaithful (Node.writes_toJson (reads h hfaithful).1) hfaithful.toJson hfloats

/-- A request that is read from a text can be restored from a text. -/
theorem restorable_of_ofText {t : String} (h : ofText ρ t = .ok r) :
    r.Restorable ∧ r.node.Fits Json.Parser.nestingLimit ∧ r.copy = r := by
  obtain ⟨r', hread, rfl⟩ := map_eq_ok h
  obtain ⟨hfits, hrestorable⟩ := copy_yields.of_readText hread
  exact ⟨hrestorable, hfits, rfl⟩

theorem ofText_of_read {t : String} (h : read ρ t = .ok r) : ofText ρ t = .ok r := mapError_eq_ok h

/-- A request whose text is not nested too deeply is read from it. -/
theorem read_text (h : r.Restorable) (hfits : r.node.Fits Json.Parser.nestingLimit)
    (hfloats : ρ.RestoresAll r.json.floats) (hcopy : r.copy = r) : read ρ r.text = .ok r := by
  rw [read, (ofText_text h hfits.1 hfloats).1 hfits.2, hcopy]
  rfl

/-- What a text is read as is written as a text that is read as the same request, and written as
that text again, if the floating-point numbers in it are read back. -/
theorem read_text_of_read {t : String} (h : read ρ t = .ok r)
    (hfloats : ρ.RestoresAll r.json.floats) :
    read ρ r.text = .ok r ∧ (read ρ r.text).map text = .ok r.text := by
  obtain ⟨hrestorable, hfits, hcopy⟩ := restorable_of_ofText (ofText_of_read h)
  have hread := read_text hrestorable hfits hfloats hcopy
  refine ⟨hread, ?_⟩
  rw [hread]
  rfl

theorem read_text_of_read_array :
    let r : Request := { options := some { search := some ["a"] } }
    read .quick "[null,null,null,null,[\"a\"],\"qbe\"]" = .ok r ∧
      FloatReader.quick.RestoresAll r.json.floats ∧ read .quick r.text = .ok r := by
  intro r
  have hreading : Reading.ofText .quick "[null,null,null,null,[\"a\"],\"qbe\"]" =
      ⟨.array [.null, .null, .null, .null, .array [.string "a"] .closed, .string "qbe"] .closed,
        false⟩ := by cbv
  have hread : read .quick "[null,null,null,null,[\"a\"],\"qbe\"]" = .ok r := by
    rw [read, ofText, Decoder.readText, hreading]
    rfl
  have hnone : r.json.floats = [] := rfl
  have hfloats : FloatReader.quick.RestoresAll r.json.floats :=
    hnone ▸ FloatReader.restoresAll_nil
  exact ⟨hread, hfloats, (read_text_of_read hread hfloats).1⟩

end Request

end SearchRequest
