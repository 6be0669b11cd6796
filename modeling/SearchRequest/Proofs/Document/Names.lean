import SearchRequest.Document.Library
import SearchRequest.Document.SortKey
import SearchRequest.Proofs.Document.Records
import SearchRequest.Proofs.Document.Yields

/-!
# Names and literals in documents

Each type that a query is made of is read as it is written (`reads`), and what is accepted for it
is written no deeper than it was (`yields`).

* `RangeOperator`, `FragmentScope`, `Direction` — names without content.
* `Scalar` — literals.
* `StringMap` — maps of strings, whose entries may stand in any order.
* `QName`, `PathIndex`, `IndexFields` — the names of indexes.
* `LibraryFunction` — references to functions.
-/

namespace SearchRequest

/-! ## Names without content -/

theorem RangeOperator.reads (o : RangeOperator) : decoder.Reads o.node o := by
  cases o <;> exact .oneOfNames rfl

theorem RangeOperator.yields : decoder.YieldsFitting node :=
  fun _ _ _ o _ _ => Node.fits_string o.name

theorem FragmentScope.reads (s : FragmentScope) : decoder.Reads s.node s := by
  cases s <;> exact .oneOfNames rfl

theorem FragmentScope.yields : decoder.YieldsFitting node :=
  fun _ _ _ s _ _ => Node.fits_string s.name

theorem Direction.reads (d : Direction) : decoder.Reads d.node d := by
  cases d <;> exact .oneOfNames rfl

theorem Direction.yields : decoder.YieldsFitting node :=
  fun _ _ _ d _ _ => Node.fits_string d.name

/-! ## Literals -/

namespace Scalar

theorem reads (s : Scalar) : decoder.Reads s.node s := by
  cases s with
  | number m =>
    intro hn
    have hjson := Decoder.Reads.toJson_number hn
    refine Decoder.Reads.leaf (by rw [node, hjson]; rfl) (fun _ o => ?_) hn
    rw [node, hjson]
    rfl
  | _ => exact .leaf rfl fun _ _ => rfl

/-- A literal comes from a draft that settles to a leaf. -/
theorem settled_of_decoder {o : Origin} {d : Draft} {s : Scalar} (h : decoder o d = .ok s) :
    ∃ j, Decoder.settled d = .ok j ∧ ofJson? j = some s := by
  obtain ⟨j, hj, h⟩ := bind_eq_ok h
  refine ⟨j, hj, ?_⟩
  split at h
  · next s' hs' =>
    cases h
    exact hs'
  · cases h

theorem yields : decoder.YieldsFitting node := by
  intro o d room s hd hs
  obtain ⟨j, hj, hs⟩ := settled_of_decoder hs
  have hfaithful := (Decoder.within_of_settled hd hj).1
  cases j <;> cases hs
  · exact Node.fits_null
  · exact Node.fits_bool _
  · exact Node.fits_number hfaithful
  · exact Node.fits_string _

/-- Only `null` is read as the literal `null`. -/
theorem ne_null_of_decoder {o : Origin} {d : Draft} {s : Scalar} (hd : d ≠ .null)
    (h : decoder o d = .ok s) : s ≠ .null := by
  rintro rfl
  obtain ⟨j, hj, hs⟩ := settled_of_decoder h
  have hsettle := mapError_eq_ok hj
  cases j with
  | null =>
    cases d with
    | null => exact hd rfl
    | array items ending =>
      obtain ⟨js, -, hrest⟩ := bind_eq_ok hsettle
      cases ending <;> cases hrest
    | object entries ending =>
      obtain ⟨js, -, hrest⟩ := bind_eq_ok hsettle
      cases ending <;> cases hrest
    | _ => cases hsettle
  | _ => cases hs

end Scalar

/-! ## Names of indexes -/

theorem QName.reads (q : QName) : decoder.Reads q.node q := by
  obtain ⟨ns, name⟩ := q
  exact .record (by decide) (.seq (.map (.optional .string .string) mk) (.required (.string name)))

theorem QName.yields : decoder.YieldsFitting node := by
  refine .record (.seq (.map (.optional .string) ?_) (.required .string))
  intro room _ hns _ hname
  exact hns.append hname

/-! ## Maps of strings -/

namespace StringMap

/-- An entry whose value is a string. -/
def textEntry (e : String × String) : String × Json := (e.1, .string e.2)

theorem textEntry_injective : Function.Injective textEntry := by
  rintro ⟨k, s⟩ ⟨l, t⟩ h
  cases h
  rfl

/-- The entries of a map of strings in JSON. -/
theorem exists_textEntries {m : List (String × String)} {js : List (String × Json)}
    (h : Node.WritesEntries (m.map fun (k, s) => (k, .string s)) js) :
    ∃ ss : List (String × String), js = ss.map textEntry ∧ ss.Perm m := by
  have hperm : (js.map fun e => (e.1, e.2.canonical)).Perm (m.map textEntry) := by
    have hcanonical := h.perm
    rw [Json.canonicalEntries_eq_map, Json.canonicalEntries_eq_map, Node.entriesToJson_eq_map,
      List.map_map, List.map_map] at hcanonical
    exact hcanonical
  have hstrings : ∀ e ∈ js, ∃ s, e.2 = .string s := by
    intro e he
    have hmem := hperm.mem_iff.1 (List.mem_map_of_mem (f := fun e => (e.1, e.2.canonical)) he)
    obtain ⟨⟨k, s⟩, -, heq⟩ := List.mem_map.1 hmem
    obtain ⟨-, hs⟩ := Prod.mk.inj heq
    obtain ⟨k', j⟩ := e
    cases j <;> first | exact ⟨_, rfl⟩ | cases hs
  obtain ⟨ss, rfl⟩ : ∃ ss : List (String × String), js = ss.map textEntry := by
    clear h hperm
    induction js with
    | nil => exact ⟨[], rfl⟩
    | cons e rest ih =>
      obtain ⟨hs, hrest⟩ := List.forall_mem_cons.1 hstrings
      obtain ⟨s, hs⟩ := hs
      obtain ⟨ss, rfl⟩ := ih hrest
      exact ⟨(e.1, s) :: ss, by rw [List.map_cons, textEntry, ← hs]⟩
  refine ⟨ss, rfl, ?_⟩
  rw [List.map_map] at hperm
  exact (List.map_perm_map_iff textEntry_injective).1 hperm

theorem entries_textEntries (o : Origin) (room : Nat) : ∀ ss : List (String × String),
    Decoder.entries Decoder.string o (Json.draftEntriesWithin room (ss.map textEntry)) .closed =
      .ok ss
  | [] => rfl
  | (k, s) :: rest => by
    have hrest := entries_textEntries o room rest
    simp only [List.map_cons, textEntry, Json.draftEntriesWithin, Json.draftWithin,
      Decoder.entries, Draft.key, Except.mapError, bind, Except.bind, Decoder.string]
    simp only [hrest]

/-- A map of strings is read as it is written. -/
theorem reads (m : StringMap) : Decoder.stringMap.Reads (Node.stringMap m.entries) m := by
  intro _
  have hkeys : (Json.keys (m.entries.map fun (k, s) => (k, Node.string s))).Nodup := by
    have hnodup := m.increasing.nodup_keys
    rw [Json.keys, List.map_map]
    exact hnodup
  refine ⟨Node.distinct_record hkeys (List.forall_mem_map.2 fun _ _ => trivial),
    fun o j room hj => ?_⟩
  obtain ⟨js, rfl, hjs⟩ := hj.record hkeys
  obtain ⟨ss, rfl, hperm⟩ := exists_textEntries hjs
  have hdepth : Json.depthOfEntries (ss.map textEntry) ≤ 0 :=
    Json.depthOfEntries_le_iff.2 (List.forall_mem_map.2 fun _ _ => Nat.le_refl 0)
  cases room with
  | zero => exact .error (by simp [Json.depth])
  | succ room =>
    have hnodup : (Json.keys ss).Nodup :=
      (hperm.map Prod.fst).nodup_iff.2 m.increasing.nodup_keys
    have hsorted : Json.sortEntries ss = m.entries :=
      Json.eq_of_perm_of_increasing ((Json.perm_sortEntries hnodup).trans hperm)
        (Json.increasing_sortEntries ss) m.increasing
    have hmap : StringMap.ofList ss = m := by
      cases m
      cases hsorted
      rfl
    rw [Json.draftWithin, Decoder.stringMap, entries_textEntries, ← hmap]
    exact .ok (by rw [Json.depth]; omega)

theorem yields : Decoder.stringMap.YieldsFitting fun m => Node.stringMap m.entries := by
  intro o d room m hd hm
  cases d with
  | object entries ending =>
    refine Node.fits_record hd.1 (List.forall_mem_map.2 fun e _ => Node.fits_string e.2)
  | _ => cases hm

end StringMap

namespace PathIndex

theorem namespaces_reads (m : StringMap) : namespacesDecoder.Reads (namespacesNode m) m := by
  obtain ⟨entries, hincreasing⟩ := m
  cases entries with
  | nil => exact .leaf rfl fun _ _ => rfl
  | cons e rest =>
    have hmap := StringMap.reads ⟨e :: rest, hincreasing⟩
    intro hn
    refine ⟨(hmap hn).1, fun o j room hj => ?_⟩
    have hheld := hmap.draft hn .held hj
    have hsettled := Json.settled_draftWithin room j
    refine ⟨fun hle => ?_, fun hlt => ?_⟩
    · rw [namespacesDecoder, hsettled.1 hle]
      cases j with
      | string s => cases hheld
      | _ => exact hheld
    · obtain ⟨e', he'⟩ := hsettled.2 hlt
      exact ⟨e', by rw [namespacesDecoder, he']; rfl⟩

theorem namespaces_yields : namespacesDecoder.YieldsFitting namespacesNode := by
  intro o d room m hd hm
  obtain ⟨j, hj, hm⟩ := bind_eq_ok hm
  obtain ⟨hfaithful, hdepth⟩ := Decoder.within_of_settled hd hj
  have hempty : (namespacesNode StringMap.empty).Fits room := Node.fits_string ""
  split at hm
  · split at hm
    · cases hm
      exact hempty
    · cases hm
  · have hfits := StringMap.yields .held j.draft room m (Draft.within_draft hfaithful hdepth) hm
    rw [namespacesNode]
    split
    · exact Node.fits_string ""
    · exact hfits

theorem reads (p : PathIndex) : decoder.Reads p.node p := by
  obtain ⟨path, namespaces⟩ := p
  exact .record (by decide)
    (.seq (.map (.required (.string path)) mk) (.required (namespaces_reads namespaces)))

theorem yields : decoder.YieldsFitting node := by
  refine .record (.seq (.map (.required .string) ?_) (.required namespaces_yields))
  intro room _ hpath _ hnamespaces
  exact hpath.append hnamespaces

end PathIndex

namespace IndexFields

/-- The fields of an index name are read as they are written. -/
theorem fields_reads (f : IndexFields) : fields.Reads f.entries f := by
  obtain ⟨property, element, attr, field, path⟩ := f
  exact .seq (.seq (.seq (.seq (.map (.optional .string .string) mk)
    (.optional QName.reads .record)) (.optional QName.reads .record))
    (.optional .string .string)) (.optional PathIndex.reads .record)

theorem fields_yields : fields.Yields fun room f => Node.FitsEntries room f.entries := by
  refine .seq (.seq (.seq (.seq (.map (.optional .string) ?_) (.optional QName.yields))
    (.optional QName.yields)) (.optional .string)) (.optional PathIndex.yields)
  intro room _ hproperty _ helement _ hattribute _ hfield _ hpath
  exact (((hproperty.append helement).append hattribute).append hfield).append hpath

theorem part_reads (f : IndexFields) : PartReads within f.entries f :=
  .within (fields_reads f) (by decide)

theorem mem_names (f : IndexFields) : ∀ k ∈ Json.keys f.entries, k ∈ fields.names := by
  obtain ⟨property, element, attr, field, path⟩ := f
  have hsubset : (Json.keys (IndexFields.entries ⟨property, element, attr, field, path⟩)).Sublist
      fields.names := by
    simp only [entries, Json.keys_append]
    exact ((((Node.keys_optional_sublist _ _ _).append (Node.keys_optional_sublist _ _ _)).append
      (Node.keys_optional_sublist _ _ _)).append (Node.keys_optional_sublist _ _ _)).append
      (Node.keys_optional_sublist _ _ _)
  exact fun k hk => hsubset.subset hk

end IndexFields

theorem perm_append_of_eq {α : Type} {full first rest : List α} (h : full = first ++ rest) :
    full.Perm (rest ++ first) := h ▸ List.perm_append_comm

section WithIndex

variable {α : Type} {r : Fields (IndexFields → α)}

/-- A record with the fields of an index name among its own is read as it is written, wherever the
fields of the name stand. -/
theorem Decoder.Reads.withIndex {own full : List (String × Node)} {make : IndexFields → α}
    {index : IndexFields} (hnames : r.names.Nodup) (h : r.Reads own make)
    (hfull : full.Perm (own ++ index.entries))
    (hdisjoint : ∀ k ∈ IndexFields.fields.names, k ∉ r.names) :
    Decoder.Reads (fun o d => (r.withOpenPart IndexFields.within o d).map fun (make, index) =>
      make index) (.record full) (make index) :=
  (Decoder.Reads.withOpenPart hnames h (IndexFields.part_reads index) hfull
    fun k hk => hdisjoint k (index.mem_names k hk)).map fun (make, index) => make index

theorem Decoder.YieldsFitting.withIndex {entries : α → List (String × Node)}
    (h : r.Yields fun room make => ∀ index : IndexFields, Node.FitsEntries room index.entries →
      Node.FitsEntries room (entries (make index))) :
    Decoder.YieldsFitting (fun o d => (r.withOpenPart IndexFields.within o d).map
      fun (make, index) => make index) fun a => .record (entries a) := by
  refine Decoder.Yields.map (Decoder.Yields.withOpenPart h fun js room b hfaithful hdepth _ hb =>
    PartYields.within IndexFields.fields_yields js room b hfaithful hdepth hb) ?_
  rintro room ⟨make, index⟩ ⟨hpos, hmake, hindex⟩
  exact Node.fits_record hpos (hmake index hindex)

end WithIndex

/-! ## Functions -/

theorem LibraryFunction.reads (f : LibraryFunction) : decoder.Reads f.node f := by
  obtain ⟨apply, ns, location⟩ := f
  exact .record (by decide) (.seq (.seq (.map (.required (.string apply)) mk)
    (.required (.string ns))) (.required (.string location)))

theorem LibraryFunction.yields : decoder.YieldsFitting node := by
  refine .record (.seq (.seq (.map (.required .string) ?_) (.required .string))
    (.required .string))
  intro room _ happly _ hns _ hlocation
  exact (happly.append hns).append hlocation

end SearchRequest
