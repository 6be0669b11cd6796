import SearchRequest.Document.Shaping
import SearchRequest.Proofs.Document.Names

/-!
# The shape of results in documents

* `Transform.reads`, `Extract.reads`, `Snippet.reads` — each is read as it is written.
* `Snippet.Apart` — no option of a snippet has the key of a field; an option under such a key would
  be read as the field.
* `Transform.yields`, `Extract.yields`, `Snippet.yields` — what is accepted is written no deeper
  than it was, and the options of a snippet stand apart from its fields.
-/

namespace SearchRequest

/-! ## Transforms -/

namespace Transform

/-- The values that a transform is written as. -/
def values (t : Transform) : List Value :=
  .string t.name :: t.params.toList.map ValueMap.toValue

theorem node_eq_listOf (t : Transform) : t.node = Node.listOf (fun v => v.tree.node) t.values := by
  obtain ⟨name, params⟩ := t
  cases params <;> rfl

theorem ofValues_values (t : Transform) : ofValues t.values = .ok t := by
  obtain ⟨name, params⟩ := t
  cases params <;> rfl

/-- A transform is read as it is written, with or without parameters. -/
theorem reads (t : Transform) : decoder.Reads t.node t := by
  rw [node_eq_listOf]
  have hvalues : (Decoder.list Decoder.value).Reads
      (Node.listOf (fun v : Value => v.tree.node) t.values) t.values :=
    .listOf fun v _ => .value v
  exact hvalues.andThen t.ofValues_values

theorem toValue_of_object? {v : Value} {params : ValueMap} (h : v.object? = some params) :
    params.toValue = v := by
  obtain ⟨tree, hcanonical⟩ := v
  cases tree <;> cases h
  rfl

/-- The parameters of a transform are one of the values that it is made of. -/
theorem mem_of_ofValues {items : List Value} {t : Transform} (h : ofValues items = .ok t) :
    ∀ params ∈ t.params, params.toValue ∈ items := by
  intro params hparams
  unfold ofValues at h
  split at h
  · cases h
  · simp only at h
    split at h
    · cases h
    · next hfound =>
      split at h
      · cases h
      · cases h
        cases hparams
        split at hfound
        · cases hfound
        · next v hv =>
          have hmem : v ∈ items :=
            List.mem_of_mem_drop (List.mem_of_mem_head? hv)
          split at hfound
          · cases hfound
          · next hobject _ =>
            cases hfound
            rwa [toValue_of_object? hobject]
          · cases hfound

theorem yields : decoder.YieldsFitting node := by
  intro o d room t hd ht
  obtain ⟨items, hitems, ht⟩ := bind_eq_ok ht
  obtain ⟨hpos, hfits⟩ := Decoder.YieldsFitting.value.list o d room items hd hitems
  rw [node_eq_listOf]
  refine Node.fits_list hpos (List.forall_mem_map.2 (List.forall_mem_cons.2 ⟨?_, ?_⟩))
  · exact Node.fits_string t.name
  · refine List.forall_mem_map.2 fun params hparams => ?_
    exact hfits _ (mem_of_ofValues ht params (Option.mem_toList.1 hparams))

end Transform

/-! ## Extracts -/

theorem ExtractSelection.reads (s : ExtractSelection) :
    ExtractSelection.decoder.Reads (.string s.name) s := by
  cases s <;> exact .oneOfNames rfl

theorem ExtractSelection.yields :
    ExtractSelection.decoder.YieldsFitting fun s => .string s.name :=
  fun _ _ _ s _ _ => Node.fits_string s.name

theorem StringMap.refusesNull : Decoder.stringMap.RefusesNull := fun _ => ⟨_, rfl⟩

theorem Extract.reads (e : Extract) : decoder.Reads e.node e := by
  obtain ⟨paths, namespaces, selected⟩ := e
  exact .record (by decide) (.seq (.seq (.map (.required (.strings paths)) mk)
    (.optional StringMap.reads StringMap.refusesNull)) (.optional ExtractSelection.reads .oneOf))

theorem Extract.yields : decoder.YieldsFitting node := by
  refine .record (.seq (.seq (.map (.required .strings) ?_) (.optional StringMap.yields))
    (.optional ExtractSelection.yields))
  intro room _ hpaths _ hnamespaces _ hselected
  exact (hpaths.append hnamespaces).append hselected

/-! ## Snippets -/

theorem Json.nodesOfEntries_eq_map (es : List (String × Json)) :
    Json.nodesOfEntries es = es.map fun e => (e.1, e.2.node) := by
  induction es with
  | nil => rfl
  | cons e rest ih => rw [Json.nodesOfEntries, ih, List.map_cons]

theorem Json.keys_nodesOfEntries (es : List (String × Json)) :
    Json.keys (Json.nodesOfEntries es) = Json.keys es := by
  rw [Json.nodesOfEntries_eq_map, Json.keys, List.map_map]
  rfl

theorem ValueMap.part_reads (m : ValueMap) :
    PartReads (fun entries => .ok (ValueMap.ofJsonEntries entries))
      (Json.nodesOfEntries m.entries) m := by
  intro hfaithful
  obtain ⟨entries, hincreasing, hcanonical⟩ := m
  have hnodup : (Json.keys entries).Nodup := hincreasing.nodup_keys
  have hwritten : Node.entriesToJson (Json.nodesOfEntries entries) = entries :=
    Node.entriesToJson_nodesOfEntries hfaithful
  refine ⟨by rwa [Json.keys_nodesOfEntries], ?_, fun js hjs => ?_⟩
  · have hdistinct := Json.distinctEntries_iff.1 hcanonical.distinct
    rw [← hwritten, Node.entriesToJson_eq_map] at hdistinct
    exact fun e he => hdistinct (e.1, e.2.toJson) (List.mem_map_of_mem he)
  · have hperm := hjs.perm
    rw [hwritten, Json.canonicalEntries_of_canonical hcanonical] at hperm
    have hsorted : Json.sortEntries (Json.canonicalEntries js) = entries := by
      rw [Json.sortEntries_perm hperm (by rw [Json.keys_canonicalEntries]; exact hjs.nodup),
        Json.sortEntries_of_increasing hincreasing]
    simp only [ValueMap.ofJsonEntries, hsorted]

theorem Json.fitsEntries_ofJsonEntries {js : List (String × Json)} {room : Nat}
    (hfaithful : Json.FaithfulEntries js) (hdepth : Json.depthOfEntries js ≤ room) :
    Node.FitsEntries room (Json.nodesOfEntries (ValueMap.ofJsonEntries js).entries) := by
  rw [Json.nodesOfEntries_eq_map]
  refine List.forall_mem_map.2 fun e he => ?_
  have hmem := Json.mem_sortEntries he
  rw [Json.canonicalEntries_eq_map] at hmem
  obtain ⟨e', he', rfl⟩ := List.mem_map.1 hmem
  exact Json.fits_canonical (Json.faithfulEntries_iff.1 hfaithful e' he')
    (Json.depthOfEntries_le_iff.1 hdepth e' he')

namespace Snippet

/-- No option has the key of a field. -/
def Apart (s : Snippet) : Prop := ∀ k ∈ Json.keys s.options.entries, k ∉ ownFields.names

/-- A snippet is read as it is written, unless an option has the key of a field. -/
theorem reads {s : Snippet} (h : s.Apart) : decoder.Reads s.node s := by
  obtain ⟨apply, ns, location, options⟩ := s
  have hown : ownFields.Reads
      (Node.member "apply" (.string apply) ++ Node.optional "ns" .string ns ++
        Node.optional "at" .string location) _ :=
    .seq (.seq (.map (.required (.string apply)) _) (.optional .string .string))
      (.optional .string .string)
  have hkeys : ∀ k ∈ Json.keys (Json.nodesOfEntries options.entries), k ∉ ownFields.names := by
    rw [Json.keys_nodesOfEntries]
    exact h
  exact (Decoder.Reads.withOpenPart (by decide) hown options.part_reads (.refl _) hkeys).map _

theorem yields : decoder.Yields fun room s => s.node.Fits room ∧ s.Apart := by
  have hown : ownFields.Yields fun room make => ∀ options : ValueMap,
      Node.FitsEntries room (Json.nodesOfEntries options.entries) →
        (make options).node.Fits (room + 1) ∧ (make options).options = options := by
    refine .seq (.seq (.map (.required .string) ?_) (.optional .string)) (.optional .string)
    intro room apply happly ns hns location hlocation options hoptions
    have hentries := ((happly.append hns).append hlocation).append hoptions
    exact ⟨Node.fits_record (Nat.succ_pos _) hentries, rfl⟩
  refine Decoder.Yields.map (Q := fun room (s : Snippet) => s.node.Fits room ∧ s.Apart)
    (Decoder.Yields.withOpenPart (Q := fun room (options : ValueMap) =>
      Node.FitsEntries room (Json.nodesOfEntries options.entries) ∧
        ∀ k ∈ Json.keys options.entries, k ∉ ownFields.names) hown ?_) ?_
  · intro js room options hfaithful hdepth hnames hoptions
    cases hoptions
    refine ⟨Json.fitsEntries_ofJsonEntries hfaithful hdepth, List.forall_mem_map.2 fun e he => ?_⟩
    have hmem := Json.mem_sortEntries he
    rw [Json.canonicalEntries_eq_map] at hmem
    obtain ⟨e', he', rfl⟩ := List.mem_map.1 hmem
    exact hnames e' he'
  · rintro room ⟨make, options⟩ ⟨hpos, hmake, hfits, hkeys⟩
    obtain ⟨hnode, hoptions⟩ := hmake options hfits
    refine ⟨Nat.sub_add_cancel hpos ▸ hnode, ?_⟩
    rw [Apart, hoptions]
    exact hkeys

end Snippet

end SearchRequest
