import SearchRequest.Build.Results
import SearchRequest.Proofs.Document.Requests

/-!
# Reading back the snippets that are built

The options of a snippet are written beside its own fields, so an option under the key of a field
cannot be told from the field.

* `Snippet.isOption`, `Snippet.optionsOf` — which entries of the objects that a snippet is given
  are kept as its options.
* `Build.snippet_options` — the options of a snippet are all these entries, the last of each key.
* `Build.snippet_restored` — a snippet is read back from its text exactly if none of its options
  stands under the key of a field.
-/

namespace SearchRequest

open Argument

/-! ## Options of snippets -/

namespace Snippet

/-- The fields of a snippet as they are written, without the options. -/
def ownEntries (s : Snippet) : List (String × Node) :=
  Node.member "apply" (.string s.apply) ++ Node.optional "ns" .string s.ns ++
    Node.optional "at" .string s.location

/-- An entry is kept as an option, unless it is a text under the key of a field. -/
def isOption (e : String × Json) : Bool := !(ownFields.names.contains e.1 && e.2.string?.isSome)

/-- The options that an argument gives. -/
def optionsOf : Argument → List (String × Json)
  | .json v =>
    match v.object? with
    | some m => m.entries.filter isOption
    | none => []
  | _ => []

theorem mem_optionsOf {a : Argument} {e : String × Json} (h : e ∈ optionsOf a) :
    ∃ v entries, a = .json v ∧ v.tree = .object entries ∧ e ∈ entries := by
  unfold optionsOf at h
  split at h
  · next v =>
    split at h
    · next m hobject =>
      obtain ⟨he, -⟩ := List.mem_filter.1 h
      exact ⟨v, m.entries, rfl, congrArg Value.tree (Transform.toValue_of_object? hobject).symm, he⟩
    · cases h
  · cases h

theorem nodup_keys_ownEntries (s : Snippet) : (Json.keys s.ownEntries).Nodup := by
  have hsublist : (Json.keys s.ownEntries).Sublist (["apply"] ++ ["ns"] ++ ["at"]) := by
    rw [ownEntries, Json.keys_append, Json.keys_append]
    exact ((List.Sublist.refl _).append (Node.keys_optional_sublist _ _ _)).append
      (Node.keys_optional_sublist _ _ _)
  exact List.Nodup.sublist hsublist (by decide)

theorem fits_ownEntries (s : Snippet) (room : Nat) : Node.FitsEntries room s.ownEntries :=
  ((Node.fitsEntries_member (Node.fits_string _)).append
    (Node.fitsEntries_optional fun ns _ => Node.fits_string ns)).append
    (Node.fitsEntries_optional fun location _ => Node.fits_string location)

/-- A snippet is written as deep as its options, in an object. -/
theorem fits_node {s : Snippet} (h : Json.FaithfulEntries s.options.entries) :
    s.node.Fits (Json.depthOfEntries s.options.entries + 1) := by
  have hoptions : Node.FitsEntries (Json.depthOfEntries s.options.entries)
      (Json.nodesOfEntries s.options.entries) := by
    rw [Json.nodesOfEntries_eq_map]
    refine List.forall_mem_map.2 fun e he => ?_
    have hnode : e.2.node.Faithful := Json.faithful_node (Json.faithfulEntries_iff.1 h e he)
    refine ⟨hnode, ?_⟩
    rw [Node.toJson_node hnode]
    exact Json.depthOfEntries_le_iff.1 (Nat.le_refl _) e he
  exact Node.fits_record (Nat.succ_pos _) ((s.fits_ownEntries _).append hoptions)

/-- No key is repeated in what is written, unless an option has the key of a field that is
written. -/
theorem distinct_toJson_iff {s : Snippet} (h : Json.FaithfulEntries s.options.entries) :
    s.node.toJson.Distinct ↔ ∀ k ∈ Json.keys s.ownEntries, k ∉ Json.keys s.options.entries := by
  have hwritten : s.node.toJson =
      .object (Node.entriesToJson s.ownEntries ++ s.options.entries) := by
    have hoptions := Node.entriesToJson_nodesOfEntries (Json.faithful_nodesOfEntries h)
    rw [node, ← ownEntries, Node.toJson, Node.entriesToJson_append, hoptions]
  have hown : ∀ e ∈ Node.entriesToJson s.ownEntries, e.2.Distinct := by
    rw [Node.entriesToJson_eq_map]
    refine List.forall_mem_map.2 fun e he => Json.distinct_of_leaf ?_
    exact Nat.le_zero.1 (s.fits_ownEntries 0 e he).2
  have hoptions : ∀ e ∈ s.options.entries, e.2.Distinct :=
    Json.distinctEntries_iff.1 s.options.canonical.distinct.2
  have hnodup : (Json.keys s.options.entries).Nodup := s.options.canonical.distinct.1
  rw [hwritten, Json.Distinct, Json.distinctEntries_iff, List.forall_mem_append,
    and_iff_left ⟨hown, hoptions⟩, Json.keys_append, Node.keys_entriesToJson, List.nodup_append']
  exact ⟨fun hkeys => hkeys.2.2, fun hkeys => ⟨s.nodup_keys_ownEntries, hnodup, hkeys⟩⟩

end Snippet

namespace Build

variable {args : List Argument} {s : Snippet}

/-! ### Steps -/

/-- An entry that is an option is put in, and any other leaves the options as they are. -/
theorem addOption_options (s : Snippet) (key : String) (v : Value) :
    (SnippetParts.addOption s key v).options.entries =
      if Snippet.isOption (key, v.tree) then Json.insertEntry key v.tree s.options.entries
      else s.options.entries := by
  have hnames : Snippet.ownFields.names = ["apply", "ns", "at"] := rfl
  unfold SnippetParts.addOption
  split
  · next htext => simp [Snippet.isOption, htext, hnames]
  · next htext => simp [Snippet.isOption, htext, hnames]
  · next htext => simp [Snippet.isOption, htext, hnames]
  -- The three arms above are the texts that set a field; everything else comes here.
  · rename_i key _ _ happly hns hat
    have hoption : Snippet.isOption (key, v.tree) := by
      cases htext : v.tree.string? with
      | none => simp [Snippet.isOption, htext]
      | some text =>
        have hapart : key ≠ "apply" ∧ key ≠ "ns" ∧ key ≠ "at" :=
          ⟨happly text htext, hns text htext, hat text htext⟩
        simp [Snippet.isOption, hnames, hapart]
    rw [if_pos hoption]
    rfl

/-- Entries put in one after another, each in place of one of the same key. -/
def insertEntries (sorted es : List (String × Json)) : List (String × Json) :=
  es.foldl (fun sorted (k, j) => Json.insertEntry k j sorted) sorted

theorem addOptions_options (m : ValueMap) (s : Snippet) :
    (m.toList.foldl (fun s (key, v) => SnippetParts.addOption s key v) s).options.entries =
      insertEntries s.options.entries (m.entries.filter Snippet.isOption) := by
  have hentries : m.entries = m.toList.map fun e => (e.1, e.2.tree) := by
    rw [ValueMap.toList, List.map_map]
    exact (List.attach_map_subtype_val m.entries).symm
  rw [hentries]
  -- The induction is on any entries: those of a map are sorted, and their tails are no maps.
  generalize m.toList = es
  induction es generalizing s with
  | nil => rfl
  | cons e rest ih =>
    rw [List.foldl_cons, ih, addOption_options, List.map_cons]
    by_cases hoption : Snippet.isOption (e.1, e.2.tree)
    · rw [if_pos hoption, List.filter_cons_of_pos hoption]
      rfl
    · rw [if_neg hoption, List.filter_cons_of_neg hoption]

/-- A name leaves the options as they are. -/
theorem setName_options {name : String} {s' : Snippet}
    (h : SnippetParts.setName s name = .ok s') : s'.options = s.options := by
  unfold SnippetParts.setName at h
  split at h
  · cases h
    rfl
  · obtain ⟨f, -, h⟩ := bind_eq_ok h
    cases h
    rfl

/-- An argument adds the options that it gives. -/
theorem add_options {a : Argument} {p p' : SnippetParts} (h : p.add a = .ok p') :
    p'.snippet.options.entries =
      insertEntries p.snippet.options.entries (Snippet.optionsOf a) := by
  unfold SnippetParts.add at h
  split at h
  · split at h
    · cases h
    · obtain ⟨s', hname, h⟩ := bind_eq_ok h
      cases h
      rw [setName_options hname]
      rfl
  · next v =>
    split at h
    · next m hobject =>
      cases h
      rw [addOptions_options, Snippet.optionsOf, hobject]
    · cases h
  · cases h

/-- All arguments together add the options that they give, in order. -/
theorem foldlM_add_options {p p' : SnippetParts} (h : args.foldlM SnippetParts.add p = .ok p') :
    p'.snippet.options.entries =
      insertEntries p.snippet.options.entries (args.flatMap Snippet.optionsOf) := by
  induction args generalizing p with
  | nil =>
    cases h
    rfl
  | cons a rest ih =>
    rw [List.foldlM_cons] at h
    obtain ⟨q, hq, hrest⟩ := bind_eq_ok h
    rw [ih hrest, add_options hq, List.flatMap_cons]
    exact (List.foldl_append ..).symm

/-- The options of a snippet are the options that its arguments give, the last of each key. -/
theorem snippet_options (h : snippet args = .ok s) :
    s.options.entries = Json.sortEntries ((spliceSole args).flatMap Snippet.optionsOf) := by
  obtain ⟨p, hp, h⟩ := bind_eq_ok h
  cases h
  exact foldlM_add_options hp

theorem mem_keys_snippet_options (h : snippet args = .ok s) {k : String} :
    k ∈ Json.keys s.options.entries ↔
      k ∈ Json.keys ((spliceSole args).flatMap Snippet.optionsOf) := by
  rw [snippet_options h, Json.mem_keys_sortEntries]

/-- Every option comes from an object among the arguments. -/
theorem mem_snippet_options (h : snippet args = .ok s) {e : String × Json}
    (he : e ∈ s.options.entries) :
    ∃ v entries, .json v ∈ spliceSole args ∧ v.tree = .object entries ∧ e ∈ entries := by
  rw [snippet_options h] at he
  obtain ⟨a, ha, he⟩ := List.mem_flatMap.1 (Json.mem_sortEntries he)
  obtain ⟨v, entries, rfl, htree, he⟩ := Snippet.mem_optionsOf he
  exact ⟨v, entries, ha, htree, he⟩

theorem faithful_snippet_options (h : snippet args = .ok s)
    (hfaithful : ∀ v, .json v ∈ spliceSole args → v.tree.Faithful) :
    Json.FaithfulEntries s.options.entries := by
  refine Json.faithfulEntries_iff.2 fun e he => ?_
  obtain ⟨v, entries, hv, htree, he⟩ := mem_snippet_options h he
  have hobject := hfaithful v hv
  rw [htree] at hobject
  exact Json.faithfulEntries_iff.1 hobject e he

/-- The options of a snippet are nested less deeply than the objects that it is given. -/
theorem depth_snippet_options {room : Nat} (h : snippet args = .ok s)
    (hdepth : ∀ v, .json v ∈ spliceSole args → v.tree.depth ≤ room + 1) :
    Json.depthOfEntries s.options.entries ≤ room := by
  refine Json.depthOfEntries_le_iff.2 fun e he => ?_
  obtain ⟨v, entries, hv, htree, he⟩ := mem_snippet_options h he
  have hobject := hdepth v hv
  rw [htree, Json.depth, Nat.add_le_add_iff_right] at hobject
  exact Json.depthOfEntries_le_iff.1 hobject e he

/-- A snippet is written as an object.  A key is repeated in it exactly if an option is given under
the key of a field that is written.  The snippet, if the floating-point numbers in it are read back,
is read back from its text exactly if no option is given under the key of any field and the text is
not nested too deeply; it is not, if no object among the arguments is. -/
theorem snippet_restored {ρ : FloatReader} (h : snippet args = .ok s)
    (hfaithful : ∀ v, .json v ∈ spliceSole args → v.tree.Faithful)
    (hfloats : ρ.RestoresAll s.node.toJson.floats) :
    let given := (spliceSole args).flatMap Snippet.optionsOf
    (∃ entries, s.node.toJson = .object entries) ∧
    (s.node.toJson.Distinct ↔ ∀ k ∈ Json.keys s.ownEntries, k ∉ Json.keys given) ∧
    (Snippet.decoder.readText ρ s.node.toJson.compact = .ok s ↔
      (∀ k ∈ Snippet.ownFields.names, k ∉ Json.keys given) ∧
        s.node.toJson.depth ≤ Json.Parser.nestingLimit) ∧
    ((∀ v, .json v ∈ spliceSole args → v.tree.depth ≤ Json.Parser.nestingLimit) →
      s.node.toJson.depth ≤ Json.Parser.nestingLimit) := by
  intro given
  have hkeys : ∀ k, k ∈ Json.keys s.options.entries ↔ k ∈ Json.keys given :=
    fun k => mem_keys_snippet_options h
  have hoptions := faithful_snippet_options h hfaithful
  have hfits := Snippet.fits_node hoptions
  have hapart : s.Apart ↔ ∀ k ∈ Snippet.ownFields.names, k ∉ Json.keys given :=
    ⟨fun h k hk hgiven => h k ((hkeys k).2 hgiven) hk,
      fun h k hk hname => h k hname ((hkeys k).1 hk)⟩
  refine ⟨⟨_, rfl⟩, ?_, ⟨fun hread => ?_, ?_⟩, fun hdepth => ?_⟩
  · rw [Snippet.distinct_toJson_iff hoptions]
    exact forall₂_congr fun k _ => not_congr (hkeys k)
  · obtain ⟨hwritten, hs⟩ := Snippet.yields.of_readText hread
    exact ⟨hapart.1 hs, hwritten.2⟩
  · rintro ⟨hs, hdepth⟩
    exact ((Snippet.reads (hapart.2 hs)).readText hfits.1 hfloats).1 hdepth
  · exact Nat.le_trans hfits.2 (Nat.succ_le_succ (depth_snippet_options h hdepth))

/-- The file of a library, and an object of which one entry sets a field. -/
theorem snippet_restored_library :
    let half : Binary64 := .finite false ⟨1022 * 2 ^ 52, by decide⟩
    let options :=
      Value.ofJson (.object [("apply", .string "shorten"), ("share", .number (.float half))])
    let args := [.text "short.xqy", .json options]
    let s : Snippet :=
      { apply := "shorten"
        ns := some "http://marklogic.com/snippet/custom/short"
        location := some "/ext/marklogic/snippet/custom/short.xqy"
        options := ValueMap.ofJsonEntries [("share", .number (.float half))] }
    snippet args = .ok s ∧ s.node.toJson.Distinct ∧
      FloatReader.quick.RestoresAll s.node.toJson.floats ∧
      Snippet.decoder.readText .quick s.node.toJson.compact = .ok s := by
  intro half options args s
  have hs : snippet args = .ok s := rfl
  have hjson : ∀ v, .json v ∈ spliceSole args → v = options := by
    intro v hv
    simpa [spliceSole, args] using hv
  have hfaithful : ∀ v, .json v ∈ spliceSole args → v.tree.Faithful := by
    intro v hv
    rw [hjson v hv]
    exact ⟨trivial, Number.faithful_float rfl, trivial⟩
  have hhalf : s.node.toJson.floats = [half] := rfl
  have hfloats : FloatReader.quick.RestoresAll s.node.toJson.floats :=
    hhalf ▸ FloatReader.restoresAll_quick_half
  obtain ⟨-, hdistinct, hread, hdepth⟩ := snippet_restored hs hfaithful hfloats
  have hgiven : Json.keys ((spliceSole args).flatMap Snippet.optionsOf) = ["share"] := rfl
  have hown : Json.keys s.ownEntries = Snippet.ownFields.names := rfl
  rw [hown, hgiven] at hdistinct
  rw [hgiven] at hread
  have hapart : ∀ k ∈ Snippet.ownFields.names, k ∉ ["share"] := by decide
  refine ⟨hs, hdistinct.2 hapart, hfloats, hread.2 ⟨hapart, hdepth fun v hv => ?_⟩⟩
  rw [hjson v hv]
  decide

/-- An option under the key of a field is written beside the field. -/
theorem not_distinct_snippet_apply :
    let options := Value.ofJson (.object [("apply", .number (.signed 1))])
    let s : Snippet :=
      { apply := "snippet", options := ValueMap.ofJsonEntries [("apply", .number (.signed 1))] }
    snippet [.json options] = .ok s ∧ options.tree.Faithful ∧
      s.node.toJson = .object [("apply", .string "snippet"), ("apply", .number (.signed 1))] ∧
      ¬s.node.toJson.Distinct ∧ Snippet.decoder.readText .quick s.node.toJson.compact ≠ .ok s := by
  intro options s
  have hoption : Json.keys s.options.entries = ["apply"] := rfl
  refine ⟨rfl, ⟨Number.faithful_signed 1, trivial⟩, rfl, fun hdistinct => ?_, fun hread => ?_⟩
  · have hkeys : ["apply", "apply"].Nodup := hdistinct.1
    exact absurd hkeys (by decide)
  · obtain ⟨-, hapart⟩ := Snippet.yields.of_readText hread
    exact hapart "apply" (hoption ▸ List.mem_singleton_self _) (by decide)

end Build

end SearchRequest
