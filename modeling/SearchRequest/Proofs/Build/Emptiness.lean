import SearchRequest.Proofs.Build.Identification
import SearchRequest.Proofs.Document.Clauses

/-!
# Lists that should have an item

Some functions make a list of what they are given, and refuse to be given nothing.  A list or a
configuration in place of the items may hold none all the same.

* `Options.oneOrMany_eq_nil_iff` — the part that is read as no strings.
* `Value.paths?`, `Build.extractOfConfig_paths` — the part of a configuration that gives the paths
  of an extract.
* `Extract.config`, `Build.extractOfConfig_config` — an extract as a configuration, and what that is
  read as.
* `Build.extract_paths_eq_nil_iff`, `Build.periodRange_eq_ok` — where nothing is accepted.
* `Build.polygon_eq_ok`, `Build.anchor_eq_ok` — where it is not.
* `Build.items_of_accepted` — the four functions together.
-/

namespace SearchRequest

open Argument

/-! ## Strings, one or more -/

theorem Decoder.strings_eq_nil_iff {items : List Json} {ss : List String}
    (h : Decoder.strings .held (Json.array items).draft = .ok ss) : ss = [] ↔ items = [] := by
  cases items with
  | nil =>
    cases h
    exact iff_of_true rfl rfl
  | cons j rest =>
    obtain ⟨s, hs, h⟩ := bind_eq_ok h
    obtain ⟨ss, hss, h⟩ := bind_eq_ok h
    cases h
    exact iff_of_false (List.cons_ne_nil _ _) (List.cons_ne_nil _ _)

/-- Nothing but an empty array is read as no strings. -/
theorem Options.oneOrMany_eq_nil_iff {o : Origin} {room : Nat} {j : Json} {ss : List String}
    (h : oneOrMany o (j.draftWithin room) = .ok ss) : ss = [] ↔ j = .array [] := by
  obtain ⟨i, hi, hshape⟩ := bind_eq_ok h
  obtain ⟨-, rfl⟩ := (Json.settled_draftWithin room j).eq_ok_iff.1 hi
  cases i with
  | string s =>
    cases hshape
    simp
  | array items =>
    have hstring : Decoder.string .held (Json.array items).draft = .error .mismatch := rfl
    simp only [List.findSome?_cons, hstring] at hshape
    cases hstrings : Decoder.strings .held (Json.array items).draft with
    | error e =>
      rw [hstrings] at hshape
      cases hshape
    | ok ss' =>
      rw [hstrings] at hshape
      cases hshape
      rw [Decoder.strings_eq_nil_iff hstrings, Json.array.injEq]
  | _ => cases hshape

/-! ## The paths of a configuration -/

/-- What an object has under the key of paths, or an array in their place. -/
def Value.paths? (v : Value) : Option Json :=
  match v.tree with
  | .object entries => Json.lookup "paths" entries
  | .array items => items.head?
  | _ => none

theorem Fields.required_eq_ok {α : Type} {name : String} {decoder : Decoder α} {o : Origin}
    {place : Nat} {cells : Cells} {a : α}
    (h : (Fields.required name decoder).take o place cells = .ok a) :
    ∃ i d, cells.cell name place = some (i, d) ∧ decoder o d = .ok a := by
  simp only [Fields.required, Fields.field] at h
  split at h
  · rename_i i d hcell
    exact ⟨i, d, hcell, mapError_eq_ok h⟩
  · split at h
    · cases h
    · rename_i habsent
      cases habsent
    · cases h

namespace Build

theorem extractFields_eq_ok {cells : Cells} {e : Extract}
    (h : extractFields.take .held 0 cells = .ok e) :
    ∃ i d, cells.cell "paths" 0 = some (i, d) ∧ Options.oneOrMany .held d = .ok e.paths := by
  obtain ⟨f, selected, hf, -, rfl⟩ := Found.both_eq_ok h
  obtain ⟨g, namespaces, hg, -, rfl⟩ := Found.both_eq_ok hf
  obtain ⟨paths, hpaths, rfl⟩ := map_eq_ok hg
  exact Fields.required_eq_ok hpaths

theorem record_of_extractOfConfig {v : Value} {e : Extract} (h : extractOfConfig v = .ok e) :
    extractFields.record .held v.tree.draft = .ok e := by
  simp only [extractOfConfig] at h
  split_ifs at h
  exact mapError_eq_ok h

/-- The paths of an extract are read from the part of its configuration that gives them. -/
theorem extractOfConfig_paths {v : Value} {e : Extract} (h : extractOfConfig v = .ok e) :
    ∃ j room, v.paths? = some j ∧
      Options.oneOrMany .held (j.draftWithin room) = .ok e.paths := by
  have hread := record_of_extractOfConfig h
  obtain ⟨tree, hcanonical⟩ := v
  cases tree with
  | object entries =>
    rw [Json.draft_eq_draftWithin] at hread
    have htake := Found.orEarlier_eq_ok (Found.orEarlier_eq_ok (mapError_eq_ok hread))
    obtain ⟨i, d, hcell, hpaths⟩ := extractFields_eq_ok htake
    obtain ⟨p, hp⟩ := Cells.entryNamed_draftEntriesWithin "paths"
      (Json.depthOfEntries entries) 0 entries
    obtain ⟨j, hj, hd⟩ := Option.map_eq_some_iff.1 (hp.symm.trans hcell)
    cases hd
    exact ⟨j, _, hj, hpaths⟩
  | array items =>
    obtain ⟨e', htake, hrest⟩ := bind_eq_ok hread
    have he : e' = e := by
      split at hrest
      · cases hrest
      · exact Except.ok.inj hrest
    subst he
    obtain ⟨i, d, hcell, hpaths⟩ := extractFields_eq_ok (mapError_eq_ok htake)
    cases items with
    | nil => cases hcell
    | cons j rest =>
      cases hcell
      rw [Json.draft_eq_draftWithin] at hpaths
      exact ⟨j, _, rfl, hpaths⟩
  | _ => cases hread

/-- An extract has no paths exactly if its configuration gives an empty array of them. -/
theorem extract_paths_eq_nil_iff {args : List Argument} {e : Extract} (h : extract args = .ok e) :
    e.paths = [] ↔ ∃ v, spliceSole args = [.json v] ∧ v.paths? = some (.array []) := by
  unfold extract at h
  split at h
  · cases h
  · rename_i v hargs
    obtain ⟨j, room, hj, hpaths⟩ := extractOfConfig_paths h
    rw [Options.oneOrMany_eq_nil_iff hpaths]
    constructor
    · rintro rfl
      exact ⟨v, hargs, hj⟩
    · rintro ⟨w, hw, hnone⟩
      obtain rfl : v = w := by simpa using hargs.symm.trans hw
      exact Option.some.inj (hj.symm.trans hnone)
  · rename_i hne hconfig
    obtain ⟨paths, hpaths, he⟩ := bind_eq_ok h
    cases he
    exact iff_of_false (mt (eq_nil_iff_of_mapM hpaths).1 hne) fun ⟨v, hv, _⟩ => hconfig v hv

end Build

/-! ## An extract as a configuration -/

namespace Extract

/-- The entries of an extract's configuration. -/
def settings (e : Extract) : List (String × Node) :=
  Node.member "paths" (Node.strings e.paths) ++
    Node.optional "namespaces" (fun m : StringMap => Node.stringMap m.entries) e.namespaces ++
    Node.optional "selected" (fun s : ExtractSelection => .string s.name) e.selected

/-- An extract as a configuration. -/
def config (e : Extract) : Value := .ofJson (Node.record e.settings).toJson

theorem faithful_settings (e : Extract) : Node.FaithfulEntries e.settings := by
  have hpaths : (Node.strings e.paths).Faithful :=
    Node.faithfulItems_iff.2 (List.forall_mem_map.2 fun _ _ => trivial)
  have hnamespaces : ∀ m : StringMap, (Node.stringMap m.entries).Faithful := fun m =>
    Node.faithfulEntries_iff.2 (List.forall_mem_map.2 fun _ _ => trivial)
  refine Node.faithfulEntries_iff.2 ?_
  simp only [settings, List.forall_mem_append]
  exact ⟨⟨List.forall_mem_singleton.2 hpaths, Node.faithful_optional fun m _ => hnamespaces m⟩,
    Node.faithful_optional fun _ _ => trivial⟩

end Extract

namespace Build

theorem extractFields_reads (e : Extract) : extractFields.Reads e.settings e := by
  obtain ⟨paths, namespaces, selected⟩ := e
  exact .seq (.seq (.map (.required (Options.oneOrMany_reads paths)) Extract.mk)
    (.optional StringMap.reads StringMap.refusesNull)) (.optional ExtractSelection.reads .oneOf)

/-- An extract is read from the configuration that it is written as. -/
theorem extractOfConfig_config (e : Extract) : extractOfConfig e.config = .ok e := by
  have hreads := extractFields_reads e
  have htakes := hreads (by decide) e.faithful_settings
  have hrecord : extractFields.record.Reads (.record e.settings) e := .record (by decide) hreads
  have hread : extractFields.record .held e.config.tree.draft = .ok e :=
    hrecord.draft e.faithful_settings .held (Node.writes_canonical _)
  have hobject : e.config.object? =
      some (.ofJsonEntries (Node.entriesToJson e.settings)) := rfl
  have hknown : (ValueMap.ofJsonEntries (Node.entriesToJson e.settings)).entries.all
      (fun entry => extractFields.names.contains entry.1) = true := by
    refine List.all_eq_true.2 fun entry hentry => List.contains_iff_mem.2 (htakes.names _ ?_)
    have hmem := List.mem_map_of_mem (f := Prod.fst) (Json.mem_sortEntries hentry)
    rwa [← Json.keys, Json.keys_canonicalEntries, Node.keys_entriesToJson] at hmem
  simp only [extractOfConfig, hobject, hknown, if_true, Decoder.readJson, hread]
  rfl

/-! ## Axes and periods -/

theorem axes_eq_nil_iff {a : Argument} {ss : List String} (h : axes a = .ok ss) :
    ss = [] ↔ a = .list [] := by
  cases a with
  | list items => rw [eq_nil_iff_of_mapM h, Argument.list.injEq]
  | text s =>
    cases h
    simp
  | _ => cases h

theorem periods_eq_nil_iff {a : Argument} {ps : List Period} (h : periods a = .ok ps) :
    ps = [] ↔ a = .list [] := by
  cases a with
  | list items => rw [eq_nil_iff_of_mapM h, Argument.list.injEq]
  | period p =>
    cases h
    simp
  | _ => cases h

theorem periodRange_eq_ok {args : List Argument} {q : Query} (h : periodRange args = .ok q) :
    ∃ c : PeriodComparison, q = .criteria (.periodComparison c) ∧
      (c.axis = [] ↔ (spliceSole args)[0]? = some (.list [])) ∧
      (c.period = [] ↔ (spliceSole args)[2]? = some (.list [])) := by
  unfold periodRange at h
  split at h
  · rename_i axis operator period rest hargs
    obtain ⟨axis', haxis, h⟩ := bind_eq_ok h
    obtain ⟨operator', -, h⟩ := bind_eq_ok h
    obtain ⟨period', hperiod, h⟩ := bind_eq_ok h
    obtain ⟨options, -, h⟩ := bind_eq_ok h
    cases h
    rw [hargs]
    refine ⟨_, rfl, ?_, ?_⟩
    · simpa using axes_eq_nil_iff haxis
    · simpa using periods_eq_nil_iff hperiod
  · cases h

/-! ## Vertices and values -/

theorem polygon_eq_ok {args : List Argument} {r : Region} (h : polygon args = .ok r) :
    ∃ ps, r = .polygon ⟨ps⟩ ∧ ps ≠ [] := by
  obtain ⟨ps, -, h⟩ := bind_eq_ok h
  split at h
  · cases h
  · rename_i hne
    cases h
    exact ⟨ps, rfl, by simpa using hne⟩

theorem anchor_eq_ok {args : List Argument} {a : Anchor} (h : anchor args = .ok a) :
    1 ≤ a.value.length ∧ a.value.length ≤ 3 := by
  unfold anchor at h
  split at h
  · rename_i name v rest hargs
    split at h
    · rename_i hrest
      obtain ⟨name', -, h⟩ := bind_eq_ok h
      obtain ⟨values, hvalues, h⟩ := bind_eq_ok h
      cases h
      have hlength := length_of_mapM hvalues
      rw [List.length_cons] at hlength
      simp only
      omega
    · cases h
  · cases h

/-! ## Paths as texts -/

theorem extract_of_texts {args : List Argument} {paths : List String}
    (hargs : spliceSole args = paths.map .text) (hne : paths ≠ []) :
    extract args = .ok { paths := paths } := by
  have hread : (spliceSole args).mapM (asText "extract") = .ok paths := by
    rw [hargs]
    exact mapM_of_forall₂ (List.forall₂_map_left_iff.2 (List.forall₂_same.2 fun _ _ => rfl))
  unfold extract
  split
  · rename_i hnil
    rw [hargs, List.map_eq_nil_iff] at hnil
    exact absurd hnil hne
  · rename_i v hconfig
    have hmem : Argument.json v ∈ paths.map Argument.text := by
      rw [← hargs, hconfig]
      exact List.mem_singleton_self _
    obtain ⟨s, -, hs⟩ := List.mem_map.1 hmem
    cases hs
  · rw [hread]
    rfl

/-- Of what is accepted an extract has paths unless its configuration gives an empty array of them,
and a comparison with periods has axes and periods unless an empty list stands in the place of
these.  A polygon always has vertices, and a point of reference values.  Texts and a configuration
make an extract with the same paths, but without any path only the configuration does. -/
theorem items_of_accepted (args : List Argument) :
    (∀ e, extract args = .ok e →
      (e.paths = [] ↔ ∃ v, spliceSole args = [.json v] ∧ v.paths? = some (.array []))) ∧
    (∀ q, periodRange args = .ok q →
      ∃ c : PeriodComparison, q = .criteria (.periodComparison c) ∧
        (c.axis = [] ↔ (spliceSole args)[0]? = some (.list [])) ∧
        (c.period = [] ↔ (spliceSole args)[2]? = some (.list []))) ∧
    (∀ r, polygon args = .ok r → ∃ vertices, r = .polygon ⟨vertices⟩ ∧ vertices ≠ []) ∧
    (∀ a, anchor args = .ok a → 1 ≤ a.value.length ∧ a.value.length ≤ 3) ∧
    ∀ paths : List String, spliceSole args = paths.map .text →
      (paths = [] → extract args = .error (.arity "extract" "missing paths")) ∧
      (paths ≠ [] → extract args = .ok { paths := paths }) ∧
      ∀ e : Extract, e.paths = paths → extract [.json e.config] = .ok e := by
  refine ⟨fun e => extract_paths_eq_nil_iff, fun q => periodRange_eq_ok, fun r => polygon_eq_ok,
    fun a => anchor_eq_ok,
    fun paths hargs => ⟨?_, extract_of_texts hargs, fun e _ => extractOfConfig_config e⟩⟩
  rintro rfl
  simp [extract, hargs]

/-- Two paths, a comparison of an axis with a period, a polygon with one vertex, and a point of
reference. -/
theorem items_of_accepted_some :
    let paths : List String := ["/title", "/author"]
    let texts : List Argument := paths.map .text
    let period : Period := ⟨"2020-01-01T00:00:00.000Z", none⟩
    let comparison : List Argument := [.text "valid", .text "aln_equals", .period period]
    let q : Query := .criteria (.periodComparison ⟨["valid"], "aln_equals", [period], none⟩)
    let vertex : LatLon := ⟨.ofInt 1, .ofInt 2⟩
    let now : List Argument := [.text "now", .text "-P1D"]
    let a : Anchor := ⟨"now", [.text "-P1D"]⟩
    (extract texts = .ok { paths := paths } ∧ periodRange comparison = .ok q ∧
        polygon [.latLon vertex] = .ok (.polygon ⟨[vertex]⟩) ∧
        anchor now = .ok a ∧ spliceSole [.list texts] = texts) ∧
      (¬∃ v, texts = [.json v] ∧ v.paths? = some (.array [])) ∧
      (∃ c : PeriodComparison, q = .criteria (.periodComparison c) ∧ c.axis ≠ []) ∧
      (∃ vertices, Region.polygon ⟨[vertex]⟩ = .polygon ⟨vertices⟩ ∧ vertices ≠ []) ∧
      (1 ≤ a.value.length ∧ a.value.length ≤ 3) ∧
      extract [.list texts] = .ok { paths := paths } ∧
      extract [.json (Extract.config { paths := paths, selected := some .exclude })] =
        .ok { paths := paths, selected := some .exclude } := by
  intro paths texts period comparison q vertex now a
  have hextract : extract texts = .ok { paths := paths } := rfl
  have hcomparison : periodRange comparison = .ok q := rfl
  have hpolygon : polygon [.latLon vertex] = .ok (.polygon ⟨[vertex]⟩) := rfl
  have hanchor : anchor now = .ok a := rfl
  obtain ⟨hpaths, -⟩ := items_of_accepted texts
  obtain ⟨-, hperiods, -⟩ := items_of_accepted comparison
  obtain ⟨-, -, hvertices, -⟩ := items_of_accepted [.latLon vertex]
  obtain ⟨-, -, -, hvalues, -⟩ := items_of_accepted now
  obtain ⟨-, -, -, -, hspellings⟩ := items_of_accepted [.list texts]
  obtain ⟨-, htexts, hconfig⟩ := hspellings paths rfl
  obtain ⟨c, hc, haxis, -⟩ := hperiods q hcomparison
  refine ⟨⟨hextract, hcomparison, hpolygon, hanchor, rfl⟩, ?_, ⟨c, hc, ?_⟩,
    hvertices _ hpolygon, hvalues _ hanchor, htexts (by decide), hconfig _ rfl⟩
  · exact mt (hpaths _ hextract).2 (by decide)
  · exact mt haxis.1 (by simp [comparison, spliceSole])

/-- A configuration with an empty array of paths is accepted, and so are empty lists in place of
axes and of periods. -/
theorem accepted_without_items :
    let config : Value := .ofJson (.object [("paths", .array [])])
    extract [.json config] = .ok { paths := [] } ∧
      extract [] = .error (.arity "extract" "missing paths") ∧
      periodRange [.list [], .text "aln_equals", .list []] =
        .ok (.criteria (.periodComparison ⟨[], "aln_equals", [], none⟩)) :=
  ⟨rfl, rfl, rfl⟩

end Build

end SearchRequest
