import SearchRequest.CommandLine.Run
import SearchRequest.Proofs.Document.Requests
import SearchRequest.Yaml.Reader

/-!
# Loading what was written

* `Value.readText_compact` — the text of a tree is loaded as the tree with its keys sorted.
* `Request.ofSource_text` — the text of a request that was read is loaded as the same request,
  though its keys are sorted on the way, and is printed as it was.
-/

namespace SearchRequest

/-- The text of a tree is kept as a value that is the tree with its keys sorted. -/
theorem Value.readText_compact {ρ : FloatReader} {j : Json} (h : j.Faithful)
    (hfloats : ρ.RestoresAll j.floats) (hdepth : j.depth ≤ Json.Parser.nestingLimit) :
    Decoder.value.readText ρ j.compact = .ok (Value.ofJson j) := by
  rw [Decoder.readText_compact _ h hfloats, Decoder.value, (Json.settled_draftWithin _ j).1 hdepth]
  rfl

theorem ValueMap.ofSource_compact {ρ : SourceReader} {entries : List (String × Json)}
    (h : (Json.object entries).Faithful)
    (hfloats : ρ.floats.RestoresAll (Json.object entries).floats)
    (hdepth : (Json.object entries).depth ≤ Json.Parser.nestingLimit) :
    ValueMap.ofSource ρ (Json.object entries).compact = .ok (ValueMap.ofJsonEntries entries) := by
  rw [ofSource, Value.ofSource, Value.readText_compact h hfloats hdepth]
  rfl

namespace Request

variable {ρ : SourceReader} {r : Request}

/-- The request is read from the object with sorted keys as from its own text. -/
theorem ofSorted_of_fits (h : r.Restorable) (hfits : r.node.Fits Json.Parser.nestingLimit)
    (hfloats : ρ.floats.RestoresAll r.json.floats) {m : ValueMap}
    (hm : m.toValue.tree = r.json.canonical) : ofSorted ρ m = .ok r.copy := by
  have hdepth : r.json.canonical.depth ≤ Json.Parser.nestingLimit :=
    Nat.le_trans (Json.depth_canonical_le r.json) hfits.2
  have hsorted : ρ.floats.RestoresAll r.json.canonical.floats := fun x hx =>
    hfloats x (Json.floats_canonical_subset r.json hx)
  have hread := ofText_of_writes h hfits.1 (Node.writes_canonical r.node) hfits.1.toJson.canonical
    hsorted
  rw [ofSorted, hm]
  exact congrArg _ (hread.1 hdepth)

/-- The text of a request that was read from a text is loaded as the same request, if the
floating-point numbers in it are read back.  What is read on the way is the object with its keys
sorted, and what is printed is the text with its clauses in their order. -/
theorem ofSource_text {t : String} (h : read ρ.floats t = .ok r)
    (hfloats : ρ.floats.RestoresAll r.json.floats) :
    ofSource ρ r.text = .ok r ∧ read ρ.floats r.text = .ok r ∧
      (∃ m, ValueMap.ofSource ρ r.text = .ok m ∧ m.toValue.tree = r.json.canonical) ∧
      Invocation.ofWords ["--compact"] = .ok { compact := true } ∧
      ∀ input options, Invocation.run ρ { input, compact := true } (some r.text) options =
        .ok (r.text ++ "\n") := by
  obtain ⟨hrestorable, hfits, hcopy⟩ := restorable_of_ofText (ofText_of_read h)
  have hobject : ∃ m, ValueMap.ofSource ρ r.text = .ok m ∧ m.toValue.tree = r.json.canonical :=
    ⟨_, ValueMap.ofSource_compact hfits.1.toJson hfloats hfits.2, rfl⟩
  have hsource : ofSource ρ r.text = .ok r := by
    obtain ⟨m, hm, htree⟩ := hobject
    rw [ofSource, hm]
    exact (ofSorted_of_fits hrestorable hfits hfloats htree).trans (congrArg _ hcopy)
  refine ⟨hsource, read_text hrestorable hfits hfloats hcopy, hobject, rfl, fun input options => ?_⟩
  rw [Invocation.run]
  simp only [hsource, bind, Except.bind]
  rfl

theorem ofSource_text_of_reversed :
    let ρ : SourceReader := ⟨.quick, Json.ofYaml?⟩
    let half : Number := .float (.finite false ⟨1022 * 2 ^ 52, by decide⟩)
    let r : Request :=
      { slice := some { pageLength := some 5 }, options := some { weight := some half } }
    let j : Json := .object
      [("withOptionsClause", .object [("weight", .number half)]),
        ("sliceClause", .object [("page-length", .number (.signed 5))])]
    read ρ.floats j.compact = .ok r ∧ ρ.floats.RestoresAll r.json.floats ∧
      ofSource ρ r.text = .ok r := by
  intro ρ half r j
  have hhalf : half.Faithful := Number.faithful_float rfl
  have hfive : Number.ofUInt64 5 = .signed 5 := by decide
  have hpage : (Number.ofUInt64 5).Faithful := hfive ▸ Number.faithful_signed 5
  have hjfloats : ρ.floats.RestoresAll j.floats := FloatReader.restoresAll_quick_half
  have hfloats : ρ.floats.RestoresAll r.json.floats := FloatReader.restoresAll_quick_half
  have hrestorable : r.Restorable := ⟨nofun, by rintro _ ⟨⟩ _ ⟨⟩⟩
  have hfaithful : r.node.Faithful := ⟨⟨hpage, trivial⟩, ⟨hhalf, trivial⟩, trivial⟩
  have hjfaithful : j.Faithful :=
    ⟨⟨hhalf, trivial⟩, ⟨Number.faithful_signed 5, trivial⟩, trivial⟩
  have hdistinct : j.Distinct :=
    ⟨by decide, ⟨by decide, trivial, trivial⟩, ⟨by decide, trivial, trivial⟩, trivial⟩
  have hwrites : r.node.Writes j := ⟨hdistinct, by cbv⟩
  have hdepth : j.depth ≤ Json.Parser.nestingLimit := by decide
  have hcopy : r.copy = r := rfl
  have hread : read ρ.floats j.compact = .ok r := by
    rw [read, (ofText_of_writes hrestorable hfaithful hwrites hjfaithful hjfloats).1 hdepth, hcopy]
    rfl
  exact ⟨hread, hfloats, (ofSource_text hread hfloats).1⟩

theorem exists_of_text {t s : String} (h : ((read ρ.floats t).map text).toOption = some s) :
    ∃ r, read ρ.floats t = .ok r ∧ r.text = s := by
  cases hread : read ρ.floats t with
  | error e =>
    rw [hread] at h
    cases h
  | ok r =>
    rw [hread] at h
    exact ⟨r, rfl, Option.some.inj h⟩

/-- The quick reader takes the text of a weight for the number next to it, so the text of a request
with that weight is read as another request and is not printed as it was. -/
theorem not_printed_weight :
    let ρ : SourceReader := ⟨.quick, Json.ofYaml?⟩
    let weighing (w : String) := "\x7b\"withOptionsClause\":\x7b\"weight\":" ++ w ++ "\x7d\x7d"
    ∃ r, read ρ.floats (weighing "31.2452701914394382") = .ok r ∧
      r.text = weighing "31.245270191439438" ∧ read ρ.floats r.text ≠ .ok r ∧
      Invocation.run ρ { compact := true } (some r.text) none ≠ .ok (r.text ++ "\n") := by
  intro ρ weighing
  obtain ⟨r, hread, htext⟩ : ∃ r, read ρ.floats (weighing "31.2452701914394382") = .ok r ∧
      r.text = weighing "31.245270191439438" := exists_of_text (by decide +kernel)
  obtain ⟨r', hread', htext'⟩ : ∃ r', read ρ.floats (weighing "31.245270191439438") = .ok r' ∧
      r'.text = weighing "31.24527019143944" := exists_of_text (by decide +kernel)
  refine ⟨r, hread, htext, fun h => ?_, fun h => ?_⟩
  · obtain rfl : r = r' := Except.ok.inj (h.symm.trans (htext ▸ hread'))
    exact absurd (htext.symm.trans htext') (by decide +kernel)
  · have hprinted : (Invocation.run ρ { compact := true }
        (some (weighing "31.245270191439438")) none).toOption =
        some (weighing "31.24527019143944" ++ "\n") := by decide +kernel
    rw [← htext, h, htext] at hprinted
    exact absurd (Option.some.inj hprinted) (by decide +kernel)

end Request

end SearchRequest
