import SearchRequest.Proofs.Document.Bodies

/-!
# Queries in documents

* `Query.reads_within` — a query is read as it is written by the shapes for any bound that its
  JSON does not exceed; `Query.refuses_before`: no shape that is tried before its own accepts it.
* `Query.reads` — so it is read by the decoder, which takes its bound from the draft.
* `Query.yields` — a query that is accepted is written no deeper than it was.
-/

namespace SearchRequest

variable {α β : Type}

/-! ## Cases -/

/-- What is written under a case is read by the decoder that is filed under its name. -/
def CaseReads (cases : List (String × Decoder α)) (member : String × Node) (a : α) : Prop :=
  ∃ decoder, Decoder.caseNamed? member.1 cases = some decoder ∧ decoder.Reads member.2 a

theorem CaseReads.named {cases : List (String × Decoder α)} {member : String × Node} {a : α}
    (h : CaseReads cases member a) :
    (Decoder.oneOf [] cases).Reads (.named member.1 member.2) a := by
  obtain ⟨decoder, hcase, hread⟩ := h
  refine .oneOf ?_ hread
  rwa [List.map_nil, List.append_nil]

theorem CaseReads.part {cases : List (String × Decoder α)} {member : String × Node} {a : α}
    (h : CaseReads cases member a) : PartReads (Decoder.caseWithin cases) [member] a := by
  obtain ⟨decoder, hcase, hread⟩ := h
  exact .caseWithin hread hcase

theorem CaseReads.ne_of_none {cases : List (String × Decoder α)} {member : String × Node} {a : α}
    (h : CaseReads cases member a) {k : String} (hk : Decoder.caseNamed? k cases = none) :
    member.1 ≠ k := by
  rintro rfl
  obtain ⟨decoder, hcase, -⟩ := h
  rw [hk] at hcase
  cases hcase

theorem GeoKind.forall_mem_cases {key : GeoKind → String} {wrap : GeoKind → GeoSpec → β}
    {P : Nat → β → Prop}
    (h : ∀ kind room (spec : GeoSpec), spec.node.Fits room → P room (wrap kind spec)) :
    ∀ c ∈ GeoKind.cases key wrap, c.2.Yields P :=
  List.forall_mem_map.2 fun kind _ => GeoSpec.yields.as fun room spec => h kind room spec

/-! ## Constraints -/

namespace ConstraintSpec

theorem case_reads (s : ConstraintSpec) : CaseReads cases s.member s := by
  cases s with
  | range spec => exact ⟨_, rfl, spec.reads.as ConstraintSpec.range⟩
  | text kind spec =>
    cases kind
    · exact ⟨_, rfl, spec.reads.as (ConstraintSpec.text .word)⟩
    · exact ⟨_, rfl, spec.reads.as (ConstraintSpec.text .value)⟩
  | collection start =>
    have hrecord : (Fields.optional "prefix" Decoder.string).record.Reads
        (.record (Node.optional "prefix" .string start)) start :=
      .record (by decide) (.optional .string .string)
    exact ⟨_, rfl, hrecord.as ConstraintSpec.collection⟩
  | container spec => exact ⟨_, rfl, spec.reads.as ConstraintSpec.container⟩
  | geo kind spec => cases kind <;> exact ⟨_, rfl, spec.reads.as (ConstraintSpec.geo _)⟩
  | custom spec => exact ⟨_, rfl, spec.reads.as ConstraintSpec.custom⟩

theorem cases_yield : ∀ c ∈ cases, c.2.Yields fun room s => s.member.2.Fits room := by
  refine List.forall_mem_append.2 ⟨List.forall_mem_append.2 ⟨?_, ?_⟩, ?_⟩
  · simp only [List.forall_mem_cons, List.not_mem_nil, false_imp_iff, implies_true, and_true]
    refine ⟨RangeSpec.yields.as fun _ _ h => h, TextSpec.yields.as fun _ _ h => h,
      TextSpec.yields.as fun _ _ h => h, ?_, ContainerSpec.yields.as fun _ _ h => h⟩
    exact Decoder.Yields.as (Decoder.YieldsFitting.record (.optional .string)) fun _ _ h => h
  · exact GeoKind.forall_mem_cases fun _ _ _ h => h
  · exact List.forall_mem_singleton.2 (CustomConstraint.yields.as fun _ _ h => h)

end ConstraintSpec

namespace Constraint

theorem reads (c : Constraint) : decoder.Reads c.node c := by
  obtain ⟨name, spec⟩ := c
  have hkey : ∀ k ∈ Json.keys [spec.member], k ∉ ["name"] := by
    simpa [Json.keys] using spec.case_reads.ne_of_none rfl
  exact (Decoder.Reads.withOpenPart (by decide) (.required (.string name))
    spec.case_reads.part (.refl _) hkey).map _

theorem yields : decoder.YieldsFitting node := by
  refine Decoder.Yields.map (Decoder.Yields.withOpenPart (.required .string)
    fun js room b hfaithful hdepth _ hb =>
      PartYields.caseWithin ConstraintSpec.cases_yield js room b hfaithful hdepth hb) ?_
  rintro room ⟨name, spec⟩ ⟨hpos, hname, hspec⟩
  exact Node.fits_record hpos (hname.append (Node.fitsEntries_member hspec))

end Constraint

/-! ## Defaults and declarations -/

theorem DefaultSpec.reads (s : DefaultSpec) : decoder.Reads s.node s := by
  cases s with
  | range spec => exact .oneOf rfl (spec.reads.as DefaultSpec.range)
  | text kind spec =>
    cases kind
    · exact .oneOf rfl (spec.reads.as (DefaultSpec.text .word))
    · exact .oneOf rfl (spec.reads.as (DefaultSpec.text .value))

theorem DefaultSpec.yields : decoder.YieldsFitting node := by
  refine .oneOf ?_
  simp only [List.forall_mem_cons, List.not_mem_nil, false_imp_iff, implies_true, and_true]
  exact ⟨RangeSpec.yields.as fun _ _ h => Node.fits_named (Nat.succ_pos _) h,
    TextSpec.yields.as fun _ _ h => Node.fits_named (Nat.succ_pos _) h,
    TextSpec.yields.as fun _ _ h => Node.fits_named (Nat.succ_pos _) h⟩

theorem IndexDeclaration.reads (i : IndexDeclaration) : decoder.Reads i.node i := by
  cases i with
  | collection => exact .oneOf rfl (Decoder.Reads.null.as fun _ => IndexDeclaration.collection)
  | geo kind spec =>
    cases kind <;> exact .oneOf rfl (spec.reads.as (IndexDeclaration.geo _))

theorem IndexDeclaration.yields : decoder.YieldsFitting node := by
  refine .oneOf (List.forall_mem_cons.2 ⟨?_, ?_⟩)
  · have hnull : Decoder.null.YieldsFitting fun _ => .null := fun _ _ _ _ _ _ => Node.fits_null
    exact hnull.as fun _ _ h => Node.fits_named (Nat.succ_pos _) h
  · exact GeoKind.forall_mem_cases fun _ _ _ h => Node.fits_named (Nat.succ_pos _) h

/-! ## Shapes of queries -/

/-- The place of the shape of a query among those that are tried. -/
def Query.shape : Query → Nat
  | .criteria _ => 0
  | .constraint _ => 1
  | .default _ => 2
  | .index _ => 3

theorem Criteria.no_case {name : String}
    (h : ∀ query inner, Decoder.caseNamed? name (Criteria.cases query inner) = none) (k : Nat) :
    Decoder.caseNamed? name (Criteria.casesWithin k) = none := by
  cases k with
  | zero => rfl
  | succ k => exact h _ _

/-- An object with more than one entry is no case of a choice. -/
theorem Decoder.Refuses.oneOf_pair {cases : List (String × Decoder α)} {e f : String × Node}
    (hne : e.1 ≠ f.1) : (Decoder.oneOf [] cases).Refuses (.record [e, f]) := by
  intro j hj
  obtain ⟨js, rfl, hjs⟩ := hj.record (by simpa [Json.keys] using hne)
  have hlength := hjs.keys_perm.length_eq
  rcases js with - | ⟨first, - | ⟨second, rest⟩⟩
  · cases hlength
  · cases hlength
  · exact ⟨.mismatch, rfl⟩

theorem Constraint.refuses {es : List (String × Node)} (hnodup : (Json.keys es).Nodup)
    (h : "name" ∉ Json.keys es) :
    (Constraint.decoder.as Query.constraint).Refuses (.record es) := by
  intro j hj
  have hpart : ((Fields.required "name" Decoder.string).withOpenPart
      (Decoder.caseWithin ConstraintSpec.cases)).Refuses (.record es) :=
    .withOpenPart hnodup h
  obtain ⟨e, he⟩ := hpart j hj
  exact ⟨e, by rw [Decoder.as, Constraint.decoder, he]; rfl⟩

/-- No shape that is tried before its own accepts a query. -/
theorem Query.refuses_before (q : Query) (k : Nat) :
    ∀ shape ∈ (Query.shapes (Criteria.casesWithin k)).take q.shape, shape.Refuses q.node := by
  cases q with
  | criteria c => exact nofun
  | constraint c =>
    refine List.forall_mem_singleton.2 (Decoder.Refuses.as (.oneOf_pair ?_) _)
    exact (c.spec.case_reads.ne_of_none rfl).symm
  | default spec =>
    have hone : (Decoder.oneOf [] (Criteria.casesWithin k)).Refuses
        (.named "default" spec.node) := .oneOf (Criteria.no_case (fun _ _ => rfl) k)
    refine List.forall_mem_cons.2 ⟨hone.as _, List.forall_mem_singleton.2 ?_⟩
    exact Constraint.refuses (List.nodup_singleton _) (by simp [Json.keys, Node.member])
  | index declaration =>
    obtain ⟨name, body, hnode, hcase, hname, hdefault⟩ : ∃ name body,
        declaration.node = .named name body ∧
        (∀ query inner, Decoder.caseNamed? name (Criteria.cases query inner) = none) ∧
        "name" ≠ name ∧ "default" ≠ name := by
      cases declaration with
      | collection => exact ⟨_, _, rfl, fun _ _ => rfl, by decide, by decide⟩
      | geo kind spec =>
        refine ⟨_, _, rfl, fun _ _ => ?_, ?_, ?_⟩
        · cases kind <;> rfl
        · cases kind <;> decide
        · cases kind <;> decide
    rw [Query.node, hnode]
    have hone : (Decoder.oneOf [] (Criteria.casesWithin k)).Refuses (.named name body) :=
      .oneOf (Criteria.no_case hcase k)
    have hconstraint : (Constraint.decoder.as Query.constraint).Refuses (.record [(name, body)]) :=
      Constraint.refuses (List.nodup_singleton _) (by simpa [Json.keys] using hname)
    have hdefault : (Fields.required "default" DefaultSpec.decoder).record.Refuses
        (.record [(name, body)]) :=
      .record (List.nodup_singleton _) (by simpa [Json.keys] using hdefault)
    exact List.forall_mem_cons.2 ⟨hone.as _, List.forall_mem_cons.2
      ⟨hconstraint, List.forall_mem_singleton.2 (hdefault.as _)⟩⟩

/-! ## Containers -/

theorem Criteria.no_indexCase (k : Nat) : ∀ name ∈ IndexFields.fields.names,
    Decoder.caseNamed? name (Criteria.casesWithin k) = none := by
  show ∀ name ∈ ["json-property", "element", "attribute", "field", "path-index"],
    Decoder.caseNamed? name (Criteria.casesWithin k) = none
  simp only [List.forall_mem_cons, List.not_mem_nil, false_imp_iff, implies_true, and_true]
  exact ⟨no_case (fun _ _ => rfl) k, no_case (fun _ _ => rfl) k, no_case (fun _ _ => rfl) k,
    no_case (fun _ _ => rfl) k, no_case (fun _ _ => rfl) k⟩

/-- The name of an index and the criteria inside a container are told apart again: no field of a
name is the key of criteria. -/
theorem IndexFields.part_reads_with {cases : List (String × Decoder Criteria)}
    {member : String × Node} {inner : Criteria} (h : CaseReads cases member inner)
    (hcases : ∀ name ∈ fields.names, Decoder.caseNamed? name cases = none) (index : IndexFields) :
    PartReads (fun entries => do
      let index ← IndexFields.within entries
      let criteria ← Decoder.caseWithin cases entries
      .ok (index, criteria)) (index.entries ++ [member]) (index, inner) := by
  intro hfaithful
  obtain ⟨hindex, hmember⟩ := Fields.Reads.faithful_append hfaithful
  obtain ⟨hnodup, hdistinct, -⟩ := index.part_reads hindex
  obtain ⟨decoder, hcase, hread⟩ := h
  have hkeys : ∀ k ∈ Json.keys index.entries, Decoder.caseNamed? k cases = none :=
    fun k hk => hcases k (index.mem_names k hk)
  have hkey : member.1 ∉ fields.names := by
    intro hmem
    rw [hcases member.1 hmem] at hcase
    cases hcase
  refine ⟨?_, ?_, fun js hjs => ?_⟩
  · rw [Json.keys_append]
    refine List.nodup_append'.2 ⟨hnodup, List.nodup_singleton _, fun k hk hk' => ?_⟩
    rw [List.mem_singleton.1 hk'] at hk
    exact hkey (index.mem_names member.1 hk)
  · exact List.forall_mem_append.2 ⟨hdistinct, List.forall_mem_singleton.2 (hread hmember.1).1⟩
  · have hother : ∀ k ∈ Json.keys [member], k ∉ fields.names := List.forall_mem_singleton.2 hkey
    have hwithin : IndexFields.within js = .ok index :=
      index.fields_reads.within (by decide) hindex hother hjs
    have hcaseWithin : Decoder.caseWithin cases js = .ok inner :=
      hread.caseWithin hmember.1 hcase hkeys hjs
    simp only [hwithin, hcaseWithin, bind, Except.bind]

/-- The body of a container is taken apart into the name of the index and the criteria. -/
theorem ContainerSpec.reads_within {member : String × Node} {inner : Criteria} {k : Nat}
    (h : CaseReads (Criteria.casesWithin k) member inner) (spec : ContainerSpec) :
    (decoderWith (Criteria.casesWithin k)).Reads (.record (spec.entries ++ [member]))
      (spec, inner) := by
  obtain ⟨index, scope⟩ := spec
  have hscope : Decoder.caseNamed? "fragment-scope" (Criteria.casesWithin k) = none :=
    Criteria.no_case (fun _ _ => rfl) k
  have hdisjoint : ∀ k ∈ IndexFields.fields.names, k ∉ ownFields.names := by decide
  have hkeys : ∀ k ∈ Json.keys (index.entries ++ [member]), k ∉ ownFields.names := by
    rw [Json.keys_append]
    refine List.forall_mem_append.2 ⟨fun k hk => hdisjoint k (index.mem_names k hk), ?_⟩
    exact List.forall_mem_singleton.2 fun hmem => h.ne_of_none hscope (List.mem_singleton.1 hmem)
  have hfull : (index.entries ++ Node.optional "fragment-scope" FragmentScope.node scope ++
      [member]).Perm (Node.optional "fragment-scope" FragmentScope.node scope ++
        (index.entries ++ [member])) := by
    rw [← List.append_assoc]
    exact List.perm_append_comm.append_right _
  exact (Decoder.Reads.withOpenPart (by decide) (ownFields_reads scope)
    (IndexFields.part_reads_with h (Criteria.no_indexCase k) index) hfull hkeys).map _

/-! ## Reading queries -/

theorem Node.depth_named (name : String) (body : Node) :
    (Node.named name body).toJson.depth = body.toJson.depth + 1 := by
  simp [Node.toJson, Json.depth, Json.depthOfEntries]

/-- What is written under a name is less deep than the record that it is a part of. -/
theorem Node.depth_lt_record (name : String) {n : Node} {es : List (String × Node)}
    (h : (name, n) ∈ es) : n.toJson.depth < (Node.record es).toJson.depth := by
  have hmem : (name, n.toJson) ∈ Node.entriesToJson es := by
    rw [Node.entriesToJson_eq_map]
    exact List.mem_map_of_mem (f := fun e => (e.1, e.2.toJson)) h
  exact Nat.lt_succ_of_le (Json.depthOfEntries_le_iff.1 (Nat.le_refl _) _ hmem)

/-- The bound for criteria leaves one level less for what stands under their key. -/
theorem Criteria.depth_part_le {c : Criteria} {es : List (String × Node)} {k : Nat}
    (hbody : c.member.2 = .record es) (h : c.node.toJson.depth ≤ k + 1) (name : String) {n : Node}
    (hmem : (name, n) ∈ es) : n.toJson.depth ≤ k := by
  have hlt := Node.depth_lt_record name hmem
  rw [Criteria.node, Node.depth_named, hbody] at h
  omega

theorem Criteria.depth_item_le {c : Criteria} {es : List (String × Node)} {k : Nat}
    (hbody : c.member.2 = .record es) (h : c.node.toJson.depth ≤ k + 1) (name : String)
    {ns : List Node} (hmem : (name, .list ns) ∈ es) : ∀ n ∈ ns, n.toJson.depth ≤ k := by
  intro n hn
  have hlist : (Node.list ns).toJson.depth ≤ k := Criteria.depth_part_le hbody h name hmem
  have hitem : n.toJson ∈ Node.itemsToJson ns := by
    rw [Node.itemsToJson_eq_map]
    exact List.mem_map_of_mem hn
  have hle := Json.depthOfItems_le_iff.1 (Nat.le_refl _) _ hitem
  rw [Node.toJson, Json.depth] at hlist
  omega

theorem Criteria.not_depth_le_zero {c : Criteria} : ¬c.node.toJson.depth ≤ 0 := by
  rw [Criteria.node, Node.depth_named]
  omega

/-- The decoder of queries for drafts in which no more than `k` arrays and objects are nested in
one another. -/
def Query.decoderWithin (k : Nat) : Decoder Query :=
  Decoder.firstOf (Query.shapes (Criteria.casesWithin k))

/-- Criteria that are made of two queries are read if both queries are. -/
theorem Criteria.pair_reads {make : Query → Query → Criteria} {p q : Query}
    {left right : String} {k : Nat}
    (hbody : (make p q).member.2 =
      .record (Node.member left p.node ++ Node.member right q.node))
    (h : (make p q).node.toJson.depth ≤ k + 1) (hne : left ≠ right)
    (hp : p.node.toJson.depth ≤ k → (Query.decoderWithin k).Reads p.node p)
    (hq : q.node.toJson.depth ≤ k → (Query.decoderWithin k).Reads q.node q) :
    (make <$> Fields.required left (Query.decoderWithin k) <*>
      Fields.required right (Query.decoderWithin k)).record.Reads (make p q).member.2
        (make p q) := by
  have hleft : p.node.toJson.depth ≤ k :=
    Criteria.depth_part_le hbody h left (by simp [Node.member])
  have hright : q.node.toJson.depth ≤ k :=
    Criteria.depth_part_le hbody h right (by simp [Node.member])
  have hnames : [left, right].Nodup := by simpa using hne
  rw [hbody]
  exact .record hnames (.seq (.map (.required (hp hleft)) make) (.required (hq hright)))

mutual
/-- A query is read as it is written by the decoder for any bound that its JSON does not
exceed. -/
theorem Query.reads_within : ∀ (q : Query) {k : Nat}, q.node.toJson.depth ≤ k →
    (Query.decoderWithin k).Reads q.node q
  | .criteria c, k, h => by
    have hread := (Criteria.case_reads c h).named.as Query.criteria
    exact .firstOf 0 rfl hread (Query.refuses_before (.criteria c) k)
  | .constraint c, k, _ => by
    have hread := c.reads.as Query.constraint
    exact .firstOf 1 rfl hread (Query.refuses_before (.constraint c) k)
  | .default spec, k, _ => by
    have hrecord : (Fields.required "default" DefaultSpec.decoder).record.Reads
        (.record (Node.member "default" spec.node)) spec :=
      .record (by decide) (.required spec.reads)
    exact .firstOf 2 rfl (hrecord.as Query.default) (Query.refuses_before (.default spec) k)
  | .index declaration, k, _ => by
    have hread := declaration.reads.as Query.index
    exact .firstOf 3 rfl hread (Query.refuses_before (.index declaration) k)
termination_by structural q => q
/-- Criteria are read as they are written. -/
theorem Criteria.case_reads : ∀ (c : Criteria) {k : Nat}, c.node.toJson.depth ≤ k →
    CaseReads (Criteria.casesWithin k) c.member c
  | _, 0, h => absurd h Criteria.not_depth_le_zero
  | .and queries ordered, k + 1, h => by
    have hqueries : ∀ n ∈ Query.nodes queries, n.toJson.depth ≤ k :=
      Criteria.depth_item_le rfl h "queries" (by simp [Node.member])
    have hread := Query.items_read queries hqueries
    exact ⟨_, rfl, .record (show ["queries", "ordered"].Nodup by decide)
      (.seq (.map (.required (.list hread)) Criteria.and) (.optional .bool .bool))⟩
  | .or queries, k + 1, h => by
    have hqueries : ∀ n ∈ Query.nodes queries, n.toJson.depth ≤ k :=
      Criteria.depth_item_le rfl h "queries" (by simp [Node.member])
    have hread := Query.items_read queries hqueries
    exact ⟨_, rfl, .record (show ["queries"].Nodup by decide)
      (.map (.required (.list hread)) Criteria.or)⟩
  | .not query, k + 1, h => by
    rw [Criteria.node, Node.depth_named] at h
    exact ⟨_, rfl, (Query.reads_within query (Nat.le_of_succ_le_succ h)).as Criteria.not⟩
  | .andNot positive negative, k + 1, h =>
    ⟨_, rfl, Criteria.pair_reads rfl h (by decide) (fun hle => Query.reads_within positive hle)
      fun hle => Query.reads_within negative hle⟩
  | .notIn positive negative, k + 1, h =>
    ⟨_, rfl, Criteria.pair_reads rfl h (by decide) (fun hle => Query.reads_within positive hle)
      fun hle => Query.reads_within negative hle⟩
  | .boost matching boosting, k + 1, h =>
    ⟨_, rfl, Criteria.pair_reads rfl h (by decide) (fun hle => Query.reads_within matching hle)
      fun hle => Query.reads_within boosting hle⟩
  | .near queries ordered weight distance, k + 1, h => by
    have hqueries : ∀ n ∈ Query.nodes queries, n.toJson.depth ≤ k :=
      Criteria.depth_item_le rfl h "queries" (by simp [Node.member])
    have hread := Query.items_read queries hqueries
    exact ⟨_, rfl, .record (show ["queries", "ordered", "weight", "distance"].Nodup by decide)
      (.seq (.seq (.seq (.map (.required (.list hread)) Criteria.near) (.optional .bool .bool))
        (.optional .number .number)) (.optional .number .number))⟩
  | .term text weight, k + 1, _ =>
    ⟨_, rfl, .record (show ["text", "weight"].Nodup by decide)
      (.seq (.map (.required (.listOf fun s _ => s.reads)) Criteria.term)
        (.optional .number .number))⟩
  | .text .word spec, k + 1, _ => ⟨_, rfl, spec.reads.as (Criteria.text .word)⟩
  | .text .value spec, k + 1, _ => ⟨_, rfl, spec.reads.as (Criteria.text .value)⟩
  | .range spec, k + 1, _ => ⟨_, rfl, spec.reads.as Criteria.range⟩
  | .collection uris, k + 1, _ =>
    ⟨_, rfl, .record (show ["uri"].Nodup by decide)
      (.map (.required (.strings uris)) Criteria.collection)⟩
  | .directory uris infinite, k + 1, _ =>
    ⟨_, rfl, .record (show ["uri", "infinite"].Nodup by decide)
      (.seq (.map (.required (.strings uris)) Criteria.directory) (.optional .bool .bool))⟩
  | .document uris, k + 1, _ =>
    ⟨_, rfl, .record (show ["uri"].Nodup by decide)
      (.map (.required (.strings uris)) Criteria.document)⟩
  | .documentFragment query, k + 1, h => by
    rw [Criteria.node, Node.depth_named] at h
    exact ⟨_, rfl,
      (Query.reads_within query (Nat.le_of_succ_le_succ h)).as Criteria.documentFragment⟩
  | .properties query, k + 1, h => by
    rw [Criteria.node, Node.depth_named] at h
    exact ⟨_, rfl, (Query.reads_within query (Nat.le_of_succ_le_succ h)).as Criteria.properties⟩
  | .locksFragment query, k + 1, h => by
    rw [Criteria.node, Node.depth_named] at h
    exact ⟨_, rfl, (Query.reads_within query (Nat.le_of_succ_le_succ h)).as Criteria.locksFragment⟩
  | .container spec inner, k + 1, h => by
    have hinner : inner.node.toJson.depth ≤ k := by
      have hbody : inner.member.2.toJson.depth <
          (Node.record (spec.entries ++ [inner.member])).toJson.depth :=
        Node.depth_lt_record inner.member.1 (by simp)
      rw [Criteria.node, Node.depth_named] at h ⊢
      exact Nat.le_trans hbody (Nat.le_of_succ_le_succ h)
    have hcase := Criteria.case_reads inner hinner
    exact ⟨_, rfl, (spec.reads_within hcase).as
      fun (spec, criteria) => Criteria.container spec criteria⟩
  | .geo kind spec, k + 1, _ => by
    cases kind <;> exact ⟨_, rfl, spec.reads.as (Criteria.geo _)⟩
  | .lsqt spec, k + 1, _ => ⟨_, rfl, spec.reads.as Criteria.lsqt⟩
  | .axisComparison spec, k + 1, _ => ⟨_, rfl, spec.reads.as Criteria.axisComparison⟩
  | .periodComparison spec, k + 1, _ => ⟨_, rfl, spec.reads.as Criteria.periodComparison⟩
termination_by structural c => c
/-- Each of several queries is read as it is written. -/
theorem Query.items_read : ∀ (qs : List Query) {k : Nat},
    (∀ n ∈ Query.nodes qs, n.toJson.depth ≤ k) →
      List.Forall₂ (Query.decoderWithin k).Reads (Query.nodes qs) qs
  | [], _, _ => .nil
  | q :: rest, _, h => by
    obtain ⟨hq, hrest⟩ := List.forall_mem_cons.1 h
    exact .cons (Query.reads_within q hq) (Query.items_read rest hrest)
termination_by structural qs => qs
end

mutual
theorem Draft.depth_draft : ∀ j : Json, j.draft.depth = j.depth
  | .null => rfl
  | .bool _ => rfl
  | .number _ => rfl
  | .string _ => rfl
  | .array items => congrArg (· + 1) (Draft.depthOfItems_draftItems items)
  | .object entries => congrArg (· + 1) (Draft.depthOfEntries_draftEntries entries)
theorem Draft.depthOfItems_draftItems : ∀ js : List Json,
    Draft.depthOfItems (Json.draftItems js) = Json.depthOfItems js
  | [] => rfl
  | j :: rest => congrArg₂ max (Draft.depth_draft j) (Draft.depthOfItems_draftItems rest)
theorem Draft.depthOfEntries_draftEntries : ∀ js : List (String × Json),
    Draft.depthOfEntries (Json.draftEntries js) = Json.depthOfEntries js
  | [] => rfl
  | (_, j) :: rest => congrArg₂ max (Draft.depth_draft j) (Draft.depthOfEntries_draftEntries rest)
end

namespace Query

/-- A query is read as it is written. -/
theorem reads (q : Query) : decoder.Reads q.node q := by
  intro hn
  have hdistinct := (reads_within q (Nat.le_refl _) hn).1
  refine ⟨hdistinct, fun o j room hj => ?_⟩
  have hdepth := hj.depth_eq hdistinct
  refine ⟨fun hle => ?_, fun hlt => ?_⟩
  · rw [Json.draftWithin_of_depth_le hle, decoder, Draft.depth_draft]
    have hread := (reads_within q (Nat.le_of_eq hdepth.symm) hn).2 o j room hj
    rw [Json.draftWithin_of_depth_le hle] at hread
    exact hread.1 hle
  · obtain ⟨e, he⟩ := (Json.settled_draftWithin room j).2 hlt
    exact ⟨e, by rw [decoder, Decoder.firstOf, he]; rfl⟩

/-- A query that is held as JSON with its keys sorted is read as the query itself.  No shape that is
tried before its own accepts it, and a container is taken apart into what it was made of. -/
theorem readJson_ofJson {q : Query} (h : q.node.Faithful) :
    decoder.readJson (Value.ofJson q.node.toJson).tree = .ok q ∧
      (∀ k, ∀ shape ∈ (shapes (Criteria.casesWithin k)).take q.shape,
        ∃ e, shape .held (Value.ofJson q.node.toJson).tree.draft = .error e) ∧
      ∀ spec inner, q = .criteria (.container spec inner) → ∀ k, inner.node.toJson.depth ≤ k →
        (ContainerSpec.decoderWith (Criteria.casesWithin k)).readJson
          (Value.ofJson (Node.record (spec.entries ++ [inner.member])).toJson).tree =
          .ok (spec, inner) := by
  refine ⟨(reads q).draft h .held (Node.writes_canonical q.node), fun k shape hshape => ?_, ?_⟩
  · exact refuses_before q k shape hshape _ (Node.writes_canonical q.node)
  · rintro spec inner rfl k hk
    exact (spec.reads_within (Criteria.case_reads inner hk)).draft h .held (Node.writes_canonical _)

theorem readJson_ofJson_container :
    let spec : ContainerSpec := { index := { jsonProperty := some "author" } }
    let inner : Criteria :=
      .near [.constraint ⟨"genre", .collection none⟩] none (some (.signed 2)) none
    let q : Query := .criteria (.container spec inner)
    q.node.Faithful ∧ decoder.readJson (Value.ofJson q.node.toJson).tree = .ok q := by
  intro spec inner q
  have hweight : (Number.signed 2).Faithful := Number.faithful_signed 2
  have hfaithful : q.node.Faithful :=
    ⟨trivial, ⟨⟨⟨trivial, trivial, trivial⟩, trivial⟩, hweight, trivial⟩, trivial⟩
  exact ⟨hfaithful, (readJson_ofJson hfaithful).1⟩

end Query

/-! ## Accepting queries -/

theorem ContainerSpec.yields_with {cases : List (String × Decoder Criteria)}
    (h : ∀ c ∈ cases, c.2.Yields fun room c => c.member.2.Fits room) :
    (decoderWith cases).Yields fun room sc =>
      (Criteria.container sc.1 sc.2).member.2.Fits room := by
  refine Decoder.Yields.map (Decoder.Yields.withOpenPart
    (Q := fun room ic => Node.FitsEntries room ic.1.entries ∧ ic.2.member.2.Fits room)
    ownFields_yields fun js room ic hfaithful hdepth _ hic => ?_) ?_
  · obtain ⟨index, hindex, hic⟩ := bind_eq_ok hic
    obtain ⟨criteria, hcriteria, hpair⟩ := bind_eq_ok hic
    cases hpair
    exact ⟨PartYields.within IndexFields.fields_yields js room index hfaithful hdepth hindex,
      PartYields.caseWithin h js room criteria hfaithful hdepth hcriteria⟩
  · rintro room ⟨scope, index, criteria⟩ ⟨hpos, hscope, hindex, hcriteria⟩
    exact Node.fits_record hpos
      ((hindex.append hscope).append (Node.fitsEntries_member hcriteria))

theorem Query.yields_of_cases {cases : List (String × Decoder Criteria)}
    (h : ∀ c ∈ cases, c.2.Yields fun room c => c.member.2.Fits room) :
    (Decoder.firstOf (Query.shapes cases)).YieldsFitting Query.node := by
  have hcriteria : (Decoder.oneOf [] cases).YieldsFitting Criteria.node :=
    .oneOf fun c hc => (h c hc).mono fun _ _ hfits => Node.fits_named (Nat.succ_pos _) hfits
  have hdefault : (Fields.required "default" DefaultSpec.decoder).record.YieldsFitting
      fun s => .record (Node.member "default" s.node) := .record (.required DefaultSpec.yields)
  refine Decoder.Yields.firstOf ?_
  simp only [Query.shapes, List.forall_mem_cons, List.not_mem_nil, false_imp_iff, implies_true,
    and_true]
  exact ⟨hcriteria.as fun _ _ h => h, Constraint.yields.as fun _ _ h => h,
    hdefault.as fun _ _ h => h, IndexDeclaration.yields.as fun _ _ h => h⟩

theorem Query.nodes_eq_map (qs : List Query) : Query.nodes qs = qs.map Query.node := by
  induction qs with
  | nil => rfl
  | cons q rest ih => rw [Query.nodes, ih, List.map_cons]

theorem Query.nodes_yield {query : Decoder Query} (h : query.YieldsFitting Query.node) :
    (Decoder.list query).YieldsFitting fun qs => .list (Query.nodes qs) := by
  simp only [Query.nodes_eq_map]
  exact .listOf h

theorem Criteria.pair_yields {make : Query → Query → Criteria} {query : Decoder Query}
    {left right : String} (hquery : query.YieldsFitting Query.node)
    (hbody : ∀ p q, (make p q).member.2 =
      .record (Node.member left p.node ++ Node.member right q.node)) :
    (make <$> Fields.required left query <*> Fields.required right query).record.Yields
      fun room c => c.member.2.Fits room := by
  refine .record_succ (.seq (.map (.required hquery) ?_) (.required hquery))
  intro room p hleft q hright
  rw [hbody p q]
  exact Node.fits_record (Nat.succ_pos room) (hleft.append hright)

theorem Criteria.cases_yield {query : Decoder Query} {inner : Decoder (ContainerSpec × Criteria)}
    (hquery : query.YieldsFitting Query.node)
    (hinner : inner.Yields fun room sc => (Criteria.container sc.1 sc.2).member.2.Fits room) :
    ∀ c ∈ Criteria.cases query inner, c.2.Yields fun room c => c.member.2.Fits room := by
  have hqueries := Query.nodes_yield hquery
  refine List.forall_mem_append.2 ⟨List.forall_mem_append.2 ⟨?_, ?_⟩, ?_⟩
  · simp only [List.forall_mem_cons, List.not_mem_nil, false_imp_iff, implies_true, and_true]
    refine ⟨?_, ?_, hquery.as fun _ _ h => h, ?_, ?_, ?_, ?_, ?_, TextSpec.yields.as fun _ _ h => h,
      TextSpec.yields.as fun _ _ h => h, RangeSpec.yields.as fun _ _ h => h, ?_, ?_, ?_,
      hquery.as fun _ _ h => h, hquery.as fun _ _ h => h, hquery.as fun _ _ h => h,
      hinner.as fun _ _ h => h⟩
    · refine .record_succ (.seq (.map (.required hqueries) ?_) (.optional .bool))
      intro room _ hqueries _ hordered
      exact Node.fits_record (Nat.succ_pos room) (hqueries.append hordered)
    · refine .record_succ (.map (.required hqueries) ?_)
      intro room _ hqueries
      exact Node.fits_record (Nat.succ_pos room) hqueries
    · exact Criteria.pair_yields hquery fun _ _ => rfl
    · exact Criteria.pair_yields hquery fun _ _ => rfl
    · exact Criteria.pair_yields hquery fun _ _ => rfl
    · refine .record_succ (.seq (.seq (.seq (.map (.required hqueries) ?_) (.optional .bool))
        (.optional .number)) (.optional .number))
      intro room _ hqueries _ hordered _ hweight _ hdistance
      exact Node.fits_record (Nat.succ_pos room)
        (((hqueries.append hordered).append hweight).append hdistance)
    · refine .record_succ (.seq (.map (.required (.listOf Scalar.yields)) ?_) (.optional .number))
      intro room _ htext _ hweight
      exact Node.fits_record (Nat.succ_pos room) (htext.append hweight)
    · refine .record_succ (.map (.required .strings) ?_)
      intro room _ huris
      exact Node.fits_record (Nat.succ_pos room) huris
    · refine .record_succ (.seq (.map (.required .strings) ?_) (.optional .bool))
      intro room _ huris _ hinfinite
      exact Node.fits_record (Nat.succ_pos room) (huris.append hinfinite)
    · refine .record_succ (.map (.required .strings) ?_)
      intro room _ huris
      exact Node.fits_record (Nat.succ_pos room) huris
  · exact GeoKind.forall_mem_cases fun _ _ _ h => h
  · simp only [List.forall_mem_cons, List.not_mem_nil, false_imp_iff, implies_true, and_true]
    exact ⟨LsqtSpec.yields.as fun _ _ h => h, AxisComparison.yields.as fun _ _ h => h,
      PeriodComparison.yields.as fun _ _ h => h⟩

theorem Criteria.casesWithin_yield :
    ∀ k, ∀ c ∈ Criteria.casesWithin k, c.2.Yields fun room c => c.member.2.Fits room
  | 0 => nofun
  | k + 1 =>
    Criteria.cases_yield (Query.yields_of_cases (Criteria.casesWithin_yield k))
      (ContainerSpec.yields_with (Criteria.casesWithin_yield k))

/-- A query that is accepted is written no deeper than it was. -/
theorem Query.yields : decoder.YieldsFitting node :=
  fun o d room q hd hq =>
    Query.yields_of_cases (Criteria.casesWithin_yield d.depth) o d room q hd hq

end SearchRequest
