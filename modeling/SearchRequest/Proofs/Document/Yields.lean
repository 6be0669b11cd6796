import SearchRequest.Proofs.Document.Reads
import SearchRequest.Proofs.Json.Nesting

/-!
# What decoders accept

* `Node.Fits` — a written value is faithful, and its JSON nests no more than so many arrays and
  objects.
* `Decoder.Yields`, `Decoder.YieldsFitting` — whatever a decoder accepts has a property that
  depends on how deep the draft is; the property is mostly that it is written no deeper.
* `Fields.Yields`, `PartYields` — the same of the fields and of the open part of a record.
-/

namespace SearchRequest

/-! ## Successful results -/

section Results

variable {ε ε' α β : Type}

theorem bind_eq_ok {r : Except ε α} {k : α → Except ε β} {b : β} (h : (r >>= k) = .ok b) :
    ∃ a, r = .ok a ∧ k a = .ok b := by
  cases r with
  | error e => cases h
  | ok a => exact ⟨a, rfl, h⟩

theorem bind_eq_ok_iff {r : Except ε α} {k : α → Except ε β} {b : β} :
    (r >>= k) = .ok b ↔ ∃ a, r = .ok a ∧ k a = .ok b :=
  ⟨bind_eq_ok, fun ⟨_, hr, hk⟩ => hr ▸ hk⟩

theorem map_eq_ok {r : Except ε α} {f : α → β} {b : β} (h : r.map f = .ok b) :
    ∃ a, r = .ok a ∧ f a = b := by
  cases r with
  | error e => cases h
  | ok a => exact ⟨a, rfl, Except.ok.inj h⟩

theorem map_eq_ok_iff {r : Except ε α} {f : α → β} {b : β} :
    r.map f = .ok b ↔ ∃ a, r = .ok a ∧ f a = b :=
  ⟨map_eq_ok, fun ⟨_, hr, hf⟩ => hr ▸ hf ▸ rfl⟩

theorem mapError_eq_ok {r : Except ε α} {f : ε → ε'} {a : α} (h : r.mapError f = .ok a) :
    r = .ok a := by
  cases r with
  | error e => cases h
  | ok a' => rw [Except.ok.inj h]

theorem mapError_eq_ok_iff {r : Except ε α} {f : ε → ε'} {a : α} :
    r.mapError f = .ok a ↔ r = .ok a :=
  ⟨mapError_eq_ok, fun hr => hr ▸ rfl⟩

end Results

/-! ## Values that fit -/

namespace Node

variable {room : Nat}

/-- Every number is read as it is written, and no more than so many arrays and objects are nested
in one another. -/
def Fits (room : Nat) (n : Node) : Prop := n.Faithful ∧ n.toJson.depth ≤ room

/-- Every entry fits. -/
def FitsEntries (room : Nat) (es : List (String × Node)) : Prop := ∀ e ∈ es, e.2.Fits room

theorem Fits.mono {room' : Nat} {n : Node} (h : n.Fits room) (hle : room ≤ room') : n.Fits room' :=
  ⟨h.1, Nat.le_trans h.2 hle⟩

theorem fits_string (s : String) : (Node.string s).Fits room := ⟨trivial, Nat.zero_le room⟩

theorem fits_bool (b : Bool) : (Node.bool b).Fits room := ⟨trivial, Nat.zero_le room⟩

theorem fits_null : Node.null.Fits room := ⟨trivial, Nat.zero_le room⟩

theorem fits_number {m : Number} (h : m.Faithful) : (Node.number m).Fits room := by
  refine ⟨h, ?_⟩
  rw [toJson, if_pos h.isFinite]
  exact Nat.zero_le room

theorem fits_list {ns : List Node} (hpos : 0 < room) (h : ∀ n ∈ ns, n.Fits (room - 1)) :
    (Node.list ns).Fits room := by
  refine ⟨faithfulItems_iff.2 fun n hn => (h n hn).1, ?_⟩
  rw [toJson, Json.depth, itemsToJson_eq_map]
  have hitems : Json.depthOfItems (ns.map toJson) ≤ room - 1 :=
    Json.depthOfItems_le_iff.2 (List.forall_mem_map.2 fun n hn => (h n hn).2)
  omega

theorem fits_record {es : List (String × Node)} (hpos : 0 < room)
    (h : FitsEntries (room - 1) es) : (Node.record es).Fits room := by
  refine ⟨faithfulEntries_iff.2 fun e he => (h e he).1, ?_⟩
  rw [toJson, Json.depth, entriesToJson_eq_map]
  have hentries : Json.depthOfEntries (es.map fun e => (e.1, e.2.toJson)) ≤ room - 1 :=
    Json.depthOfEntries_le_iff.2 (List.forall_mem_map.2 fun e he => (h e he).2)
  omega

theorem fitsEntries_member {name : String} {n : Node} (h : n.Fits room) :
    FitsEntries room (member name n) := List.forall_mem_singleton.2 h

theorem fits_named {name : String} {body : Node} (hpos : 0 < room) (h : body.Fits (room - 1)) :
    (Node.named name body).Fits room := by
  have hrecord : (Node.record [(name, body)]).Fits room := fits_record hpos (fitsEntries_member h)
  exact ⟨h.1, hrecord.2⟩

theorem fitsEntries_optional {α : Type} {name : String} {write : α → Node} {v : Option α}
    (h : ∀ a ∈ v, (write a).Fits room) : FitsEntries room (Node.optional name write v) := by
  cases v with
  | none => exact nofun
  | some a => exact fitsEntries_member (h a rfl)

theorem FitsEntries.mono {room' : Nat} {es : List (String × Node)} (h : FitsEntries room es)
    (hle : room ≤ room') : FitsEntries room' es := fun e he => (h e he).mono hle

theorem FitsEntries.append {es fs : List (String × Node)} (hes : FitsEntries room es)
    (hfs : FitsEntries room fs) : FitsEntries room (es ++ fs) :=
  List.forall_mem_append.2 ⟨hes, hfs⟩

end Node

namespace Json

mutual
theorem faithful_node : ∀ {j : Json}, j.Faithful → j.node.Faithful
  | .null, _ => trivial
  | .bool _, _ => trivial
  | .number _, h => h
  | .string _, _ => trivial
  | .array _, h => faithful_nodesOfItems h
  | .object _, h => faithful_nodesOfEntries h
theorem faithful_nodesOfItems : ∀ {js : List Json}, FaithfulItems js →
    Node.FaithfulItems (nodesOfItems js)
  | [], _ => trivial
  | _ :: _, h => ⟨faithful_node h.1, faithful_nodesOfItems h.2⟩
theorem faithful_nodesOfEntries : ∀ {js : List (String × Json)}, FaithfulEntries js →
    Node.FaithfulEntries (nodesOfEntries js)
  | [], _ => trivial
  | (_, _) :: _, h => ⟨faithful_node h.1, faithful_nodesOfEntries h.2⟩
end

mutual
theorem Faithful.canonical : ∀ {j : Json}, j.Faithful → j.canonical.Faithful
  | .null, _ => trivial
  | .bool _, _ => trivial
  | .number _, h => h
  | .string _, _ => trivial
  | .array _, h => FaithfulItems.canonicalItems h
  | .object _, h => faithfulEntries_iff.2 fun e he =>
    faithfulEntries_iff.1 (FaithfulEntries.canonicalEntries h) e (mem_sortEntries he)
theorem FaithfulItems.canonicalItems : ∀ {js : List Json}, FaithfulItems js →
    FaithfulItems (Json.canonicalItems js)
  | [], _ => trivial
  | _ :: _, h => ⟨Faithful.canonical h.1, FaithfulItems.canonicalItems h.2⟩
theorem FaithfulEntries.canonicalEntries : ∀ {js : List (String × Json)}, FaithfulEntries js →
    FaithfulEntries (Json.canonicalEntries js)
  | [], _ => trivial
  | (_, _) :: _, h => ⟨Faithful.canonical h.1, FaithfulEntries.canonicalEntries h.2⟩
end

mutual
/-- Sorting a tree adds no floating-point number. -/
theorem floats_canonical_subset : ∀ j : Json, j.canonical.floats ⊆ j.floats
  | .null => List.Subset.refl _
  | .bool _ => List.Subset.refl _
  | .number _ => List.Subset.refl _
  | .string _ => List.Subset.refl _
  | .array items => floatsOfItems_canonicalItems_subset items
  | .object entries => by
    intro x hx
    obtain ⟨e, he, hx⟩ := mem_floatsOfEntries.1 hx
    exact floatsOfEntries_canonicalEntries_subset entries
      (mem_floatsOfEntries.2 ⟨e, mem_sortEntries he, hx⟩)
theorem floatsOfItems_canonicalItems_subset : ∀ js : List Json,
    floatsOfItems (canonicalItems js) ⊆ floatsOfItems js
  | [] => List.Subset.refl _
  | j :: rest => fun _ hx => List.mem_append.2 ((List.mem_append.1 hx).imp
    (fun h => floats_canonical_subset j h) fun h => floatsOfItems_canonicalItems_subset rest h)
theorem floatsOfEntries_canonicalEntries_subset : ∀ js : List (String × Json),
    floatsOfEntries (canonicalEntries js) ⊆ floatsOfEntries js
  | [] => List.Subset.refl _
  | (_, j) :: rest => fun _ hx => List.mem_append.2 ((List.mem_append.1 hx).imp
    (fun h => floats_canonical_subset j h) fun h => floatsOfEntries_canonicalEntries_subset rest h)
end

mutual
/-- Sorting makes no tree deeper, even where it drops an entry. -/
theorem depth_canonical_le : ∀ j : Json, j.canonical.depth ≤ j.depth
  | .null => Nat.le_refl _
  | .bool _ => Nat.le_refl _
  | .number _ => Nat.le_refl _
  | .string _ => Nat.le_refl _
  | .array items => Nat.add_le_add_right (depthOfItems_canonicalItems_le items) 1
  | .object entries => by
    refine Nat.add_le_add_right (depthOfEntries_le_iff.2 fun e he => ?_) 1
    exact depthOfEntries_le_iff.1 (depthOfEntries_canonicalEntries_le entries) e
      (mem_sortEntries he)
theorem depthOfItems_canonicalItems_le : ∀ js : List Json,
    depthOfItems (canonicalItems js) ≤ depthOfItems js
  | [] => Nat.le_refl _
  | j :: rest => max_le_max (depth_canonical_le j) (depthOfItems_canonicalItems_le rest)
theorem depthOfEntries_canonicalEntries_le : ∀ js : List (String × Json),
    depthOfEntries (canonicalEntries js) ≤ depthOfEntries js
  | [] => Nat.le_refl _
  | (_, j) :: rest => max_le_max (depth_canonical_le j) (depthOfEntries_canonicalEntries_le rest)
end

/-- A tree that is kept in canonical form is written no deeper than it was. -/
theorem fits_canonical {room : Nat} {j : Json} (h : j.Faithful) (hdepth : j.depth ≤ room) :
    j.canonical.node.Fits room := by
  have hnode := faithful_node h.canonical
  refine ⟨hnode, ?_⟩
  rw [Node.toJson_node hnode]
  exact Nat.le_trans (depth_canonical_le j) hdepth

end Json

/-! ## Decoders -/

namespace Decoder

variable {α β : Type} {decoder : Decoder α} {write : α → Node}

/-- Whatever is accepted has a property that depends on how deep the draft is. -/
def Yields (decoder : Decoder α) (P : Nat → α → Prop) : Prop :=
  ∀ (o : Origin) (d : Draft) (room : Nat) (a : α), d.Within room → decoder o d = .ok a → P room a

/-- Whatever is accepted is written no deeper than the draft is. -/
def YieldsFitting (decoder : Decoder α) (write : α → Node) : Prop :=
  decoder.Yields fun room a => (write a).Fits room

theorem within_of_settled {d : Draft} {room : Nat} {j : Json} (hd : d.Within room)
    (h : settled d = .ok j) : j.Faithful ∧ j.depth ≤ room :=
  Draft.within_of_settle hd (mapError_eq_ok h)

namespace Yields

variable {P : Nat → α → Prop} {Q : Nat → β → Prop}

theorem map (h : decoder.Yields P) {f : α → β} (hf : ∀ room a, P room a → Q room (f a)) :
    Yields (fun o d => (decoder o d).map f) Q := by
  intro o d room b hd hb
  obtain ⟨a, ha, rfl⟩ := map_eq_ok hb
  exact hf room a (h o d room a hd ha)

theorem mono {P' : Nat → α → Prop} (h : decoder.Yields P)
    (hP : ∀ room a, P room a → P' room a) : decoder.Yields P' :=
  fun o d room a hd ha => hP room a (h o d room a hd ha)

theorem as (h : decoder.Yields P) {f : α → β} (hf : ∀ room a, P room a → Q room (f a)) :
    (decoder.as f).Yields Q := h.map hf

theorem list (h : decoder.Yields P) :
    (Decoder.list decoder).Yields fun room as => 0 < room ∧ ∀ a ∈ as, P (room - 1) a := by
  intro o d room as hd has
  cases d with
  | array ds ending =>
    obtain ⟨hpos, hds⟩ := hd
    refine ⟨hpos, ?_⟩
    simp only [Decoder.list] at has
    clear hpos
    induction ds generalizing as with
    | nil =>
      cases ending with
      | broken f => cases has
      | closed =>
        cases has
        exact nofun
    | cons d rest ih =>
      obtain ⟨a, ha, hrest⟩ := bind_eq_ok has
      obtain ⟨as, hitems, hcons⟩ := bind_eq_ok hrest
      cases hcons
      exact List.forall_mem_cons.2 ⟨h o d (room - 1) a hds.1 ha, ih as hitems hds.2⟩
  | _ => cases has

theorem caseNamed {cases : List (String × Decoder α)} (h : ∀ c ∈ cases, c.2.Yields P)
    {name : String} (hcase : caseNamed? name cases = some decoder) : decoder.Yields P := by
  induction cases with
  | nil => cases hcase
  | cons c rest ih =>
    obtain ⟨hc, hrest⟩ := List.forall_mem_cons.1 h
    rw [caseNamed?] at hcase
    split at hcase
    · cases hcase
      exact hc
    · exact ih hrest hcase

theorem named {cases : List (String × Decoder α)} (h : ∀ c ∈ cases, c.2.Yields P)
    {o : Origin} {k d : Draft} {room : Nat} {a : α} (hd : d.Within room)
    (ha : oneOf.named [] cases o k d = .ok a) : P room a := by
  obtain ⟨name, -, ha⟩ := bind_eq_ok ha
  split at ha
  · next decoder hcase => exact caseNamed (by simpa using h) hcase o d room a hd ha
  · cases ha

/-- The members of a list, each of which has a property of its own. -/
theorem list_and {write : α → Node} {Q : α → Prop}
    (h : decoder.Yields fun room a => (write a).Fits room ∧ Q a) :
    (Decoder.list decoder).Yields fun room as => (Node.listOf write as).Fits room ∧ ∀ a ∈ as, Q a :=
  h.list.mono fun _ _ hlist =>
    ⟨Node.fits_list hlist.1 (List.forall_mem_map.2 fun a ha => (hlist.2 a ha).1),
      fun a ha => (hlist.2 a ha).2⟩

/-- One of several cases with content. -/
theorem oneOf {cases : List (String × Decoder α)} (h : ∀ c ∈ cases, c.2.Yields P) :
    (Decoder.oneOf [] cases).Yields fun room a => 0 < room ∧ P (room - 1) a := by
  intro o d room a hd ha
  unfold Decoder.oneOf at ha
  split at ha
  · cases ha
  · cases ha
  · next k d' ending =>
    exact ⟨hd.1, named h hd.2.1 ha⟩
  · next k d' ending =>
    exact ⟨hd.1, named h hd.2.1 ha⟩
  · cases ha
  · cases ha
  · next k d' rest ending =>
    obtain ⟨a', ha', hrest⟩ := bind_eq_ok ha
    have hresult : a' = a := by
      split at hrest
      · cases hrest
      · split at hrest
        · exact Except.ok.inj hrest
        · cases hrest
    exact ⟨hd.1, named h hd.2.1 (hresult ▸ ha')⟩
  · cases ha

theorem firstOf {shapes : List (Decoder α)} (h : ∀ shape ∈ shapes, shape.Yields P) :
    (Decoder.firstOf shapes).Yields P := by
  intro o d room a hd ha
  obtain ⟨j, hj, ha⟩ := bind_eq_ok ha
  obtain ⟨hfaithful, hdepth⟩ := within_of_settled hd hj
  split at ha
  · next b hb =>
    cases ha
    obtain ⟨shape, hmem, hshape⟩ := List.exists_of_findSome?_eq_some hb
    have hok : shape .held j.draft = .ok a := by
      cases hresult : shape .held j.draft with
      | error e =>
        rw [hresult] at hshape
        cases hshape
      | ok a' =>
        rw [hresult] at hshape
        rw [Option.some.inj hshape]
    exact h shape hmem .held j.draft room a (Draft.within_draft hfaithful hdepth) hok
  · cases ha

end Yields

namespace YieldsFitting

theorem string : Decoder.string.YieldsFitting .string :=
  fun _ _ _ s _ _ => Node.fits_string s

theorem bool : Decoder.bool.YieldsFitting .bool := fun _ _ _ b _ _ => Node.fits_bool b

theorem number : Decoder.number.YieldsFitting Number.node := by
  intro o d room m hd hm
  obtain ⟨j, hj, hm⟩ := bind_eq_ok hm
  cases j with
  | number m' =>
    cases hm
    exact Node.fits_number (within_of_settled hd hj).1
  | _ => cases hm

theorem value : Decoder.value.YieldsFitting fun v => v.tree.node := by
  intro o d room v hd hv
  obtain ⟨j, hj, rfl⟩ := map_eq_ok hv
  obtain ⟨hfaithful, hdepth⟩ := within_of_settled hd hj
  exact Json.fits_canonical hfaithful hdepth

theorem listOf (h : decoder.YieldsFitting write) :
    (Decoder.list decoder).YieldsFitting (Node.listOf write) := by
  intro o d room as hd has
  obtain ⟨hpos, hitems⟩ := Yields.list h o d room as hd has
  exact Node.fits_list hpos (List.forall_mem_map.2 hitems)

theorem strings : Decoder.strings.YieldsFitting Node.strings := listOf string

theorem oneOf {cases : List (String × Decoder α)}
    (h : ∀ c ∈ cases, c.2.Yields fun room a => (write a).Fits (room + 1)) :
    (Decoder.oneOf [] cases).YieldsFitting write := by
  intro o d room a hd ha
  obtain ⟨hpos, hfits⟩ := Yields.oneOf h o d room a hd ha
  rwa [Nat.sub_add_cancel hpos] at hfits

end YieldsFitting

end Decoder

/-! ## Fields -/

/-- Whatever the fields are taken from is within a depth. -/
def Cells.Within (room : Nat) : Cells → Prop
  | .named entries _ => Draft.WithinEntries room entries
  | .placed items _ => Draft.WithinItems room items

theorem Cells.within_entryNamed {name : String} {room p : Nat} {d : Draft} :
    ∀ {i : Nat} {entries : List (Draft × Draft)}, Draft.WithinEntries room entries →
      Cells.entryNamed name i entries = some (p, d) → d.Within room
  | _, [], _, h => by cases h
  | i, (k, d') :: rest, hwithin, h => by
    unfold Cells.entryNamed at h
    split at h
    · split at h
      · cases h
        exact hwithin.1
      · exact Cells.within_entryNamed hwithin.2 h
    · exact Cells.within_entryNamed hwithin.2 h

theorem Cells.within_cell {name : String} {place room p : Nat} {d : Draft} {cells : Cells}
    (hcells : cells.Within room) (h : cells.cell name place = some (p, d)) : d.Within room := by
  cases cells with
  | named entries ending => exact Cells.within_entryNamed hcells h
  | placed items ending =>
    obtain ⟨d', hd', heq⟩ := Option.map_eq_some_iff.1 h
    cases heq
    exact Draft.withinItems_iff.1 hcells d (List.mem_of_getElem? hd')

theorem Found.both_eq_ok {α β : Type} {f : Found (α → β)} {r : Found α} {b : β}
    (h : Found.both f r = .ok b) : ∃ g a, f = .ok g ∧ r = .ok a ∧ g a = b := by
  cases f with
  | error e => cases r <;> cases h
  | ok g =>
    cases r with
    | error e => cases h
    | ok a => exact ⟨g, a, rfl, rfl, Except.ok.inj h⟩

theorem Found.both_eq_ok_iff {α β : Type} {f : Found (α → β)} {r : Found α} {b : β} :
    Found.both f r = .ok b ↔ ∃ g a, f = .ok g ∧ r = .ok a ∧ g a = b :=
  ⟨both_eq_ok, fun ⟨_, _, hf, hr, hb⟩ => hf ▸ hr ▸ hb ▸ rfl⟩

theorem Found.orEarlier_eq_ok {α : Type} {r : Found α} {x : Option (Nat × ReadError)} {a : α}
    (h : Found.orEarlier r x = .ok a) : r = .ok a := by
  cases x with
  | none => exact h
  | some e =>
    obtain ⟨g, a', hg, -, -⟩ := Found.both_eq_ok h
    cases hg

namespace Fields

variable {α β : Type} {r : Fields α} {P : Nat → α → Prop}

/-- Whatever the fields give has a property that depends on how deep the cells are. -/
def Yields (r : Fields α) (P : Nat → α → Prop) : Prop :=
  ∀ (o : Origin) (place : Nat) (cells : Cells) (room : Nat) (a : α), cells.Within room →
    r.take o place cells = .ok a → P room a

namespace Yields

theorem map {Q : Nat → β → Prop} {f : α → β} (h : r.Yields P)
    (hf : ∀ room a, P room a → Q room (f a)) : (f <$> r).Yields Q := by
  intro o place cells room b hcells hb
  obtain ⟨a, ha, rfl⟩ := map_eq_ok hb
  exact hf room a (h o place cells room a hcells ha)

theorem seq {r : Fields (α → β)} {s : Fields α} {Q : Nat → β → Prop}
    (hr : r.Yields fun room f => ∀ a, P room a → Q room (f a)) (hs : s.Yields P) :
    (r <*> s).Yields Q := by
  intro o place cells room b hcells hb
  obtain ⟨g, a, hg, ha, rfl⟩ := Found.both_eq_ok hb
  exact hr o place cells room g hcells hg a (hs o _ cells room a hcells ha)

theorem field {name : String} {decoder : Decoder α} {absent : Option α} (h : decoder.Yields P)
    (habsent : ∀ room, ∀ a ∈ absent, P room a) : (Fields.field name decoder absent).Yields P := by
  intro o place cells room a hcells ha
  simp only [Fields.field] at ha
  split at ha
  · next p d hcell => exact h o d room a (Cells.within_cell hcells hcell) (mapError_eq_ok ha)
  · split at ha
    · cases ha
    · cases ha
      exact habsent room a rfl
    · cases ha

theorem required {name : String} {decoder : Decoder α} {write : α → Node}
    (h : decoder.YieldsFitting write) : (Fields.required name decoder).Yields fun room a =>
      Node.FitsEntries room (Node.member name (write a)) := by
  refine field (fun o d room a hd ha => ?_) nofun
  exact Node.fitsEntries_member (h o d room a hd ha)

/-- A field that may be absent or `null`: what is there comes from something else than `null`. -/
theorem optional_of_ne_null {name : String} {decoder : Decoder α}
    (h : ∀ o d room a, d ≠ .null → d.Within room → decoder o d = .ok a → P room a) :
    (Fields.optional name decoder).Yields fun room v => ∀ a ∈ v, P room a := by
  refine field (fun o d room v hd hv => ?_) fun room v hv => ?_
  · unfold Decoder.optional at hv
    split at hv
    · cases hv
      exact nofun
    · next hne =>
      obtain ⟨a, ha, rfl⟩ := map_eq_ok hv
      rintro _ ⟨⟩
      exact h o d room a hne hd ha
  · cases hv
    exact nofun

/-- A field that may be absent, with a value that is written no deeper than some bound. -/
theorem optional_of_fits {name : String} {decoder : Decoder α} {write : α → Node}
    {bound : Nat → Nat} (h : decoder.Yields fun room a => (write a).Fits (bound room)) :
    (Fields.optional name decoder).Yields fun room v =>
      Node.FitsEntries (bound room) (Node.optional name write v) := by
  intro o place cells room v hcells hv
  refine Node.fitsEntries_optional ?_
  exact optional_of_ne_null (fun o d room a _ => h o d room a) o place cells room v hcells hv

theorem optional {name : String} {decoder : Decoder α} {write : α → Node}
    (h : decoder.YieldsFitting write) : (Fields.optional name decoder).Yields fun room v =>
      Node.FitsEntries room (Node.optional name write v) := optional_of_fits h

/-- A field that may be absent, with a value that has a property of its own. -/
theorem optional_and {name : String} {decoder : Decoder α} {write : α → Node} {Q : α → Prop}
    (h : decoder.Yields fun room a => (write a).Fits room ∧ Q a) :
    (Fields.optional name decoder).Yields fun room v =>
      Node.FitsEntries room (Node.optional name write v) ∧ ∀ a ∈ v, Q a := by
  intro o place cells room v hcells hv
  have hvalue : ∀ a ∈ v, (write a).Fits room ∧ Q a :=
    optional_of_ne_null (fun o d room a _ => h o d room a) o place cells room v hcells hv
  exact ⟨Node.fitsEntries_optional fun a ha => (hvalue a ha).1, fun a ha => (hvalue a ha).2⟩

theorem takeNamed (h : r.Yields P) {passOver : Draft → Option ReadError} {o : Origin}
    {entries : List (Draft × Draft)} {ending : Ending} {room : Nat} {a : α}
    (hentries : Draft.WithinEntries room entries)
    (ha : Fields.takeNamed r passOver o entries ending = .ok a) : P room a :=
  h o 0 (.named entries ending) room a hentries
    (Found.orEarlier_eq_ok (Found.orEarlier_eq_ok ha))

end Yields

end Fields

namespace Decoder.Yields

variable {α β : Type} {r : Fields α} {P : Nat → α → Prop}

theorem record (h : r.Yields P) : r.record.Yields fun room a => 0 < room ∧ P (room - 1) a := by
  intro o d room a hd ha
  cases d with
  | object entries ending => exact ⟨hd.1, h.takeNamed hd.2 (mapError_eq_ok ha)⟩
  | array items ending =>
    obtain ⟨a', ha', hrest⟩ := bind_eq_ok ha
    have hresult : a' = a := by
      split at hrest
      · cases hrest
      · split at hrest
        · exact Except.ok.inj hrest
        · cases hrest
    exact ⟨hd.1, hresult ▸ h o 0 (.placed items ending) (room - 1) a' hd.2 (mapError_eq_ok ha')⟩
  | _ => cases ha

/-- What the fields give has a property of the record around them. -/
theorem record_succ (h : r.Yields fun room a => P (room + 1) a) : r.record.Yields P := by
  intro o d room a hd ha
  obtain ⟨hpos, hrecord⟩ := record h o d room a hd ha
  rwa [Nat.sub_add_cancel hpos] at hrecord

end Decoder.Yields

namespace Decoder.YieldsFitting

variable {α : Type} {r : Fields α}

theorem record {entries : α → List (String × Node)}
    (h : r.Yields fun room a => Node.FitsEntries room (entries a)) :
    r.record.YieldsFitting fun a => .record (entries a) := by
  intro o d room a hd ha
  obtain ⟨hpos, hentries⟩ := Yields.record h o d room a hd ha
  exact Node.fits_record hpos hentries

end Decoder.YieldsFitting

/-! ## Open parts -/

section OpenPart

variable {α β : Type} {r : Fields α} {P : Nat → α → Prop} {Q : Nat → β → Prop}

/-- Whatever a part accepts has a property that depends on how deep its entries are. -/
def PartYields (part : List (String × Json) → Except ReadError β) (Q : Nat → β → Prop) : Prop :=
  ∀ (js : List (String × Json)) (room : Nat) (b : β), Json.FaithfulEntries js →
    Json.depthOfEntries js ≤ room → part js = .ok b → Q room b

theorem PartYields.within (h : r.Yields P) : PartYields r.within P := by
  intro js room a hfaithful hdepth ha
  exact h.takeNamed (Draft.withinEntries_draftEntries hfaithful hdepth) (mapError_eq_ok ha)

theorem PartYields.caseWithin {cases : List (String × Decoder α)}
    (h : ∀ c ∈ cases, c.2.Yields P) : PartYields (Decoder.caseWithin cases) P := by
  intro js room a hfaithful hdepth ha
  induction js with
  | nil => cases ha
  | cons e rest ih =>
    obtain ⟨name, j⟩ := e
    obtain ⟨hj, hrest⟩ := max_le_iff.1 hdepth
    rw [Decoder.caseWithin] at ha
    split at ha
    · next decoder hcase =>
      exact Decoder.Yields.caseNamed h hcase .buffered j.draft room a
        (Draft.within_draft hfaithful.1 hj) ha
    · exact ih hfaithful.2 hrest ha

theorem Fields.within_openEntries {names : List String} {room : Nat} :
    ∀ {entries : List (Draft × Draft)} {js : List (String × Json)},
      Draft.WithinEntries room entries → Fields.openEntries names entries = .ok js →
        Json.FaithfulEntries js ∧ Json.depthOfEntries js ≤ room ∧ ∀ e ∈ js, e.1 ∉ names
  | [], _, _, h => by
    cases h
    exact ⟨trivial, Nat.zero_le room, nofun⟩
  | (k, d) :: rest, _, hwithin, h => by
    obtain ⟨name, -, h⟩ := bind_eq_ok h
    split at h
    · exact Fields.within_openEntries hwithin.2 h
    · next hname =>
      obtain ⟨j, hj, h⟩ := bind_eq_ok h
      obtain ⟨js, hjs, hcons⟩ := bind_eq_ok h
      cases hcons
      obtain ⟨hfaithful, hdepth⟩ := Decoder.within_of_settled hwithin.1 hj
      obtain ⟨hfaithfuls, hdepths, hnames⟩ := Fields.within_openEntries hwithin.2 hjs
      refine ⟨⟨hfaithful, hfaithfuls⟩, max_le hdepth hdepths, ?_⟩
      exact List.forall_mem_cons.2 ⟨by simpa using hname, hnames⟩

theorem Decoder.Yields.withOpenPart {part : List (String × Json) → Except ReadError β}
    (h : r.Yields P) (hpart : ∀ js room b, Json.FaithfulEntries js →
      Json.depthOfEntries js ≤ room → (∀ e ∈ js, e.1 ∉ r.names) → part js = .ok b → Q room b) :
    (r.withOpenPart part).Yields fun room ab =>
      0 < room ∧ P (room - 1) ab.1 ∧ Q (room - 1) ab.2 := by
  intro o d room ab hd hab
  cases d with
  | object entries ending =>
    obtain ⟨a, ha, hab⟩ := bind_eq_ok hab
    obtain ⟨js, hjs, hab⟩ := bind_eq_ok hab
    obtain ⟨b, hb, hpair⟩ := bind_eq_ok hab
    cases hpair
    obtain ⟨hfaithful, hdepth, hnames⟩ := Fields.within_openEntries hd.2 hjs
    exact ⟨hd.1, h.takeNamed hd.2 (mapError_eq_ok ha),
      hpart js (room - 1) b hfaithful hdepth hnames hb⟩
  | _ => cases hab

end OpenPart

end SearchRequest
