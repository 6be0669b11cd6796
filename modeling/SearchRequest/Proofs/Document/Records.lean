import SearchRequest.Proofs.Document.Reads

/-!
# Records that read what is written

* `Fields.Reads` — fields give a value for the entries of a written record, whatever other entries
  stand among them.
* `PartReads` — a part of a record gives a value for its entries.
* `Decoder.Reads.record`, `Decoder.Reads.withOpenPart` — a record is read if its fields, and the
  part that is made of its other entries, are.
* `PartReads.within`, `PartReads.caseWithin` — the two kinds of such a part.
-/

namespace SearchRequest

variable {α β : Type}

/-! ## Cells -/

theorem OkWhen.both {c c' : Prop} {f : Found (α → β)} {g : α → β} {r : Found α} {a : α}
    (hf : OkWhen c f g) (hr : OkWhen c' r a) : OkWhen (c ∧ c') (Found.both f r) (g a) := by
  by_cases hc : c
  · by_cases hc' : c'
    · rw [hf.1 hc, hr.1 hc']
      exact .ok ⟨hc, hc'⟩
    · obtain ⟨e, he⟩ := hr.2 hc'
      rw [hf.1 hc, he]
      exact .error fun h => hc' h.2
  · obtain ⟨e, he⟩ := hf.2 hc
    rw [he]
    cases r <;> exact .error fun h => hc h.1

theorem Found.orEarlier_error (e : Nat × ReadError) (x : Option (Nat × ReadError)) :
    ∃ e', Found.orEarlier (.error e : Found α) x = .error e' := by
  cases x <;> exact ⟨_, rfl⟩

theorem OkWhen.orEarlier {c : Prop} {r : Found α} {a : α} {x : Option (Nat × ReadError)}
    (hr : OkWhen c r a) (hx : c → x = none) : OkWhen c (Found.orEarlier r x) a := by
  refine ⟨fun hc => ?_, fun hc => ?_⟩
  · rw [hx hc, hr.1 hc]
    rfl
  · obtain ⟨e, he⟩ := hr.2 hc
    rw [he]
    exact Found.orEarlier_error e x

theorem Cells.entryNamed_draftEntriesWithin (name : String) (room i : Nat)
    (js : List (String × Json)) : ∃ p,
      Cells.entryNamed name i (Json.draftEntriesWithin room js) =
        (Json.lookup name js).map fun j => (p, j.draftWithin room) := by
  induction js generalizing i with
  | nil => exact ⟨i, rfl⟩
  | cons e rest ih =>
    obtain ⟨k, j⟩ := e
    by_cases h : k = name
    · exact ⟨i, by simp [Json.draftEntriesWithin, Cells.entryNamed, Json.lookup, h]⟩
    · obtain ⟨p, hp⟩ := ih (i + 1)
      exact ⟨p, by simpa [Json.draftEntriesWithin, Cells.entryNamed, Json.lookup, h] using hp⟩

/-! ## Fields -/

/-- Entries have the same values under some names, up to the order of entries in these. -/
def Json.AgreeOn (names : List String) (is js : List (String × Json)) : Prop :=
  ∀ k ∈ names, (Json.lookup k js).map Json.canonical = (Json.lookup k is).map Json.canonical

/-- No value under some names is too deep. -/
def Json.ShallowOn (names : List String) (room : Nat) (js : List (String × Json)) : Prop :=
  ∀ k ∈ names, ∀ j, Json.lookup k js = some j → j.depth ≤ room

namespace Fields

variable {r : Fields α} {es : List (String × Node)} {a : α}

/-- Fields give a value for the entries of a written record, whatever entries under other names
stand among them. -/
structure Takes (r : Fields α) (es : List (String × Node)) (a : α) : Prop where
  /-- No key is repeated. -/
  nodup : (Json.keys es).Nodup
  /-- Every key is one of a field. -/
  names : ∀ k ∈ Json.keys es, k ∈ r.names
  /-- No object in a value repeats a key. -/
  distinct : ∀ e ∈ es, e.2.toJson.Distinct
  /-- The value is found. -/
  take : ∀ (o : Origin) (place : Nat) (js : List (String × Json)) (room : Nat),
    (∀ e ∈ js, e.2.Distinct) → Json.AgreeOn r.names (Node.entriesToJson es) js →
      OkWhen (Json.ShallowOn r.names room js)
        (r.take o place (.named (Json.draftEntriesWithin room js) .closed)) a

/-- Fields with names of their own give a value for the entries of a written record. -/
def Reads (r : Fields α) (es : List (String × Node)) (a : α) : Prop :=
  r.names.Nodup → Node.FaithfulEntries es → r.Takes es a

namespace Reads

theorem map (h : r.Reads es a) (f : α → β) : (f <$> r).Reads es (f a) := by
  intro hnames hes
  obtain ⟨hnodup, hkeys, hdistinct, htake⟩ := h hnames hes
  exact ⟨hnodup, hkeys, hdistinct, fun o place js room hjs hagree =>
    (htake o place js room hjs hagree).map f⟩

theorem faithful_append {es fs : List (String × Node)} (h : Node.FaithfulEntries (es ++ fs)) :
    Node.FaithfulEntries es ∧ Node.FaithfulEntries fs := by
  simp only [Node.faithfulEntries_iff] at h ⊢
  exact List.forall_mem_append.1 h

/-- Fields followed by more fields read the entries of both. -/
theorem seq {r : Fields (α → β)} {s : Fields α} {es fs : List (String × Node)} {g : α → β}
    (hr : r.Reads es g) (hs : s.Reads fs a) : (r <*> s).Reads (es ++ fs) (g a) := by
  intro hnames hfaithful
  obtain ⟨hrnames, hsnames, hdisjoint⟩ := List.nodup_append'.1 hnames
  obtain ⟨hes, hfs⟩ := faithful_append hfaithful
  have htr := hr hrnames hes
  have hts := hs hsnames hfs
  have hlookup : ∀ k, Json.lookup k (Node.entriesToJson (es ++ fs)) =
      (Json.lookup k (Node.entriesToJson es)).or (Json.lookup k (Node.entriesToJson fs)) := by
    intro k
    rw [Node.entriesToJson_append, Json.lookup_append]
  refine ⟨?_, ?_, ?_, fun o place js room hjs hagree => ?_⟩
  · rw [Json.keys_append]
    refine List.nodup_append'.2 ⟨htr.nodup, hts.nodup, fun k hk hk' => ?_⟩
    exact hdisjoint (htr.names k hk) (hts.names k hk')
  · intro k hk
    rw [Json.keys_append] at hk
    exact List.mem_append.2 ((List.mem_append.1 hk).imp (htr.names k) (hts.names k))
  · exact List.forall_mem_append.2 ⟨htr.distinct, hts.distinct⟩
  · have hr' : Json.AgreeOn r.names (Node.entriesToJson es) js := by
      intro k hk
      have hnone : Json.lookup k (Node.entriesToJson fs) = none := by
        rw [Json.lookup_eq_none_iff, Node.keys_entriesToJson]
        exact fun hk' => hdisjoint hk (hts.names k hk')
      rw [hagree k (List.mem_append_left _ hk), hlookup, hnone, Option.or_none]
    have hs' : Json.AgreeOn s.names (Node.entriesToJson fs) js := by
      intro k hk
      have hnone : Json.lookup k (Node.entriesToJson es) = none := by
        rw [Json.lookup_eq_none_iff, Node.keys_entriesToJson]
        exact fun hk' => hdisjoint (htr.names k hk') hk
      rw [hagree k (List.mem_append_right _ hk), hlookup, hnone, Option.none_or]
    exact ((htr.take o place js room hjs hr').both
      (hts.take o (place + r.names.length) js room hjs hs')).congr List.forall_mem_append

/-- A field that is there. -/
theorem present {name : String} {decoder : Decoder α} {absent : Option α} {n : Node}
    (h : decoder.Reads n a) : (field name decoder absent).Reads (Node.member name n) a := by
  intro _ hfaithful
  obtain ⟨hdistinct, hread⟩ := h hfaithful.1
  refine ⟨List.nodup_singleton _, fun k hk => hk, ?_, fun o place js room hjs hagree => ?_⟩
  · exact List.forall_mem_singleton.2 hdistinct
  · have hname := hagree name (List.mem_singleton_self _)
    simp only [Node.member, Node.entriesToJson, Json.lookup, if_true, Option.map_some] at hname
    obtain ⟨j, hj, hcanonical⟩ := Option.map_eq_some_iff.1 hname
    have hwrites : n.Writes j := ⟨hjs _ (Json.mem_of_lookup hj), hcanonical⟩
    obtain ⟨p, hp⟩ := Cells.entryNamed_draftEntriesWithin name room 0 js
    simp only [field, Cells.cell, hp, hj, Option.map_some]
    refine ((hread o j room hwrites).mapError _).congr ?_
    simp [Json.ShallowOn, hj]

/-- A field that may be absent and is. -/
theorem absent {name : String} {decoder : Decoder α} :
    (field name decoder (some a)).Reads [] a := by
  intro _ _
  refine ⟨List.nodup_nil, nofun, nofun, fun o place js room _ hagree => ?_⟩
  have hname := hagree name (List.mem_singleton_self _)
  rw [Node.entriesToJson, Json.lookup, Option.map_none, Option.map_eq_none_iff] at hname
  obtain ⟨p, hp⟩ := Cells.entryNamed_draftEntriesWithin name room 0 js
  simp only [field, Cells.cell, hp, hname, Option.map_none, Cells.brokenOff?]
  refine .ok fun k hk j hj => ?_
  rw [List.mem_singleton.1 hk, hname] at hj
  cases hj

theorem required {name : String} {decoder : Decoder α} {n : Node} (h : decoder.Reads n a) :
    (Fields.required name decoder).Reads (Node.member name n) a := present h

/-- A field that may be absent, if no value of it is written as `null`. -/
theorem optional_of_ne_null {name : String} {decoder : Decoder α} {write : α → Node}
    {v : Option α} (h : ∀ a ∈ v, decoder.Reads (write a) a)
    (hnull : ∀ a ∈ v, (write a).Faithful → (write a).toJson ≠ .null) :
    (Fields.optional name decoder).Reads (Node.optional name write v) v := by
  cases v with
  | none => exact absent
  | some a =>
    refine present fun hfaithful => ?_
    obtain ⟨hdistinct, hread⟩ := h a rfl hfaithful
    refine ⟨hdistinct, fun o j room hj => ?_⟩
    have hne : j.draftWithin room ≠ .null := by
      intro heq
      rw [Json.eq_null_of_draftWithin heq] at hj
      exact hnull a rfl hfaithful hj.eq_null
    have hsome : Decoder.optional decoder o (j.draftWithin room) =
        (decoder o (j.draftWithin room)).map some := by
      generalize j.draftWithin room = d at hne
      cases d <;> first | rfl | exact absurd rfl hne
    rw [hsome]
    exact (hread o j room hj).map some

/-- A field that may be absent, with a decoder for more than `null`. -/
theorem optional_of_mem {name : String} {decoder : Decoder α} {write : α → Node} {v : Option α}
    (h : ∀ a ∈ v, decoder.Reads (write a) a) (hnull : decoder.RefusesNull) :
    (Fields.optional name decoder).Reads (Node.optional name write v) v :=
  optional_of_ne_null h fun a ha => (h a ha).ne_null hnull

theorem optional {name : String} {decoder : Decoder α} {write : α → Node} {v : Option α}
    (h : ∀ a, decoder.Reads (write a) a) (hnull : decoder.RefusesNull) :
    (Fields.optional name decoder).Reads (Node.optional name write v) v :=
  optional_of_mem (fun a _ => h a) hnull

end Reads

/-! ## Objects -/

variable {names : List String} {room : Nat}

theorem strayError_draftEntriesWithin {passOver : Draft → Option ReadError} :
    ∀ {js : List (String × Json)} {seen : List String} {i : Nat}, (Json.keys js).Nodup →
      (∀ k ∈ Json.keys js, k ∉ seen) →
      (∀ e ∈ js, e.1 ∉ names → passOver (e.2.draftWithin room) = none) →
      strayError names passOver seen i (Json.draftEntriesWithin room js) = none
  | [], _, _, _, _, _ => rfl
  | (k, j) :: rest, seen, i, hnodup, hseen, hpass => by
    obtain ⟨hk, hrest⟩ := List.nodup_cons.1 hnodup
    obtain ⟨hkseen, hrestseen⟩ := List.forall_mem_cons.1 hseen
    obtain ⟨hjpass, hrestpass⟩ := List.forall_mem_cons.1 hpass
    simp only [Json.draftEntriesWithin, strayError, Draft.key, List.contains_iff_mem]
    by_cases hmem : k ∈ names
    · rw [if_pos hmem, if_neg hkseen]
      refine strayError_draftEntriesWithin hrest (fun k' hk' => ?_) hrestpass
      refine List.not_mem_cons_of_ne_of_not_mem ?_ (hrestseen k' hk')
      rintro rfl
      exact hk hk'
    · rw [if_neg hmem, hjpass hmem]
      exact strayError_draftEntriesWithin hrest hrestseen hrestpass

/-- The fields are taken from an object if the other entries can be passed over. -/
theorem Takes.takeNamed {r : Fields α} {es : List (String × Node)} {a : α} (h : r.Takes es a)
    (passOver : Draft → Option ReadError) (o : Origin) (room : Nat) {js : List (String × Json)}
    (hnodup : (Json.keys js).Nodup) (hdistinct : ∀ e ∈ js, e.2.Distinct)
    (hagree : Json.AgreeOn r.names (Node.entriesToJson es) js)
    (hpass : ∀ e ∈ js, e.1 ∉ r.names → passOver (e.2.draftWithin room) = none) :
    OkWhen (Json.ShallowOn r.names room js)
      (takeNamed r passOver o (Json.draftEntriesWithin room js) .closed) a :=
  ((h.take o 0 js room hdistinct hagree).orEarlier fun _ => rfl).orEarlier fun _ =>
    strayError_draftEntriesWithin hnodup (fun _ _ => List.not_mem_nil) hpass

end Fields

theorem Json.shallowOn_iff {names : List String} {room : Nat} {js : List (String × Json)}
    (hnodup : (Json.keys js).Nodup) :
    Json.ShallowOn names room js ↔ ∀ e ∈ js, e.1 ∈ names → e.2.depth ≤ room := by
  constructor
  · intro h e he hname
    exact h e.1 hname e.2 ((Json.lookup_eq_some_iff hnodup).2 he)
  · intro h k hk j hj
    exact h (k, j) (Json.mem_of_lookup hj) hk

/-- An object is as deep as the entries under some names and the entries under others allow. -/
theorem Json.depth_object_le_iff {names : List String} {room : Nat} {js : List (String × Json)}
    (hnodup : (Json.keys js).Nodup) : (Json.object js).depth ≤ room + 1 ↔
      Json.ShallowOn names room js ∧ ∀ e ∈ js, e.1 ∉ names → e.2.depth ≤ room := by
  rw [Json.shallowOn_iff hnodup, Json.depth, Nat.add_le_add_iff_right, Json.depthOfEntries_le_iff]
  constructor
  · intro hle
    exact ⟨fun e he _ => hle e he, fun e he _ => hle e he⟩
  · rintro ⟨hnamed, hothers⟩ e he
    by_cases hmem : e.1 ∈ names
    · exact hnamed e he hmem
    · exact hothers e he hmem

theorem Node.distinct_record {es : List (String × Node)} (hnodup : (Json.keys es).Nodup)
    (hdistinct : ∀ e ∈ es, e.2.toJson.Distinct) : (Node.record es).toJson.Distinct := by
  refine ⟨?_, Json.distinctEntries_iff.2 ?_⟩
  · rwa [Node.keys_entriesToJson]
  · rw [Node.entriesToJson_eq_map]
    exact List.forall_mem_map.2 hdistinct

/-- The entries of a record agree with those that are added to others under other names. -/
theorem Node.WritesEntries.agreeOn {names : List String} {es fs : List (String × Node)}
    {js : List (String × Json)} (h : Node.WritesEntries (es ++ fs) js)
    (hfs : ∀ k ∈ Json.keys fs, k ∉ names) : Json.AgreeOn names (Node.entriesToJson es) js := by
  intro k hk
  have hnone : Json.lookup k (Node.entriesToJson fs) = none := by
    rw [Json.lookup_eq_none_iff, Node.keys_entriesToJson]
    exact fun hmem => hfs k hmem hk
  rw [h.lookup, Node.entriesToJson_append, Json.lookup_append, hnone, Option.or_none]

/-- What is added to the entries of a record under other names is what they leave over. -/
theorem Node.WritesEntries.leftOver {names : List String} {es fs : List (String × Node)}
    {js : List (String × Json)} (h : Node.WritesEntries (es ++ fs) js)
    (hes : ∀ k ∈ Json.keys es, k ∈ names) (hfs : ∀ k ∈ Json.keys fs, k ∉ names) :
    Node.WritesEntries fs (js.filter fun e => !names.contains e.1) := by
  have hfilter : (es ++ fs).filter (fun e => !names.contains e.1) = fs := by
    rw [List.filter_append, List.filter_eq_nil_iff.2, List.filter_eq_self.2, List.nil_append]
    · exact fun e he => by simpa using hfs e.1 (List.mem_map_of_mem he)
    · exact fun e he => by simpa using hes e.1 (List.mem_map_of_mem he)
  exact hfilter ▸ h.filter fun k => !names.contains k

namespace Decoder.Reads

variable {r : Fields α} {es : List (String × Node)} {a : α}

/-- A record is read if its fields are. -/
theorem record (hnames : r.names.Nodup) (h : r.Reads es a) : r.record.Reads (.record es) a := by
  intro hn
  have ht := h hnames hn
  refine ⟨Node.distinct_record ht.nodup ht.distinct, fun o j room hj => ?_⟩
  obtain ⟨js, rfl, hjs⟩ := hj.record ht.nodup
  have hkeys : ∀ e ∈ js, e.1 ∈ r.names := fun e he =>
    ht.names e.1 (hjs.keys_perm.mem_iff.1 (List.mem_map_of_mem he))
  cases room with
  | zero => exact .error (by simp [Json.depth])
  | succ room =>
    have hagree : Json.AgreeOn r.names (Node.entriesToJson es) js := fun k _ => hjs.lookup k
    have htaken := ht.takeNamed (fun d => d.skipFault.map ReadError.ofFault) o room hjs.nodup
      hjs.distinct hagree (fun e he hname => absurd (hkeys e he) hname)
    refine (htaken.mapError _).congr ?_
    rw [Json.depth_object_le_iff hjs.nodup, and_iff_left]
    exact fun e he hname => absurd (hkeys e he) hname

end Decoder.Reads

/-! ## Open parts -/

/-- A part of a record gives a value for its entries. -/
def PartReads (part : List (String × Json) → Except ReadError β) (es : List (String × Node))
    (b : β) : Prop :=
  Node.FaithfulEntries es → (Json.keys es).Nodup ∧ (∀ e ∈ es, e.2.toJson.Distinct) ∧
    ∀ js, Node.WritesEntries es js → part js = .ok b

theorem Json.draft_object (js : List (String × Json)) :
    (Json.object js).draft =
      .object (Json.draftEntriesWithin (Json.depthOfEntries js) js) .closed := by
  rw [Json.draft, Json.draftEntriesWithin_of_depth_le (Nat.le_refl _)]

/-- Fields are read among entries that belong to others. -/
theorem Fields.Reads.within {r : Fields α} {es fs : List (String × Node)} {a : α}
    {js : List (String × Json)} (h : r.Reads es a) (hnames : r.names.Nodup)
    (hes : Node.FaithfulEntries es) (hfs : ∀ k ∈ Json.keys fs, k ∉ r.names)
    (hjs : Node.WritesEntries (es ++ fs) js) : r.within js = .ok a := by
  have htaken := (h hnames hes).takeNamed (fun d => d.skipFault.map ReadError.ofFault) .buffered
    (Json.depthOfEntries js) hjs.nodup hjs.distinct (hjs.agreeOn hfs)
    (fun e _ _ => by rw [Json.skipFault_draftWithin]; rfl)
  rw [Fields.within, Json.draft_object]
  refine (htaken.mapError _).1 ((Json.shallowOn_iff hjs.nodup).2 fun e he _ => ?_)
  exact Json.depthOfEntries_le_iff.1 (Nat.le_refl _) e he

/-- A part that is a record of its own. -/
theorem PartReads.within {r : Fields α} {es : List (String × Node)} {a : α} (h : r.Reads es a)
    (hnames : r.names.Nodup) : PartReads r.within es a := by
  intro hes
  have ht := h hnames hes
  refine ⟨ht.nodup, ht.distinct, fun js hjs => ?_⟩
  rw [← List.append_nil es] at hjs
  exact h.within hnames hes (fun _ hk => absurd hk List.not_mem_nil) hjs

theorem Decoder.caseWithin_eq {cases : List (String × Decoder α)} {decoder : Decoder α}
    {name : String} {a : α} (hcase : Decoder.caseNamed? name cases = some decoder) :
    ∀ {js : List (String × Json)}, name ∈ Json.keys js →
      (∀ j, (name, j) ∈ js → decoder .buffered j.draft = .ok a) →
      (∀ k ∈ Json.keys js, k ≠ name → Decoder.caseNamed? k cases = none) →
      Decoder.caseWithin cases js = .ok a
  | [], hname, _, _ => absurd hname List.not_mem_nil
  | (k, j) :: rest, hname, hread, hothers => by
    by_cases hk : k = name
    · subst hk
      rw [Decoder.caseWithin, hcase]
      exact hread j List.mem_cons_self
    · obtain ⟨hnone, hrest⟩ := List.forall_mem_cons.1 hothers
      rw [Decoder.caseWithin, hnone hk]
      refine Decoder.caseWithin_eq hcase ?_ (fun i hi => hread i (List.mem_cons_of_mem _ hi)) hrest
      exact (List.mem_cons.1 hname).resolve_left (Ne.symm hk)

/-- A case is found among entries whose keys name no case. -/
theorem Decoder.Reads.caseWithin {cases : List (String × Decoder α)} {decoder : Decoder α}
    {name : String} {body : Node} {es : List (String × Node)} {js : List (String × Json)} {a : α}
    (h : decoder.Reads body a) (hbody : body.Faithful)
    (hcase : Decoder.caseNamed? name cases = some decoder)
    (hes : ∀ k ∈ Json.keys es, Decoder.caseNamed? k cases = none)
    (hjs : Node.WritesEntries (es ++ [(name, body)]) js) :
    Decoder.caseWithin cases js = .ok a := by
  have hkeys : ∀ k, k ∈ Json.keys js ↔ k ∈ Json.keys es ∨ k = name := by
    intro k
    rw [hjs.keys_perm.mem_iff, Json.keys_append, List.mem_append]
    simp [Json.keys]
  have hname : name ∉ Json.keys es := by
    intro hmem
    rw [hes name hmem] at hcase
    cases hcase
  refine Decoder.caseWithin_eq hcase ((hkeys name).2 (.inr rfl)) (fun j hj => ?_) fun k hk hne => ?_
  · refine h.draft hbody .buffered ⟨hjs.distinct _ hj, ?_⟩
    have hnone : Json.lookup name (Node.entriesToJson es) = none := by
      rw [Json.lookup_eq_none_iff, Node.keys_entriesToJson]
      exact hname
    have hlookup := hjs.lookup name
    rw [(Json.lookup_eq_some_iff hjs.nodup).2 hj, Node.entriesToJson_append, Json.lookup_append,
      hnone, Option.none_or, Node.entriesToJson, Json.lookup, if_pos rfl] at hlookup
    exact Option.some.inj hlookup
  · exact hes k (((hkeys k).1 hk).resolve_right hne)

/-- A part that is one case. -/
theorem PartReads.caseWithin {cases : List (String × Decoder α)} {decoder : Decoder α}
    {name : String} {body : Node} {a : α} (h : decoder.Reads body a)
    (hcase : Decoder.caseNamed? name cases = some decoder) :
    PartReads (Decoder.caseWithin cases) [(name, body)] a := by
  intro hfaithful
  obtain ⟨hdistinct, -⟩ := h hfaithful.1
  refine ⟨List.nodup_singleton _, List.forall_mem_singleton.2 hdistinct, fun js hjs => ?_⟩
  rw [← List.nil_append [(name, body)]] at hjs
  exact h.caseWithin hfaithful.1 hcase (fun _ hk => absurd hk List.not_mem_nil) hjs

theorem Fields.openEntries_draftEntriesWithin (names : List String) (room : Nat)
    (js : List (String × Json)) : OkWhen (∀ e ∈ js, e.1 ∉ names → e.2.depth ≤ room)
      (Fields.openEntries names (Json.draftEntriesWithin room js))
      (js.filter fun e => !names.contains e.1) := by
  induction js with
  | nil => exact .ok fun e he => absurd he List.not_mem_nil
  | cons e rest hrest =>
    obtain ⟨k, j⟩ := e
    simp only [List.forall_mem_cons]
    by_cases hk : k ∈ names
    · rw [List.filter_cons_of_neg (by simpa using hk)]
      have hopen : Fields.openEntries names (Json.draftEntriesWithin room ((k, j) :: rest)) =
          Fields.openEntries names (Json.draftEntriesWithin room rest) := by
        simp [Json.draftEntriesWithin, Fields.openEntries, Draft.key, Except.mapError, bind,
          Except.bind, hk]
      rw [hopen]
      exact hrest.congr (and_iff_right fun hnot => absurd hk hnot)
    · rw [List.filter_cons_of_pos (by simpa using hk)]
      have hopen : Fields.openEntries names (Json.draftEntriesWithin room ((k, j) :: rest)) =
          (do
            let i ← Decoder.settled (j.draftWithin room)
            let is ← Fields.openEntries names (Json.draftEntriesWithin room rest)
            .ok ((k, i) :: is)) := by
        simp [Json.draftEntriesWithin, Fields.openEntries, Draft.key, Except.mapError, bind,
          Except.bind, hk]
      rw [hopen]
      refine ((Json.settled_draftWithin room j).bind (hrest.bind_ok ((k, j) :: ·))).congr ?_
      exact and_congr_left fun _ => forall_prop_of_true hk

/-- A record some part of which is made of its other entries is read if its fields and the part
are, whatever the order in which both are written. -/
theorem Decoder.Reads.withOpenPart {r : Fields α} {part : List (String × Json) → Except ReadError β}
    {es fs full : List (String × Node)} {a : α} {b : β} (hnames : r.names.Nodup)
    (h : r.Reads es a) (hpart : PartReads part fs b) (hfull : full.Perm (es ++ fs))
    (hfs : ∀ k ∈ Json.keys fs, k ∉ r.names) :
    (r.withOpenPart part).Reads (.record full) (a, b) := by
  intro hn
  have hfaithful : Node.FaithfulEntries (es ++ fs) :=
    Node.faithfulEntries_iff.2 fun e he =>
      Node.faithfulEntries_iff.1 hn e (hfull.mem_iff.2 he)
  obtain ⟨hes, hfs'⟩ := Fields.Reads.faithful_append hfaithful
  have ht := h hnames hes
  obtain ⟨hfsnodup, hfsdistinct, hread⟩ := hpart hfs'
  have hnodup : (Json.keys full).Nodup := by
    refine (hfull.map Prod.fst).nodup_iff.2 ?_
    rw [List.map_append]
    exact List.nodup_append'.2 ⟨ht.nodup, hfsnodup, fun k hk hk' => hfs k hk' (ht.names k hk)⟩
  have hdistinct : ∀ e ∈ full, e.2.toJson.Distinct := fun e he =>
    List.forall_mem_append.2 ⟨ht.distinct, hfsdistinct⟩ e (hfull.mem_iff.1 he)
  refine ⟨Node.distinct_record hnodup hdistinct, fun o j room hj => ?_⟩
  obtain ⟨js, rfl, hjs⟩ := hj.record hnodup
  cases room with
  | zero => exact .error (by simp [Json.depth])
  | succ room =>
    have hwrites : Node.WritesEntries (es ++ fs) js := hjs.of_perm hfull
    have hopen := Fields.openEntries_draftEntriesWithin r.names room js
    have hrest : part (js.filter fun e => !r.names.contains e.1) = .ok b :=
      hread _ (hwrites.leftOver ht.names hfs)
    rw [Json.depth_object_le_iff hjs.nodup]
    by_cases hshallow : ∀ e ∈ js, e.1 ∉ r.names → e.2.depth ≤ room
    · have hpart : OkWhen True (part (js.filter fun e => !r.names.contains e.1)) b := by
        rw [hrest]
        exact .ok trivial
      rw [← and_true (∀ e ∈ js, e.1 ∉ r.names → e.2.depth ≤ room)]
      refine ((ht.takeNamed _ o room hjs.nodup hjs.distinct (hwrites.agreeOn hfs) ?_).mapError
        Prod.snd).bind (hopen.bind (hpart.bind_ok (a, ·)))
      intro e he hname
      rw [(Json.settled_draftWithin room e.2).1 (hshallow e he hname)]
    -- Whichever error comes first, the entries that are held cannot all be settled.
    · refine ⟨fun hle => absurd hle.2 hshallow, fun _ => ?_⟩
      obtain ⟨e, he⟩ := hopen.2 hshallow
      exact exists_error_bind fun a' => ⟨e, by rw [he]; rfl⟩

/-! ## Missing fields -/

theorem Fields.takeNamed_required_eq_error {name : String} {decoder : Decoder α}
    {passOver : Draft → Option ReadError} {o : Origin} {js : List (String × Json)}
    (h : name ∉ Json.keys js) : ∃ e, Fields.takeNamed (Fields.required name decoder) passOver o
      (Json.draftEntries js) .closed = .error e := by
  obtain ⟨p, hp⟩ := Cells.entryNamed_draftEntriesWithin name (Json.depthOfEntries js) 0 js
  rw [Json.draftEntriesWithin_of_depth_le (Nat.le_refl _), Json.lookup_eq_none_iff.2 h] at hp
  simp only [Fields.takeNamed, Fields.required, Fields.field, Cells.cell, hp, Option.map_none,
    Cells.brokenOff?]
  obtain ⟨e, he⟩ := Found.orEarlier_error (α := α)
    (Cells.missing 0 (.named (Json.draftEntries js) .closed)) none
  rw [Ending.fault?, Option.map_none, he]
  exact Found.orEarlier_error e _

/-- A record is refused if a required field is missing. -/
theorem Decoder.Refuses.record {name : String} {decoder : Decoder α}
    {es : List (String × Node)} (hnodup : (Json.keys es).Nodup) (h : name ∉ Json.keys es) :
    (Fields.required name decoder).record.Refuses (.record es) := by
  intro j hj
  obtain ⟨js, rfl, hjs⟩ := hj.record hnodup
  have htaken : ∃ e, Fields.takeNamed (Fields.required name decoder)
      (fun d => d.skipFault.map ReadError.ofFault) .held (Json.draftEntries js) .closed =
        .error e :=
    Fields.takeNamed_required_eq_error fun hmem => h (hjs.keys_perm.mem_iff.1 hmem)
  obtain ⟨e, he⟩ := htaken
  exact ⟨e.2, by rw [Json.draft, Fields.record, he]; rfl⟩

theorem Decoder.Refuses.withOpenPart {name : String} {decoder : Decoder α}
    {part : List (String × Json) → Except ReadError β} {es : List (String × Node)}
    (hnodup : (Json.keys es).Nodup) (h : name ∉ Json.keys es) :
    ((Fields.required name decoder).withOpenPart part).Refuses (.record es) := by
  intro j hj
  obtain ⟨js, rfl, hjs⟩ := hj.record hnodup
  rw [Json.draft]
  simp only [Fields.withOpenPart]
  exact exists_error_mapError_bind
    (Fields.takeNamed_required_eq_error fun hmem => h (hjs.keys_perm.mem_iff.1 hmem))

end SearchRequest
