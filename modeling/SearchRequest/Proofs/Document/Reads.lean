import SearchRequest.Document.Query.Read
import SearchRequest.Proofs.Document.Written

/-!
# Decoders that read what is written

* `OkWhen` — a result that is a given value when a condition holds, and an error otherwise.
* `Decoder.Reads` — a decoder gives a value for the JSON of a written value, in whatever order the
  entries come, and fails where the JSON is cut because it is nested too deeply.
* `Decoder.Refuses` — a decoder gives no value for the JSON of a written value.
* `Decoder.Reads.listOf`, `Decoder.Reads.oneOf`, `Decoder.Reads.firstOf` and others — how these
  follow from the parts.
-/

namespace SearchRequest

/-! ## Results under a condition -/

section OkWhen

variable {ε ε' α β : Type} {c c' : Prop} {r : Except ε α} {a : α}

/-- A result that is a given value when a condition holds, and an error otherwise. -/
def OkWhen (c : Prop) (r : Except ε α) (a : α) : Prop :=
  (c → r = .ok a) ∧ (¬c → ∃ e, r = .error e)

theorem OkWhen.ok (h : c) : OkWhen c (.ok a : Except ε α) a := ⟨fun _ => rfl, fun hc => absurd h hc⟩

theorem OkWhen.error {e : ε} (h : ¬c) : OkWhen c (.error e) a :=
  ⟨fun hc => absurd hc h, fun _ => ⟨e, rfl⟩⟩

theorem OkWhen.congr (h : OkWhen c r a) (hc : c' ↔ c) : OkWhen c' r a :=
  ⟨fun hc' => h.1 (hc.1 hc'), fun hc' => h.2 fun h' => hc' (hc.2 h')⟩

theorem OkWhen.eq_ok_iff {b : α} (h : OkWhen c r a) : r = .ok b ↔ c ∧ b = a := by
  by_cases hc : c
  · rw [h.1 hc, Except.ok.injEq, and_iff_right hc, eq_comm]
  · obtain ⟨e, he⟩ := h.2 hc
    rw [he]
    exact iff_of_false nofun fun hb => hc hb.1

theorem OkWhen.map (h : OkWhen c r a) (f : α → β) : OkWhen c (r.map f) (f a) := by
  refine ⟨fun hc => ?_, fun hc => ?_⟩
  · rw [h.1 hc]
    rfl
  · obtain ⟨e, he⟩ := h.2 hc
    exact ⟨e, by rw [he]; rfl⟩

theorem OkWhen.mapError (h : OkWhen c r a) (f : ε → ε') : OkWhen c (r.mapError f) a := by
  refine ⟨fun hc => ?_, fun hc => ?_⟩
  · rw [h.1 hc]
    rfl
  · obtain ⟨e, he⟩ := h.2 hc
    exact ⟨f e, by rw [he]; rfl⟩

theorem OkWhen.bind {k : α → Except ε β} {b : β} (h : OkWhen c r a) (hk : OkWhen c' (k a) b) :
    OkWhen (c ∧ c') (r >>= k) b := by
  by_cases hc : c
  · rw [h.1 hc]
    exact hk.congr (and_iff_right hc)
  · obtain ⟨e, he⟩ := h.2 hc
    rw [he]
    exact .error fun h => hc h.1

theorem OkWhen.bind_ok (h : OkWhen c r a) (f : α → β) :
    OkWhen c (r >>= fun a => .ok (f a)) (f a) := by
  have hbind : OkWhen (c ∧ True) (r >>= fun a => .ok (f a)) (f a) := h.bind (.ok trivial)
  exact hbind.congr (and_iff_left trivial).symm

theorem exists_error_bind {k : α → Except ε β} (h : ∀ a, ∃ e, k a = .error e) :
    ∃ e, (r >>= k) = .error e := by
  cases r with
  | error e => exact ⟨e, rfl⟩
  | ok a => exact h a

theorem exists_error_mapError_bind {f : ε → ε'} {k : α → Except ε' β} (h : ∃ e, r = .error e) :
    ∃ e, (r.mapError f >>= k) = .error e := by
  obtain ⟨e, rfl⟩ := h
  exact ⟨f e, rfl⟩

end OkWhen

/-! ## Settled parts -/

namespace Json

variable {room : Nat}

mutual
theorem settle_draftWithin : ∀ (room : Nat) (j : Json),
    OkWhen (j.depth ≤ room) (j.draftWithin room).settle j
  | _, .null => .ok (Nat.zero_le _)
  | _, .bool _ => .ok (Nat.zero_le _)
  | _, .number _ => .ok (Nat.zero_le _)
  | _, .string _ => .ok (Nat.zero_le _)
  | 0, .array _ => .error (by simp [depth])
  | room + 1, .array items =>
    ((settleItems_draftItemsWithin room items).bind_ok Json.array).congr
      Nat.add_le_add_iff_right
  | 0, .object _ => .error (by simp [depth])
  | room + 1, .object entries =>
    ((settleEntries_draftEntriesWithin room entries).bind_ok Json.object).congr
      Nat.add_le_add_iff_right
theorem settleItems_draftItemsWithin : ∀ (room : Nat) (items : List Json),
    OkWhen (depthOfItems items ≤ room) (Draft.settleItems (draftItemsWithin room items)) items
  | _, [] => .ok (Nat.zero_le _)
  | room, j :: rest =>
    ((settle_draftWithin room j).bind
      ((settleItems_draftItemsWithin room rest).bind_ok (j :: ·))).congr max_le_iff
theorem settleEntries_draftEntriesWithin : ∀ (room : Nat) (entries : List (String × Json)),
    OkWhen (depthOfEntries entries ≤ room)
      (Draft.settleEntries (draftEntriesWithin room entries)) entries
  | _, [] => .ok (Nat.zero_le _)
  | room, (k, j) :: rest =>
    ((settle_draftWithin room j).bind
      ((settleEntries_draftEntriesWithin room rest).bind_ok ((k, j) :: ·))).congr max_le_iff
end

theorem settled_draftWithin (room : Nat) (j : Json) :
    OkWhen (j.depth ≤ room) (Decoder.settled (j.draftWithin room)) j :=
  (settle_draftWithin room j).mapError _

theorem draft_eq_draftWithin (j : Json) : j.draft = j.draftWithin j.depth :=
  (draftWithin_of_depth_le (Nat.le_refl _)).symm

theorem eq_null_of_draftWithin {j : Json} (h : j.draftWithin room = .null) : j = .null := by
  cases j <;> cases room <;> first | rfl | cases h

end Json

/-! ## Whole numbers -/

/-- A whole number of 64 bits is kept as an integer. -/
theorem Number.ofInt_natCast {k : Nat} (h : k < 18446744073709551616) :
    (∃ n, Number.ofInt k = .signed n ∧ n.toInt = k) ∨
      ∃ n, Number.ofInt k = .unsigned n ∧ n.toNat = k ∧ 9223372036854775808 ≤ k := by
  by_cases hk : k < 9223372036854775808
  · have hint : (Int64.ofInt (k : Int)).toInt = k :=
      Int64.toInt_ofInt_of_le (by omega) (by simpa using hk)
    exact .inl ⟨Int64.ofInt k, if_pos (by omega), hint⟩
  · have hnat : (UInt64.ofNat k).toNat = k := by
      rw [UInt64.toNat_ofNat', Nat.mod_eq_of_lt h]
    refine .inr ⟨UInt64.ofNat k, ?_, hnat, by omega⟩
    rw [Number.ofInt, if_neg (by omega), if_pos (by omega), Int.toNat_natCast]

theorem Number.faithful_ofInt {k : Nat} (h : k < 18446744073709551616) :
    (Number.ofInt k).Faithful := by
  rcases Number.ofInt_natCast h with ⟨n, hn, -⟩ | ⟨n, hn, hnat, hk⟩
  · rw [hn]
    exact faithful_signed n
  · rw [hn]
    exact faithful_unsigned (hnat ▸ hk)

/-! ## Decoders -/

namespace Decoder

variable {α β : Type} {decoder : Decoder α} {n : Node} {a : α}

/-- A decoder gives a value for the JSON of a written value, and fails where that is cut. -/
def Reads (decoder : Decoder α) (n : Node) (a : α) : Prop :=
  n.Faithful → n.toJson.Distinct ∧ ∀ (o : Origin) (j : Json) (room : Nat), n.Writes j →
    OkWhen (j.depth ≤ room) (decoder o (j.draftWithin room)) a

/-- A decoder gives no value for the JSON of a written value. -/
def Refuses (decoder : Decoder α) (n : Node) : Prop :=
  ∀ j, n.Writes j → ∃ e, decoder .held j.draft = .error e

/-- A decoder gives no value for the literal `null`. -/
def RefusesNull (decoder : Decoder α) : Prop := ∀ o, ∃ e, decoder o .null = .error e

namespace Refuses

theorem as (h : decoder.Refuses n) (f : α → β) : (decoder.as f).Refuses n := by
  intro j hj
  obtain ⟨e, he⟩ := h j hj
  exact ⟨e, by rw [Decoder.as, he]; rfl⟩

/-- A name that is none of the cases is refused. -/
theorem oneOf {cases : List (String × Decoder α)} {name : String} {body : Node}
    (hcase : caseNamed? name cases = none) :
    (Decoder.oneOf [] cases).Refuses (.named name body) := by
  intro j hj
  obtain ⟨i, rfl, -⟩ := hj.named
  refine ⟨.mismatch, ?_⟩
  simp [Json.draft, Json.draftEntries, Decoder.oneOf, oneOf.named, caseName, bind, Except.bind,
    hcase]

end Refuses

namespace RefusesNull

theorem string : Decoder.string.RefusesNull := fun _ => ⟨_, rfl⟩

theorem bool : Decoder.bool.RefusesNull := fun _ => ⟨_, rfl⟩

theorem number : Decoder.number.RefusesNull := fun _ => ⟨_, rfl⟩

theorem list : (Decoder.list decoder).RefusesNull := fun _ => ⟨_, rfl⟩

theorem record {r : Fields α} : r.record.RefusesNull := fun _ => ⟨_, rfl⟩

theorem oneOf {bares : List (String × α)} {cases : List (String × Decoder α)} :
    (Decoder.oneOf bares cases).RefusesNull := fun o => by
  cases o <;> exact ⟨_, rfl⟩

end RefusesNull

namespace Reads

/-- A tree that was taken whole is read. -/
theorem draft (h : decoder.Reads n a) (hn : n.Faithful) (o : Origin) {j : Json}
    (hj : n.Writes j) : decoder o j.draft = .ok a := by
  rw [Json.draft_eq_draftWithin]
  exact ((h hn).2 o j j.depth hj).1 (Nat.le_refl _)

/-- What a decoder for more than `null` reads is not written as `null`. -/
theorem ne_null (h : decoder.Reads n a) (hnull : decoder.RefusesNull) (hn : n.Faithful) :
    n.toJson ≠ .null := by
  intro heq
  obtain ⟨e, he⟩ := hnull .held
  have hok := h.draft hn .held (Node.writes_toJson (h hn).1)
  rw [heq] at hok
  exact nomatch he.symm.trans hok

theorem map (h : decoder.Reads n a) (f : α → β) :
    Reads (fun o d => (decoder o d).map f) n (f a) :=
  fun hn => ⟨(h hn).1, fun o j room hj => ((h hn).2 o j room hj).map f⟩

theorem as (h : decoder.Reads n a) (f : α → β) : (decoder.as f).Reads n (f a) := h.map f

/-- What is read goes through a function that accepts it. -/
theorem andThen {k : α → Except ReadError β} {b : β} (h : decoder.Reads n a) (hk : k a = .ok b) :
    Reads (fun o d => decoder o d >>= k) n b := by
  intro hn
  obtain ⟨hdistinct, hread⟩ := h hn
  refine ⟨hdistinct, fun o j room hj => ?_⟩
  have hend : OkWhen True (k a) b := by
    rw [hk]
    exact .ok trivial
  exact ((hread o j room hj).bind hend).congr (and_iff_left trivial).symm

/-! ## Leaves -/

/-- A leaf is read if its draft is. -/
theorem leaf (hdepth : n.toJson.depth = 0)
    (h : n.Faithful → ∀ o, decoder o n.toJson.draft = .ok a) : decoder.Reads n a := by
  intro hn
  refine ⟨Json.distinct_of_leaf hdepth, fun o j room hj => ?_⟩
  rw [hj.eq_of_leaf hdepth, Json.draftWithin_of_depth_le (by omega), h hn]
  exact .ok (by omega)

theorem string (s : String) : Decoder.string.Reads (.string s) s := leaf rfl fun _ _ => rfl

theorem bool (b : Bool) : Decoder.bool.Reads (.bool b) b := leaf rfl fun _ _ => rfl

theorem null : Decoder.null.Reads .null () := leaf rfl fun _ _ => rfl

theorem number (m : Number) : Decoder.number.Reads m.node m := by
  intro hn
  have hjson : m.node.toJson = .number m := if_pos (Number.Faithful.isFinite hn)
  refine leaf (by rw [hjson]; rfl) (fun _ o => ?_) hn
  rw [hjson]
  rfl

theorem natBelow {bound k : Nat} (h : k < bound) (hbound : bound ≤ 18446744073709551616)
    (o : Origin) : Decoder.natBelow bound o (.number (Number.ofInt k)) = .ok k := by
  rcases Number.ofInt_natCast (Nat.lt_of_lt_of_le h hbound) with ⟨n, hn, hint⟩ | ⟨n, hn, hnat, -⟩
  · rw [hn, Decoder.natBelow, hint, Int.toNat_natCast]
    exact if_pos ⟨Int.natCast_nonneg k, h⟩
  · rw [hn, Decoder.natBelow, hnat]
    exact if_pos h

theorem toJson_number {m : Number} (h : m.Faithful) : (Node.number m).toJson = .number m :=
  if_pos h.isFinite

theorem uint64 (m : UInt64) : Decoder.uint64.Reads (.number (Number.ofUInt64 m)) m := by
  have hlt := UInt64.toNat_lt m
  have hjson := toJson_number (Number.faithful_ofInt hlt)
  rw [Number.ofUInt64]
  refine leaf (by rw [hjson]; rfl) fun _ o => ?_
  rw [hjson, Json.draft, Decoder.uint64, natBelow hlt (by omega)]
  exact congrArg Except.ok UInt64.ofNat_toNat

theorem uint32 (m : UInt32) : Decoder.uint32.Reads (.number (Number.ofInt m.toNat)) m := by
  have hlt := UInt32.toNat_lt m
  have hjson := toJson_number (Number.faithful_ofInt (k := m.toNat) (by omega))
  refine leaf (by rw [hjson]; rfl) fun _ o => ?_
  rw [hjson, Json.draft, Decoder.uint32, natBelow hlt (by omega)]
  exact congrArg Except.ok UInt32.ofNat_toNat

/-- A whole part that is kept as a value. -/
theorem value (v : Value) : Decoder.value.Reads v.tree.node v := by
  intro hn
  have hjson := Node.toJson_node hn
  refine ⟨by rw [hjson]; exact v.canonical.distinct, fun o j room hj => ?_⟩
  have hvalue : Value.ofJson j = v := by
    have htree : (Value.ofJson j).tree = v.tree :=
      hj.2.trans (by rw [hjson, Json.canonical_of_canonical v.canonical])
    generalize Value.ofJson j = w at htree
    cases v
    cases w
    cases htree
    rfl
  exact hvalue ▸ (Json.settled_draftWithin room j).map Value.ofJson

/-! ## Lists -/

theorem items {items : List Node} {as : List α} (h : List.Forall₂ decoder.Reads items as)
    (hn : Node.FaithfulItems items) : (∀ m ∈ items, m.toJson.Distinct) ∧
      ∀ (o : Origin) (js : List Json) (room : Nat), List.Forall₂ Node.Writes items js →
        OkWhen (Json.depthOfItems js ≤ room)
          (Decoder.items decoder o (Json.draftItemsWithin room js) .closed) as := by
  induction h with
  | nil =>
    refine ⟨by simp, fun o js room hjs => ?_⟩
    cases hjs
    exact .ok (Nat.zero_le _)
  | @cons m a rest as hm _ ih =>
    obtain ⟨hdistinct, hitem⟩ := hm hn.1
    obtain ⟨hdistincts, hitems⟩ := ih hn.2
    refine ⟨List.forall_mem_cons.2 ⟨hdistinct, hdistincts⟩, fun o js room hjs => ?_⟩
    cases hjs with
    | @cons _ j _ js hj hjs =>
      have hrest := (hitems o js room hjs).bind_ok (a :: ·)
      exact ((hitem o j room hj).bind hrest).congr max_le_iff

/-- A list is read if its items are. -/
theorem list {items : List Node} {as : List α} (h : List.Forall₂ decoder.Reads items as) :
    (Decoder.list decoder).Reads (.list items) as := by
  intro hn
  obtain ⟨hdistinct, hitems⟩ := Reads.items h hn
  refine ⟨Json.distinctItems_iff.2 ?_, fun o j room hj => ?_⟩
  · rw [Node.itemsToJson_eq_map]
    exact List.forall_mem_map.2 hdistinct
  · obtain ⟨js, rfl, hjs⟩ := hj.list
    cases room with
    | zero => exact .error (by simp [Json.depth])
    | succ room => exact (hitems o js room hjs).congr Nat.add_le_add_iff_right

theorem listOf {write : α → Node} {as : List α} (h : ∀ a ∈ as, decoder.Reads (write a) a) :
    (Decoder.list decoder).Reads (Node.listOf write as) as := by
  refine list ?_
  induction as with
  | nil => exact .nil
  | cons a rest ih =>
    obtain ⟨ha, hrest⟩ := List.forall_mem_cons.1 h
    exact .cons ha (ih hrest)

theorem strings (ss : List String) : Decoder.strings.Reads (Node.strings ss) ss :=
  listOf fun s _ => string s

/-! ## Choices -/

/-- A case of a choice is read if what is written under its name is. -/
theorem oneOf {bares : List (String × α)} {cases : List (String × Decoder α)} {name : String}
    {body : Node}
    (hcase : caseNamed? name (cases ++ bares.map fun c => (c.1, bare c.2)) = some decoder)
    (h : decoder.Reads body a) : (Decoder.oneOf bares cases).Reads (.named name body) a := by
  intro hn
  obtain ⟨hdistinct, hbody⟩ := h hn
  refine ⟨⟨List.nodup_singleton _, hdistinct, trivial⟩, fun o j room hj => ?_⟩
  obtain ⟨i, rfl, hi⟩ := hj.named
  have hdepth : (Json.object [(name, i)]).depth = i.depth + 1 := by
    simp [Json.depth, Json.depthOfEntries]
  rw [hdepth]
  cases room with
  | zero => exact .error (by omega)
  | succ room =>
    have hnamed : oneOf.named bares cases o (.string name) (i.draftWithin room) =
        decoder o (i.draftWithin room) := by
      simp only [oneOf.named, caseName, bind, Except.bind, hcase]
    have hread : OkWhen (i.depth ≤ room)
        (oneOf.named bares cases o (.string name) (i.draftWithin room)) a :=
      hnamed ▸ hbody o i room hi
    cases o with
    | held | buffered => exact hread.congr Nat.add_le_add_iff_right
    | text => exact (hread.bind_ok id).congr Nat.add_le_add_iff_right

/-- A name without content. -/
theorem oneOfNames {bares : List (String × α)} {name : String}
    (h : bares.find? (fun c => c.1 = name) = some (name, a)) :
    (Decoder.oneOfNames bares).Reads (.string name) a := by
  refine leaf rfl fun _ o => ?_
  rw [Node.toJson, Json.draft, Decoder.oneOfNames, Decoder.oneOf, h]

/-- A value of one of several shapes is read if the shapes that are tried before refuse it. -/
theorem firstOf {shapes : List (Decoder α)} (i : Nat) (hi : shapes[i]? = some decoder)
    (h : decoder.Reads n a) (hbefore : ∀ shape ∈ shapes.take i, shape.Refuses n) :
    (Decoder.firstOf shapes).Reads n a := by
  intro hn
  refine ⟨(h hn).1, fun o j room hj => ?_⟩
  have hshapes : shapes.findSome? (fun shape => (shape .held j.draft).toOption) = some a := by
    obtain ⟨hlt, rfl⟩ := List.getElem?_eq_some_iff.1 hi
    have hnone :
        (shapes.take i).findSome? (fun shape => (shape .held j.draft).toOption) = none := by
      refine List.findSome?_eq_none_iff.2 fun shape hshape => ?_
      obtain ⟨e, he⟩ := hbefore shape hshape j hj
      rw [he]
      rfl
    rw [← List.take_append_drop i shapes, List.findSome?_append, hnone, Option.none_or,
      List.drop_eq_getElem_cons hlt, List.findSome?_cons, h.draft hn .held hj]
    rfl
  have hsettled := Json.settled_draftWithin room j
  refine ⟨fun hdepth => ?_, fun hdepth => ?_⟩
  · rw [Decoder.firstOf, hsettled.1 hdepth]
    simp only [bind, Except.bind, hshapes]
  · obtain ⟨e, he⟩ := hsettled.2 hdepth
    exact ⟨e, by rw [Decoder.firstOf, he]; rfl⟩

end Reads

end Decoder

end SearchRequest
