import SearchRequest.Proofs.Build.Bindings
import SearchRequest.Proofs.Build.Summaries

/-!
# The names of the constraints of a search text

A tag, such as `rating` in `rating:5`, refers to the constraints that have it as their name.

* `ParseBindings.tags`, `ParseBindings.denoted` — the names of the constraints in bindings, and the
  constraints that a tag refers to.
* `ConstraintFunction` — the functions that make constraints.
* `ConstraintFunction.Names`, `ConstraintFunction.names_iff` — the name that arguments give to a
  constraint: the one that is bound, or else the one that the index offers.
* `ConstraintFunction.nodup_names_iff` — when the names of several constraints are all different.
* `Build.parseBindings_tags` — the tags of bindings, and when each refers to one constraint.
-/

namespace SearchRequest

open Argument

namespace ParseBindings

/-- The names of the constraints. -/
def tags (b : ParseBindings) : List String := (b.constraint.getD []).map Constraint.name

/-- The constraints that a tag refers to. -/
def denoted (b : ParseBindings) (tag : String) : List Constraint :=
  (b.constraint.getD []).filter fun c => c.name = tag

theorem length_denoted (b : ParseBindings) (tag : String) :
    (b.denoted tag).length = b.tags.count tag := by
  rw [denoted, tags, List.count, List.countP_map, List.countP_eq_length_filter]
  congr 2

/-- Names are all different exactly if no tag refers to two constraints. -/
theorem nodup_tags_iff (b : ParseBindings) :
    b.tags.Nodup ↔ ∀ tag, (b.denoted tag).length ≤ 1 := by
  simp only [length_denoted, List.nodup_iff_count_le_one]

end ParseBindings

/-! ## The functions that make constraints -/

/-- The functions that make constraints. -/
inductive ConstraintFunction where
  /-- A function of an index. -/
  | index (f : IndexFunction)
  /-- Collections. -/
  | collection
  /-- A library that parses the terms. -/
  | library

namespace ConstraintFunction

/-- What a function makes of arguments. -/
def call : ConstraintFunction → List Argument → Build Query
  | index f => f.call
  | collection => Build.collection
  | library => Build.parseFunction

/-- The arguments among which a name can be bound. -/
def rest : ConstraintFunction → List Argument → List Argument
  | index f, args => (f.split args).2
  | collection, args => spliceSole args
  | library, args => (spliceSole args).drop 1

/-- Arguments give a name to a constraint. -/
inductive Names : ConstraintFunction → List Argument → String → Prop where
  /-- The name is bound. -/
  | bound {f : ConstraintFunction} {args : List Argument} {n : String}
      (h : .bind n ∈ f.rest args) : Names f args n
  /-- No name is bound, and the index offers one. -/
  | offered {f : IndexFunction} {args : List Argument} {first : Argument} {i : IndexedName}
      {n : String} (hbind : ∀ m, .bind m ∉ (f.split args).2) (hfirst : (f.split args).1 = [first])
      (hindex : first.asIndex f.name = .ok i) (hname : i.defaultName = some n) :
      Names (index f) args n

end ConstraintFunction

/-- A summary makes a constraint of a name, or of nothing at all. -/
theorem Summary.result_eq_constraint {s : Summary} {combinator : String} {c : Constraint}
    (h : s.result combinator = .ok (.constraint c)) :
    s.criteria = none ∧
      (s.name = some c.name ∨ s.name = none ∧ s.otherwise = .ok (.constraint c)) := by
  unfold result at h
  split at h
  · cases h
  · rename_i hcriteria hname _
    cases h
    exact ⟨hcriteria, .inl hname⟩
  · cases h
  · rename_i hcriteria hname _
    exact ⟨hcriteria, .inr ⟨hname, h⟩⟩
  · cases h

theorem IndexedName.defaultName_of_requireName {i : IndexedName} {n : String}
    (h : i.requireName = .ok n) : i.defaultName = some n := by
  unfold requireName at h
  split at h
  · rename_i hname
    cases h
    exact hname
  · cases h

/-- A constraint that is made of nothing at all has the name that the index offers. -/
theorem Summary.Tells.offers {s : Summary} {f : IndexFunction} {start rest : List Argument}
    {c : Constraint} (ht : s.Tells f start rest) (hcriteria : s.criteria = none)
    (hotherwise : s.otherwise = .ok (.constraint c)) :
    ∃ first i, start = [first] ∧ first.asIndex f.name = .ok i ∧ i.defaultName = some c.name := by
  have hgiven : f.given rest = [] := by
    refine Classical.not_not.1 fun hgiven => ?_
    obtain ⟨c', hc', -⟩ := ht.criteria_some hgiven
    cases hcriteria.symm.trans hc'
  -- a geospatial index would be declared, and no constraint would be made
  have hgeo : ∀ kind, f ≠ .geo kind := by
    intro kind hf
    obtain ⟨spec, hspec, -⟩ := ht.declares hgiven kind hf
    cases hotherwise.symm.trans hspec
  obtain ⟨first, i, hfirst, hi, hbinds⟩ := ht.binds hgeo
  obtain ⟨n, hn, hc⟩ := bind_eq_ok (hbinds.symm.trans hotherwise)
  cases hc
  exact ⟨first, i, hfirst, hi, IndexedName.defaultName_of_requireName hn⟩

namespace ConstraintFunction

variable {args : List Argument} {c : Constraint}

/-- Where a scan finds the name among the arguments, they give no other. -/
theorem names_iff_of_bound {f : ConstraintFunction} {name : Option String}
    (hscan : ∀ n, name = some n ↔ .bind n ∈ f.rest args) (hname : name = some c.name)
    (n : String) : f.Names args n ↔ n = c.name := by
  constructor
  · intro h
    cases h with
    | bound h => exact (Option.some.inj (hname.symm.trans ((hscan n).2 h))).symm
    | offered hbind => exact absurd ((hscan _).1 hname) (hbind _)
  · rintro rfl
    exact .bound ((hscan _).1 hname)

theorem names_iff_of_index {f : IndexFunction} (h : f.call args = .ok (.constraint c))
    (n : String) : (index f).Names args n ↔ n = c.name := by
  have hfits : f.Fits args := fun e he => nomatch h.symm.trans he
  obtain ⟨s, hcall, ht⟩ := f.exists_summary (Prod.eta (f.split args)).symm hfits
  obtain ⟨hcriteria, hname | ⟨hname, hotherwise⟩⟩ := s.result_eq_constraint (hcall.symm.trans h)
  · -- the name is bound
    exact names_iff_of_bound (f := index f) ht.name_iff hname n
  · -- no name is bound, and the index offers one
    have hbind : ∀ m, .bind m ∉ (f.split args).2 := fun m hm =>
      nomatch hname.symm.trans ((ht.name_iff m).2 hm)
    obtain ⟨first, i, hfirst, hi, hoffers⟩ := ht.offers hcriteria hotherwise
    constructor
    · intro hnames
      cases hnames with
      | bound hm => exact absurd hm (hbind n)
      | offered _ hfirst' hi' hn =>
        cases hfirst.symm.trans hfirst'
        cases hi.symm.trans hi'
        exact Option.some.inj (hn.symm.trans hoffers)
    · rintro rfl
      exact .offered hbind hfirst hi hoffers

theorem collectionScan_name : Takes Build.collectionScan.slot .name boundName? :=
  takes_of_decide fun a => by cases a <;> rfl

theorem parseFunctionScan_name : Takes Build.parseFunctionScan.slot .name boundName? :=
  takes_of_decide fun a => by cases a <;> rfl

/-- A collection constraint has the name that a scan of all arguments finds. -/
theorem name_of_collection (h : Build.collection args = .ok (.constraint c)) :
    ∃ p, (spliceSole args).foldlM Build.CollectionParts.add {} = .ok p ∧ p.name = some c.name := by
  simp only [Build.collection] at h
  split at h
  · cases h
  · split at h
    · obtain ⟨p, hfold, h⟩ := bind_eq_ok h
      split at h
      · rename_i name hname
        cases h
        exact ⟨p, hfold, hname⟩
      · cases h
    · obtain ⟨us, -, h⟩ := bind_eq_ok h
      cases h

/-- A constraint of a library has the name that a scan of the arguments after the file finds. -/
theorem name_of_parseFunction (h : Build.parseFunction args = .ok (.constraint c)) :
    ∃ p, ((spliceSole args).drop 1).foldlM Build.ParseFunctionParts.add {} = .ok p ∧
      p.name = some c.name := by
  unfold Build.parseFunction at h
  split at h
  · rename_i file second rest hargs
    obtain ⟨text, -, h⟩ := bind_eq_ok h
    obtain ⟨p, hfold, h⟩ := bind_eq_ok h
    split at h
    · cases h
    · rename_i name hname
      obtain ⟨g, -, h⟩ := bind_eq_ok h
      cases h
      exact ⟨p, by rw [hargs]; exact hfold, hname⟩
  · cases h

/-- The arguments of a function that makes a constraint give it its name, and no other. -/
theorem names_iff {f : ConstraintFunction} (h : f.call args = .ok (.constraint c)) (n : String) :
    f.Names args n ↔ n = c.name := by
  cases f with
  | index f => exact names_iff_of_index h n
  | collection =>
    obtain ⟨p, hfold, hname⟩ := name_of_collection h
    obtain ⟨-, hroomy, rfl⟩ := Build.collectionScan_strict.guarded.eq_read hfold
    have hscan := findSome?_boundName?_iff collectionScan_name hroomy
    exact names_iff_of_bound (f := collection) hscan hname n
  | library =>
    obtain ⟨p, hfold, hname⟩ := name_of_parseFunction h
    obtain ⟨-, hroomy, rfl⟩ := Build.parseFunctionScan_strict.guarded.eq_read hfold
    have hscan := findSome?_boundName?_iff parseFunctionScan_name hroomy
    exact names_iff_of_bound (f := library) hscan hname n

variable {f : ConstraintFunction} {calls : List (ConstraintFunction × List Argument)}
  {cs : List Constraint}

/-- Two functions give their constraints one name exactly if there is a name that both give. -/
theorem name_ne_iff {g : ConstraintFunction} {args' : List Argument} {c' : Constraint}
    (h : f.call args = .ok (.constraint c)) (h' : g.call args' = .ok (.constraint c')) :
    c.name ≠ c'.name ↔ ∀ n, f.Names args n → ¬g.Names args' n := by
  simp only [names_iff h, names_iff h', forall_eq, ne_eq]

theorem name_not_mem_iff (h : f.call args = .ok (.constraint c))
    (hcalls : List.Forall₂ (fun call c => call.1.call call.2 = .ok (.constraint c)) calls cs) :
    c.name ∉ cs.map Constraint.name ↔
      ∀ call ∈ calls, ∀ n, f.Names args n → ¬call.1.Names call.2 n := by
  induction hcalls with
  | nil => simp
  | cons hcall _ ih =>
    rw [List.map_cons, List.mem_cons, not_or, List.forall_mem_cons, ih]
    exact and_congr_left' (name_ne_iff h hcall)

/-- Constraints have different names exactly if the calls that make them give no name twice. -/
theorem nodup_names_iff
    (h : List.Forall₂ (fun call c => call.1.call call.2 = .ok (.constraint c)) calls cs) :
    (cs.map Constraint.name).Nodup ↔
      calls.Pairwise fun call call' => ∀ n, call.1.Names call.2 n → ¬call'.1.Names call'.2 n := by
  induction h with
  | nil => simp
  | cons hcall hcalls ih =>
    rw [List.map_cons, List.nodup_cons, List.pairwise_cons, name_not_mem_iff hcall hcalls, ih]

end ConstraintFunction

namespace Build

variable {args : List Argument} {b : ParseBindings}

/-- The tags of bindings are the names of the constraints among the arguments, in order. -/
theorem tags_eq (h : parseBindings args = .ok b) :
    b.tags = ((spliceSole args).filterMap constraint?).map Constraint.name := by
  obtain ⟨-, rfl⟩ := eq_bindingsOf h
  cases hlist : (spliceSole args).filterMap constraint? <;>
    simp [ParseBindings.tags, bindingsOf, hlist]

/-- The tags of bindings are the names of the constraints among the arguments, each as often as
there is a constraint of that name: no name is refused for being there already.  Each tag refers to
no more than one constraint exactly if no two of the calls that make the constraints give one name;
and the name that a call gives is the one that is bound among its arguments, or else the one that
the index offers. -/
theorem parseBindings_tags (h : parseBindings args = .ok b) :
    b.tags = ((spliceSole args).filterMap constraint?).map Constraint.name ∧
    (b.tags.Nodup ↔ ∀ tag, (b.denoted tag).length ≤ 1) ∧
    (∀ calls, List.Forall₂ (fun call c => call.1.call call.2 = .ok (.constraint c)) calls
        ((spliceSole args).filterMap constraint?) →
      (b.tags.Nodup ↔ calls.Pairwise fun call call' : ConstraintFunction × List Argument =>
        ∀ n, call.1.Names call.2 n → ¬call'.1.Names call'.2 n)) ∧
    ∀ (f : ConstraintFunction) (given : List Argument) (c : Constraint),
      f.call given = .ok (.constraint c) → ∀ n, f.Names given n ↔ n = c.name := by
  refine ⟨tags_eq h, b.nodup_tags_iff, fun calls hcalls => ?_,
    fun f given c hcall => f.names_iff hcall⟩
  rw [tags_eq h]
  exact ConstraintFunction.nodup_names_iff hcalls

/-- A name that is bound beside a name that the index offers. -/
theorem parseBindings_tags_bound_offered :
    let cost : Constraint := ⟨"cost", .range { index := IndexFields.of (property "price") }⟩
    let price : Constraint := ⟨"price", .text .word { index := IndexFields.of (property "price") }⟩
    let calls : List (ConstraintFunction × List Argument) :=
      [(.index .range, [.text "price", .bind "cost"]), (.index (.text .word), [.text "price"])]
    let b : ParseBindings := ⟨some [cost, price], none⟩
    parseBindings [.query (.constraint cost), .query (.constraint price)] = .ok b ∧
      (b.tags.Nodup ↔ calls.Pairwise fun call call' =>
        ∀ n, call.1.Names call.2 n → ¬call'.1.Names call'.2 n) ∧
      b.tags = ["cost", "price"] ∧ ∀ tag, (b.denoted tag).length ≤ 1 := by
  intro cost price calls b
  have hb : parseBindings [.query (.constraint cost), .query (.constraint price)] = .ok b := rfl
  obtain ⟨htags, hdenoted, hcalls, -⟩ := parseBindings_tags hb
  have hnodup : b.tags.Nodup := by decide
  exact ⟨hb, hcalls calls (.cons rfl (.cons rfl .nil)), htags, hdenoted.1 hnodup⟩

/-- Two functions of one index offer one name, and the tag refers to both constraints. -/
theorem not_nodup_tags_offered :
    let range' : Constraint := ⟨"price", .range { index := IndexFields.of (property "price") }⟩
    let word' : Constraint := ⟨"price", .text .word { index := IndexFields.of (property "price") }⟩
    range [.text "price"] = .ok (.constraint range') ∧
      word [.text "price"] = .ok (.constraint word') ∧ range' ≠ word' ∧
      ∃ b, parseBindings [.query (.constraint range'), .query (.constraint word')] = .ok b ∧
        ¬b.tags.Nodup ∧ b.denoted "price" = [range', word'] := by
  intro range' word'
  refine ⟨rfl, rfl, ?_, _, rfl, by decide, rfl⟩
  simp [range', word']

end Build

end SearchRequest
