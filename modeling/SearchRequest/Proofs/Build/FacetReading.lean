import SearchRequest.Build.Facets
import SearchRequest.Proofs.Build.Summaries

/-!
# How the arguments of a facet are read

A facet is given a name, a source, or both, and then its parts in any order.

* `Argument.NamesSource`, `FacetHead` — the source that an argument names, and the name and the
  source at the start of arguments.
* `FacetRest` — the arguments that may follow: buckets, and one of every other part.
* `facetMeaning` — what a facet counts, from the arguments after its source.
* `Build.FacetSource.Offers`, `Build.FacetSource.Lacks` — the name that a source offers, or what it
  is that offers none.
* `Bucket.Anchored`, `Build.bucket_anchored` — buckets with bounds relative to a point of reference
  are those with computed bounds.
* `Build.facetRest_iff`, `Build.kind_eq_facetMeaning` — arguments may follow the source if there is
  a slot and room for each, and what is filed says what the facet counts.
* `Build.facet_reads` — a facet is what is read, or fails for what is missing or does not fit.
-/

namespace SearchRequest

open Argument

/-! ## The start -/

namespace Argument

/-- An argument names the source of a facet. -/
inductive NamesSource : Argument → Build.FacetSource → Prop where
  /-- A text names a property. -/
  | text (s : String) : NamesSource (.text s) (.index (.jsonProperty s))
  /-- The name of an index. -/
  | index (i : IndexedName) : NamesSource (.index i) (.index i)
  /-- The declaration of the collections. -/
  | collection : NamesSource (.query (.index .collection)) .collection

theorem namesSource_iff {a : Argument} {source : Build.FacetSource} :
    a.NamesSource source ↔ Build.FacetSource.ofArgument? a = some source := by
  constructor
  · intro h
    cases h <;> rfl
  · intro h
    unfold Build.FacetSource.ofArgument? at h
    split at h
    · cases h
      exact .text _
    · cases h
      exact .index _
    · cases h
      exact .collection
    · cases h

end Argument

/-- The name and the source of a facet, and the arguments that follow. -/
inductive FacetHead :
    List Argument → Option String → Build.FacetSource → List Argument → Prop where
  /-- A text is the name; an argument that names a source may follow it. -/
  | both (name : String) {a : Argument} {source : Build.FacetSource} (rest : List Argument)
      (h : a.NamesSource source) : FacetHead (.text name :: a :: rest) (some name) source rest
  /-- A text that no source follows names the property to read as well. -/
  | name (name : String) {rest : List Argument}
      (h : ∀ a ∈ rest.head?, ∀ source, ¬a.NamesSource source) :
      FacetHead (.text name :: rest) (some name) (.index (.jsonProperty name)) rest
  /-- Any other argument at the start is the source. -/
  | source {a : Argument} {source : Build.FacetSource} (rest : List Argument)
      (htext : ∀ s, a ≠ .text s) (h : a.NamesSource source) :
      FacetHead (a :: rest) none source rest

/-- A source offers a name. -/
inductive Build.FacetSource.Offers : Build.FacetSource → String → Prop where
  /-- A property offers its name. -/
  | property (s : String) : Offers (.index (.jsonProperty s)) s
  /-- A field offers its name. -/
  | field (s : String) : Offers (.index (.field s)) s
  /-- An element offers its local name. -/
  | element (q : QName) : Offers (.index (.element q none)) q.name

/-- A source offers no name, being what it is. -/
inductive Build.FacetSource.Lacks : Build.FacetSource → String → Prop where
  /-- An attribute offers no name. -/
  | attribute (q attr : QName) : Lacks (.index (.element q (some attr))) "element, attribute"
  /-- A path offers no name. -/
  | path (p : PathIndex) : Lacks (.index (.path p)) "path-index"
  /-- The collections offer no name. -/
  | collection : Lacks .collection "collection"

/-! ## The parts -/

namespace Argument

/-- Options of a facet. -/
def facetOptions? : Argument → Option (List String)
  | .facetOptions os => some os
  | _ => none

/-- An argument is a part of a facet. -/
inductive IsFacetPart : Argument → Prop where
  /-- A datatype. -/
  | datatype (d : Datatype) : IsFacetPart (.datatype d)
  /-- Options. -/
  | options (os : List String) : IsFacetPart (.facetOptions os)
  /-- Functions that compute the facet. -/
  | functions (f : FacetFunctions) : IsFacetPart (.calculateFunction f)
  /-- A bucket with fixed bounds. -/
  | bucket (b : Bucket) : IsFacetPart (.bucket b)
  /-- A bucket with computed bounds. -/
  | computed (b : Bucket) : IsFacetPart (.computedBucket b)

end Argument

/-- All arguments are parts of a facet, and those of which there can be one come no more than
once. -/
structure FacetRest (rest : List Argument) : Prop where
  /-- Every argument is a part of a facet. -/
  parts : ∀ a ∈ rest, a.IsFacetPart
  /-- There is one datatype at most. -/
  datatype : (rest.filterMap datatype?).length ≤ 1
  /-- There are options once at most. -/
  options : (rest.filterMap facetOptions?).length ≤ 1
  /-- There are functions once at most. -/
  functions : (rest.filterMap functions?).length ≤ 1

/-- What a facet counts, from the arguments after its source: the collections, what functions
compute, or an index, with the buckets of each kind in order. -/
def facetMeaning (rest : List Argument) : Build.FacetSource → FacetKind
  | .collection => .collection true (rest.findSome? facetOptions?)
  | .index i =>
    match rest.findSome? functions? with
    | some functions => .custom true functions (rest.findSome? facetOptions?)
    | none =>
      let buckets := rest.filterMap bucket?
      let computed := rest.filterMap computed?
      .range {
        facet := true
        datatype := (rest.findSome? datatype?).map Datatype.name
        collation := (rest.findSome? datatype?).bind Datatype.collation
        index := IndexFields.of i
        bucket := if buckets.isEmpty then none else some buckets
        computedBucket := if computed.isEmpty then none else some computed
        facetOption := rest.findSome? facetOptions? }

/-- A bound of a bucket is relative to a point of reference. -/
def Bucket.Anchored (b : Bucket) : Prop := b.anchor.isSome ∨ b.geAnchor.isSome ∨ b.ltAnchor.isSome

namespace Build

/-! ## The start of a facet -/

theorem facetHead_refuses {a : Argument} (h : ∀ source, ¬a.NamesSource source)
    (rest : List Argument) : facetHead (a :: rest) = refuse "facet" a := by
  have hnone : FacetSource.ofArgument? a = none :=
    Option.eq_none_iff_forall_ne_some.2 fun source hs => h source (namesSource_iff.2 hs)
  unfold facetHead
  split
  · rename_i heq
    cases heq
  · rename_i heq
    cases heq
    cases hnone
  · rename_i heq
    cases heq
    cases hnone
  · rename_i heq
    cases heq
    rw [hnone]

theorem facetHead_of {args rest : List Argument} {name : Option String} {source : FacetSource}
    (h : FacetHead args name source rest) : facetHead args = .ok (name, source, rest) := by
  cases h with
  | both name rest h => simp only [facetHead, namesSource_iff.1 h]
  | name name h =>
    cases rest with
    | nil => rfl
    | cons a rest =>
      have hnone : FacetSource.ofArgument? a = none :=
        Option.eq_none_iff_forall_ne_some.2 fun source hs => h a rfl source (namesSource_iff.2 hs)
      simp only [facetHead, hnone]
  | source rest htext h =>
    cases h with
    | text s => exact absurd rfl (htext s)
    | index i => rfl
    | collection => rfl

/-- Every list of arguments has a start, unless it is empty or starts with something else. -/
theorem exists_facetHead (args : List Argument) :
    args = [] ∨ (∃ a rest, args = a :: rest ∧ ∀ source, ¬a.NamesSource source) ∨
      ∃ name source rest, FacetHead args name source rest := by
  match args with
  | [] => exact .inl rfl
  | a :: rest =>
    by_cases hsource : ∃ source, a.NamesSource source
    · refine .inr (.inr ?_)
      obtain ⟨source, hsource⟩ := hsource
      by_cases htext : ∃ s, a = .text s
      · obtain ⟨name, rfl⟩ := htext
        by_cases hnext : ∃ b ∈ rest.head?, ∃ source, b.NamesSource source
        · obtain ⟨b, hb, source, hsource⟩ := hnext
          cases rest with
          | nil => cases hb
          | cons c rest =>
            cases hb
            exact ⟨_, _, _, .both name rest hsource⟩
        · exact ⟨_, _, _, .name name fun b hb source hs => hnext ⟨b, hb, source, hs⟩⟩
      · exact ⟨_, _, _, .source rest (fun s hs => htext ⟨s, hs⟩) hsource⟩
    · exact .inr (.inl ⟨a, rest, rfl, fun source hs => hsource ⟨source, hs⟩⟩)

theorem requireName_eq_ok_iff {source : FacetSource} {n : String} :
    source.requireName = .ok n ↔ source.Offers n := by
  constructor
  · intro h
    cases source with
    | collection => cases h
    | index i =>
      cases i with
      | jsonProperty s =>
        cases h
        exact .property _
      | element q attr =>
        cases attr with
        | none =>
          cases h
          exact .element q
        | some attr => cases h
      | field s =>
        cases h
        exact .field _
      | path p => cases h
  · intro h
    cases h <;> rfl

theorem requireName_eq_error_iff {source : FacetSource} {k : String} :
    source.requireName = .error (.missingConstraintName k) ↔ source.Lacks k := by
  constructor
  · intro h
    cases source with
    | collection =>
      cases h
      exact .collection
    | index i =>
      cases i with
      | jsonProperty s => cases h
      | element q attr =>
        cases attr with
        | none => cases h
        | some attr =>
          cases h
          exact .attribute q attr
      | field s => cases h
      | path p =>
        cases h
        exact .path p
  · intro h
    cases h <;> rfl

/-- The name of a facet: the one that is given, or else the one that its source offers. -/
def facetName (name : Option String) (source : FacetSource) : Build String :=
  match name with
  | some name => .ok name
  | none => source.requireName

theorem facetName_eq_ok_iff {name : Option String} {source : FacetSource} {n : String} :
    facetName name source = .ok n ↔ name = some n ∨ name = none ∧ source.Offers n := by
  cases name with
  | none => simp [facetName, requireName_eq_ok_iff]
  | some name => simp [facetName]

theorem facetName_eq_error_iff {name : Option String} {source : FacetSource} {k : String} :
    facetName name source = .error (.missingConstraintName k) ↔ name = none ∧ source.Lacks k := by
  cases name with
  | none => simp [facetName, requireName_eq_error_iff]
  | some name => simp [facetName]

/-! ## The parts of a facet -/

theorem facetScan_strict : facetScan.Strict where
  toLawful := facetScan_lawful
  full f a b k ha hb hk hf := by
    cases a with
    | datatype d =>
      cases ha
      cases b with
      | datatype d' =>
        exact ⟨.argument (.datatype d),
          by simp [facetScan, FacetParts.add, hf, datatype?, refuse]⟩
      | _ => cases hb
    | facetOptions os =>
      cases ha
      cases b with
      | facetOptions os' =>
        exact ⟨.argument (.facetOptions os),
          by simp [facetScan, FacetParts.add, hf, options?, refuse]⟩
      | _ => cases hb
    | calculateFunction g =>
      cases ha
      cases b with
      | calculateFunction g' =>
        exact ⟨.argument (.calculateFunction g),
          by simp [facetScan, FacetParts.add, hf, functions?, refuse]⟩
      | _ => cases hb
    | bucket _ | computedBucket _ =>
      cases ha
      cases hk
    | _ => cases ha

theorem facetScan_datatype : Takes facetScan.slot .datatype datatype? :=
  takes_of_decide fun a => by cases a <;> rfl

theorem facetScan_options : Takes facetScan.slot .options facetOptions? :=
  takes_of_decide fun a => by cases a <;> rfl

theorem facetScan_functions : Takes facetScan.slot .functions functions? :=
  takes_of_decide fun a => by cases a <;> rfl

theorem facetScan_buckets : Takes facetScan.slot .buckets bucket? :=
  takes_of_decide fun a => by cases a <;> rfl

theorem facetScan_computed : Takes facetScan.slot .computed computed? :=
  takes_of_decide fun a => by cases a <;> rfl

theorem isFacetPart_iff (a : Argument) : a.IsFacetPart ↔ ∃ k, facetScan.slot a = some k := by
  constructor
  · intro h
    cases h <;> exact ⟨_, rfl⟩
  · rintro ⟨k, hk⟩
    cases a with
    | datatype d => exact .datatype d
    | facetOptions os => exact .options os
    | calculateFunction f => exact .functions f
    | bucket b => exact .bucket b
    | computedBucket b => exact .computed b
    | _ => cases hk

section Rest

variable {rest : List Argument}

/-- Arguments may follow the source of a facet if there is a slot and room for each. -/
theorem facetRest_iff : FacetRest rest ↔ facetScan.Filed rest ∧ Scan.Roomy facetScan.slot rest := by
  have hfiled : facetScan.Filed rest ↔ ∀ a ∈ rest, a.IsFacetPart :=
    forall₂_congr fun a _ => (isFacetPart_iff a).symm
  have hdatatype := facetScan_datatype.length_sheetOf rest
  have hoptions := facetScan_options.length_sheetOf rest
  have hfunctions := facetScan_functions.length_sheetOf rest
  rw [hfiled]
  constructor
  · rintro ⟨hparts, hd, ho, hf⟩
    refine ⟨hparts, fun k hk => ?_⟩
    by_cases hslot : ∃ a, facetScan.slot a = some k
    · obtain ⟨a, ha⟩ := hslot
      cases (isFacetPart_iff a).2 ⟨k, ha⟩ with
      | datatype d =>
        cases ha
        exact hdatatype ▸ hd
      | options os =>
        cases ha
        exact hoptions ▸ ho
      | functions f =>
        cases ha
        exact hfunctions ▸ hf
      | bucket b | computed b =>
        cases ha
        cases hk
    · rw [sheetOf, List.filter_eq_nil_iff.2 fun a _ ha => hslot ⟨a, of_decide_eq_true ha⟩]
      exact Nat.zero_le 1
  · rintro ⟨hparts, hroomy⟩
    exact ⟨hparts, hdatatype ▸ hroomy _ rfl, hoptions ▸ hroomy _ rfl, hfunctions ▸ hroomy _ rfl⟩

theorem facetScan_read (rest : List Argument) :
    facetScan.read (sheetOf facetScan.slot rest) =
      { datatype := rest.findSome? datatype?
        options := rest.findSome? facetOptions?
        functions := rest.findSome? functions?
        buckets := rest.filterMap bucket?
        computed := rest.filterMap computed? } := by
  have hoptions : ∀ a, (facetOptions? a).isSome → options? a = facetOptions? a := by
    intro a ha
    cases a with
    | facetOptions os => rfl
    | _ => cases ha
  rw [← facetScan_datatype.findSome?_sheetOf, ← facetScan_functions.findSome?_sheetOf,
    ← facetScan_options.findSome?_sheetOf_of_agree hoptions, ← facetScan_buckets.filterMap_sheetOf,
    ← facetScan_computed.filterMap_sheetOf]
  rfl

/-- What is filed says what the facet counts. -/
theorem kind_eq_facetMeaning (rest : List Argument) (source : FacetSource) :
    (facetScan.read (sheetOf facetScan.slot rest)).kind source = facetMeaning rest source := by
  rw [facetScan_read]
  cases source with
  | collection => rfl
  | index i =>
    simp only [FacetParts.kind, facetMeaning]
    cases rest.findSome? functions? <;> rfl

end Rest

/-! ## Buckets -/

/-- A bound from a comparison is not relative to anything else. -/
theorem anchored_oneBound {b b' : Bucket} {v w : Scalar} (h : oneBound b v w = some b') :
    b'.Anchored ↔ b.Anchored := by
  unfold oneBound at h
  split at h
  · cases h
    exact Iff.rfl
  · cases h
    exact Iff.rfl
  · cases h
    exact Iff.rfl
  · cases h
    exact Iff.rfl
  · cases h

theorem anchored_twoBounds {b b' : Bucket} {v w : Bound} {comparison : Scalar}
    (h : twoBounds b v comparison w = some b') :
    b'.Anchored ↔ b.anchor.isSome ∨ v.anchor.isSome ∨ w.anchor.isSome := by
  unfold twoBounds at h
  split at h
  · cases h
    rfl
  · cases h
    rw [Bucket.Anchored, or_comm (a := w.anchor.isSome = true)]
  · cases h

theorem anchored_boundsOfAnchor {b b' : Bucket} {values : List Scalar} (hb : b.anchor.isSome)
    (h : boundsOfAnchor b values = some b') : b'.Anchored := by
  unfold boundsOfAnchor at h
  split at h
  · exact (anchored_oneBound h).2 (.inl hb)
  · exact (anchored_twoBounds h).2 (.inl hb)
  · cases h

theorem anchored_bucketBounds {b : Bucket} {args : List Argument} {built : BuiltBucket}
    (hb : ¬b.Anchored) (h : bucketBounds b args = some built) :
    (∃ c, built = .literal c ∧ ¬c.Anchored) ∨ ∃ c, built = .computed c ∧ c.Anchored := by
  unfold bucketBounds at h
  split at h
  · obtain ⟨c, hc, rfl⟩ := Option.map_eq_some_iff.1 h
    exact .inr ⟨c, rfl, anchored_boundsOfAnchor rfl hc⟩
  · obtain ⟨v, -, h⟩ := Option.bind_eq_some_iff.1 h
    obtain ⟨w, -, h⟩ := Option.bind_eq_some_iff.1 h
    obtain ⟨c, hc, rfl⟩ := Option.map_eq_some_iff.1 h
    exact .inl ⟨c, rfl, mt (anchored_oneBound hc).1 hb⟩
  · obtain ⟨v, -, h⟩ := Option.bind_eq_some_iff.1 h
    obtain ⟨comparison, -, h⟩ := Option.bind_eq_some_iff.1 h
    obtain ⟨w, -, h⟩ := Option.bind_eq_some_iff.1 h
    obtain ⟨c, hc, h⟩ := Option.bind_eq_some_iff.1 h
    have hanchored := anchored_twoBounds hc
    have hnone : ¬b.anchor.isSome := fun hsome => hb (.inl hsome)
    split at h
    · rename_i hbound
      cases h
      exact .inr ⟨c, rfl, hanchored.2 (.inr (by simpa using hbound))⟩
    · rename_i hbound
      cases h
      refine .inl ⟨c, rfl, fun hc => ?_⟩
      exact hbound (by simpa [hnone] using hanchored.1 hc)
  · cases h

/-- A bucket is built with computed bounds exactly if they are relative to a point of
reference. -/
theorem bucket_anchored {args : List Argument} {built : BuiltBucket}
    (h : bucket args = .ok built) :
    (∃ c, built = .literal c ∧ ¬c.Anchored) ∨ ∃ c, built = .computed c ∧ c.Anchored := by
  unfold bucket at h
  split at h
  · split at h
    · rename_i hbounds
      cases h
      exact anchored_bucketBounds (by simp [Bucket.Anchored]) hbounds
    · cases h
  · cases h

/-! ## The facet -/

theorem facet_of_head {args rest : List Argument} {name : Option String} {source : FacetSource}
    (h : FacetHead (spliceSole args) name source rest) :
    facet args = rest.foldlM FacetParts.add {} >>= fun p =>
      (facetName name source).map fun n => ⟨n, p.kind source⟩ := by
  rw [facet, facetHead_of h]
  change (rest.foldlM FacetParts.add {} >>= _) = _
  cases rest.foldlM FacetParts.add {} with
  | error e => rfl
  | ok p =>
    cases name with
    | some name => rfl
    | none =>
      change (source.requireName >>= _) = source.requireName.map _
      cases source.requireName <;> rfl

/-- The parts after the source add up, or one of them is refused. -/
theorem facetParts_cases (rest : List Argument) :
    FacetRest rest ∧
        rest.foldlM FacetParts.add {} = .ok (facetScan.read (sheetOf facetScan.slot rest)) ∨
      ¬FacetRest rest ∧ ∃ o, rest.foldlM FacetParts.add {} = .error (.unrecognized "facet" o) := by
  by_cases hrest : FacetRest rest
  · obtain ⟨hfiled, hroomy⟩ := facetRest_iff.1 hrest
    obtain ⟨-, hok⟩ | ⟨hnot, -⟩ := facetScan_lawful.foldlM_cases hroomy
    · exact .inl ⟨hrest, hok⟩
    · exact absurd hfiled hnot
  · obtain ⟨hfiled, hroomy, -⟩ | hrefused := facetScan_strict.guarded.foldlM_cases rest
    · exact absurd (facetRest_iff.2 ⟨hfiled, hroomy⟩) hrest
    · exact .inr ⟨hrest, hrefused⟩

/-- What a facet is, or why there is none, from the start of its arguments. -/
theorem facet_cases {args rest : List Argument} {name : Option String} {source : FacetSource}
    (h : FacetHead (spliceSole args) name source rest) :
    (∀ f, facet args = .ok f ↔ FacetRest rest ∧ f.kind = facetMeaning rest source ∧
      (name = some f.name ∨ name = none ∧ source.Offers f.name)) ∧
    (∀ k, facet args = .error (.missingConstraintName k) ↔
      FacetRest rest ∧ name = none ∧ source.Lacks k) ∧
    (¬FacetRest rest → ∃ o, facet args = .error (.unrecognized "facet" o)) := by
  rw [facet_of_head h]
  obtain ⟨hrest, hfold⟩ | ⟨hrest, o, hfold⟩ := facetParts_cases rest
  · rw [hfold, ← kind_eq_facetMeaning]
    generalize facetScan.read (sheetOf facetScan.slot rest) = p
    change (∀ f, (facetName name source).map (fun n => Facet.mk n (p.kind source)) = .ok f ↔ _) ∧
      (∀ k, (facetName name source).map (fun n => Facet.mk n (p.kind source)) = .error _ ↔ _) ∧ _
    refine ⟨fun f => ?_, fun k => ?_, absurd hrest⟩
    · rw [← facetName_eq_ok_iff]
      obtain ⟨n, kind⟩ := f
      cases facetName name source with
      | error e => simp [Except.map]
      | ok n' => simp [Except.map, hrest, and_comm, eq_comm]
    · rw [← facetName_eq_error_iff]
      cases facetName name source with
      | error e => simp [Except.map, hrest]
      | ok n => simp [Except.map]
  · rw [hfold]
    refine ⟨fun f => ?_, fun k => ?_, fun _ => ⟨o, rfl⟩⟩
    · exact iff_of_false nofun fun hf => hrest hf.1
    · exact iff_of_false nofun fun hk => hrest hk.1

/-- A facet starts with a name, a source, or both, and is what the arguments after them say if they
are parts of a facet and there is a name; and a built bucket goes into the list of those with
computed bounds exactly if it is anchored. -/
theorem facet_reads (args : List Argument) :
    (spliceSole args = [] ∨
      (∃ a rest, spliceSole args = a :: rest ∧ ∀ source, ¬a.NamesSource source) ∨
      ∃ name source rest, FacetHead (spliceSole args) name source rest) ∧
    (spliceSole args = [] →
      facet args = .error (.arity "facet" "missing facet name or index")) ∧
    (∀ a rest, spliceSole args = a :: rest → (∀ source, ¬a.NamesSource source) →
      facet args = refuse "facet" a) ∧
    (∀ name source rest, FacetHead (spliceSole args) name source rest →
      (∀ f, facet args = .ok f ↔ FacetRest rest ∧ f.kind = facetMeaning rest source ∧
        (name = some f.name ∨ name = none ∧ source.Offers f.name)) ∧
      (∀ k, facet args = .error (.missingConstraintName k) ↔
        FacetRest rest ∧ name = none ∧ source.Lacks k) ∧
      (¬FacetRest rest → ∃ o, facet args = .error (.unrecognized "facet" o))) ∧
    ∀ parts built, bucket parts = .ok built →
      (∃ b, built.argument = .bucket b ∧ ¬b.Anchored) ∨
        ∃ b, built.argument = .computedBucket b ∧ b.Anchored := by
  refine ⟨exists_facetHead _, fun h => ?_, fun a rest h ha => ?_, fun _ _ _ => facet_cases,
    fun parts built h => ?_⟩
  · rw [facet, h]
    rfl
  · rw [facet, h, facetHead_refuses ha]
    rfl
  · obtain ⟨b, rfl, hb⟩ | ⟨b, rfl, hb⟩ := bucket_anchored h
    · exact .inl ⟨b, rfl, hb⟩
    · exact .inr ⟨b, rfl, hb⟩

/-- Buckets of both kinds among the other parts. -/
theorem facet_reads_interleaved :
    let cheap : Bucket := { name := "cheap", label := "cheap", lt := some (.number (.ofInt 10)) }
    let recent : Bucket :=
      { name := "recent", label := "recent", anchor := some "now", ge := some (.text "-P1D") }
    let dear : Bucket := { name := "dear", label := "dear", ge := some (.number (.ofInt 10)) }
    let rest := [.bucket cheap, .datatype ⟨"xs:int", none⟩, .computedBucket recent, .bucket dear]
    ∃ spec, facet (.text "price" :: rest) = .ok ⟨"price", .range spec⟩ ∧
      spec.bucket = some [cheap, dear] ∧ spec.computedBucket = some [recent] := by
  intro cheap recent dear rest
  have hhead : FacetHead (spliceSole (.text "price" :: rest)) (some "price")
      (.index (.jsonProperty "price")) rest := by
    refine .name "price" fun a ha source h => ?_
    cases ha
    cases h
  have hrest : FacetRest rest :=
    { parts := by
        simp only [rest, List.forall_mem_cons]
        exact ⟨.bucket _, .datatype _, .computed _, .bucket _, nofun⟩
      datatype := Nat.le_refl 1
      options := Nat.zero_le 1
      functions := Nat.zero_le 1 }
  obtain ⟨hok, -, -⟩ := (facet_reads (.text "price" :: rest)).2.2.2.1 _ _ _ hhead
  exact ⟨_, (hok ⟨"price", _⟩).2 ⟨hrest, rfl, .inl rfl⟩, rfl, rfl⟩

end Build

end SearchRequest
