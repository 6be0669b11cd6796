import SearchRequest.Proofs.Build.Splicing

/-!
# The order of arguments

Most functions that take a list of arguments read names at its start and file the others in slots,
by their kind.  The order of those others is then of no account.

* `SlotFunction` — the functions that file arguments, each with its slots.
* `SlotFunction.split` — the arguments at the start that say what the function is about, and those
  that it files.
* `SlotFunction.alike` — the same start and rearranged arguments after it make alike results.
* `SlotFunction.split_start` — where the start ends does not depend on the order of arguments
  that have slots.
* `SlotFunction.call_rearranged` — the same results and the same conflicts, in any order.
-/

namespace SearchRequest

open Argument

/-- The functions that file arguments in slots. -/
inductive SlotFunction where
  /-- All of several queries. -/
  | and
  /-- Queries at a distance from each other. -/
  | near
  /-- Directories. -/
  | directory
  /-- Terms anywhere. -/
  | term
  /-- Words or values of an index. -/
  | text (kind : TextKind)
  /-- A temporal collection as of a time. -/
  | lsqt
  /-- A property or element. -/
  | scope
  /-- Collections. -/
  | collection
  /-- A constraint that a library parses. -/
  | parseFunction
  /-- A facet. -/
  | facet
  /-- The criteria of a request. -/
  | setWhere (r : Request)
  /-- A geospatial index. -/
  | geo (kind : GeoKind)

namespace SlotFunction

/-- What a function makes. -/
abbrev Result : SlotFunction → Type
  | facet => Facet
  | setWhere _ => Request
  | _ => Query

/-- What a function makes of arguments. -/
def call : (f : SlotFunction) → List Argument → Build f.Result
  | and => Build.and
  | near => Build.near
  | directory => Build.directory
  | term => Build.term
  | text kind => Build.text kind
  | lsqt => Build.lsqt
  | scope => Build.scope
  | collection => Build.collection
  | parseFunction => Build.parseFunction
  | facet => Build.facet
  | setWhere r => r.setWhere
  | geo kind => Build.geoOf kind

/-- The name and the source of a facet, and the arguments after them. -/
def facetSplit : List Argument → List Argument × List Argument
  | .text name :: second :: rest =>
    if (Build.FacetSource.ofArgument? second).isSome then ([.text name, second], rest)
    else ([.text name], second :: rest)
  | args => (args.take 1, args.drop 1)

/-- The arguments that say what a function is about, and those that it files.  An example that is
the only argument of a where clause says it all. -/
def split (f : SlotFunction) (args : List Argument) : List Argument × List Argument :=
  let args := spliceSole args
  match f with
  | and => ([], flatten args)
  | near => ([], flatten args)
  | directory => ([], flatten args)
  | term => ([], args)
  | collection => ([], args)
  | text _ => (args.take 1, args.drop 1)
  | lsqt => (args.take 1, args.drop 1)
  | scope => (args.take 1, args.drop 1)
  | parseFunction => (args.take 1, args.drop 1)
  | facet => facetSplit args
  | setWhere _ =>
    match Build.soleExample? args with
    | some _ => (args, [])
    | none => ([], flatten args)
  | geo kind => Build.geoSplit kind args

/-- The slot of an argument. -/
def slot : SlotFunction → Argument → Option Slot
  | and => Build.andScan.slot
  | near => Build.nearScan.slot
  | directory => Build.directoryScan.slot
  | term => Build.termScan.slot
  | text kind => (Build.textScan kind).slot
  | lsqt => (Build.lsqtScan "").slot
  | scope => fun
    | .query (.criteria _) => some .queries
    | a => Build.scopeScan.slot a
  | collection => fun
    | .bind _ => some .name
    | .text _ => some .addresses
    | .list _ => some .addresses
    | _ => none
  | parseFunction => Build.parseFunctionScan.slot
  | facet => Build.facetScan.slot
  | setWhere _ => Build.whereScan.slot
  | geo kind => (Build.geoScan kind {}).slot

/-! ## Starts that are the same -/

variable {args args' : List Argument}

theorem facetHead_split (args : List Argument) :
    Build.facetHead args =
      (Build.facetHead (facetSplit args).1).map fun r => (r.1, r.2.1, (facetSplit args).2) := by
  cases args with
  | nil => rfl
  | cons first rest =>
    cases first with
    | text name =>
      cases rest with
      | nil => rfl
      | cons second rest =>
        cases hsource : Build.FacetSource.ofArgument? second <;>
          simp [Build.facetHead, facetSplit, hsource, Except.map]
    | query q =>
      cases hsource : Build.FacetSource.ofArgument? (.query q) <;>
        simp [Build.facetHead, facetSplit, hsource, Except.map, refuse]
    | _ => rfl

/-- Lists with the same argument at the start. -/
theorem take_one_cases (h : args.take 1 = args'.take 1) :
    args = [] ∧ args' = [] ∨
      ∃ a, args = a :: args.drop 1 ∧ args' = a :: args'.drop 1 := by
  match args, args', h with
  | [], [], _ => exact .inl ⟨rfl, rfl⟩
  | a :: _, b :: _, h =>
    obtain rfl : a = b := by simpa using h
    exact .inr ⟨a, rfl, rfl⟩

/-! ## Results of rearranged arguments -/

/-- Every slot of a property or element has room for one argument only, so that whichever comes
second is refused. -/
theorem scope_alike (h : args.Perm args') :
    Build.Alike (args.foldlM Build.ScopeParts.add {}) (args'.foldlM Build.ScopeParts.add {}) := by
  refine Build.scopeScan_strict.alike h fun k hk => ?_
  have hempty : ∀ as, sheetOf Build.scopeScan.slot as k = [] := by
    intro as
    refine List.filter_eq_nil_iff.2 fun a _ hslot => hk ?_
    have hk := of_decide_eq_true hslot
    cases a with
    | fragmentScope s => cases hk; rfl
    | bind n => cases hk; rfl
    | query q =>
      cases q with
      | criteria c => cases hk; rfl
      | _ => cases hk
    | _ => cases hk
  rw [hempty, hempty]

/-- Every slot of a constraint on collections has room for one argument only. -/
theorem collectionParts_alike (h : args.Perm args') :
    Build.Alike (args.foldlM Build.CollectionParts.add {})
      (args'.foldlM Build.CollectionParts.add {}) := by
  refine Build.collectionScan_strict.alike h fun k hk => ?_
  have hempty : ∀ as, sheetOf Build.collectionScan.slot as k = [] := by
    intro as
    refine List.filter_eq_nil_iff.2 fun a _ hslot => hk ?_
    have hk := of_decide_eq_true hslot
    cases a with
    | bind n => cases hk; rfl
    | text s => cases hk; rfl
    | _ => cases hk
  rw [hempty, hempty]

/-- Something other than a text is no address. -/
theorem mapM_asText_refuses (combinator : String) {a : Argument} (ha : a ∈ args)
    (htext : ∀ s, a ≠ .text s) :
    ∃ o, args.mapM (asText combinator) = .error (.unrecognized combinator o) := by
  induction args with
  | nil => cases ha
  | cons first rest ih =>
    rw [List.mapM_cons]
    cases first with
    | text s =>
      obtain ⟨o, ho⟩ := ih ((List.mem_cons.1 ha).resolve_left (htext s))
      exact ⟨o, by rw [ho]; rfl⟩
    | _ => exact ⟨_, rfl⟩

/-- The addresses in lists with the same addresses in the same order. -/
theorem uris_alike (h : Rearranged collection.slot args args') :
    Build.Alike (Build.uris "collection" args) (Build.uris "collection" args') := by
  by_cases hall : ∀ a ∈ args, collection.slot a = some .addresses
  · have hall' : ∀ a ∈ args', collection.slot a = some .addresses := fun a ha =>
      hall a (h.perm.mem_iff.2 ha)
    have hsame := h.inOrder .addresses (by decide)
    rw [sheetOf, sheetOf, List.filter_eq_self.2 (by simpa using hall),
      List.filter_eq_self.2 (by simpa using hall')] at hsame
    exact .of_eq (congrArg _ hsame)
  · obtain ⟨a, ha, hslot⟩ : ∃ a ∈ args, collection.slot a ≠ some .addresses := by
      simpa using hall
    have htext : ∀ s, a ≠ .text s := fun s hs => hslot (hs ▸ rfl)
    have hitems : toItems a = [a] := by
      cases a with
      | list items => exact absurd rfl hslot
      | _ => rfl
    have hmem : ∀ as : List Argument, a ∈ as → a ∈ flatten as := fun as ha =>
      List.mem_flatMap.2 ⟨a, ha, hitems ▸ List.mem_singleton_self a⟩
    obtain ⟨o, ho⟩ := mapM_asText_refuses "collection" (hmem args ha) htext
    obtain ⟨o', ho'⟩ :=
      mapM_asText_refuses "collection" (hmem args' (h.perm.mem_iff.1 ha)) htext
    rw [Build.uris, Build.uris, ho, ho']
    exact .refused _ _ _ _

theorem collection_alike (h : Rearranged collection.slot (spliceSole args) (spliceSole args')) :
    Build.Alike (Build.collection args) (Build.collection args') := by
  have hlength := h.perm.length_eq
  have hempty : (spliceSole args).isEmpty = (spliceSole args').isEmpty := h.perm.isEmpty_eq
  have hbind : (spliceSole args).any Build.isBind = (spliceSole args').any Build.isBind :=
    h.perm.any_eq
  simp only [Build.collection, hempty, hlength, hbind]
  split
  · exact .same _
  split
  · exact (collectionParts_alike h.perm).bind fun _ => .same _
  · exact (uris_alike h).bind fun _ => .same _

theorem whereClause_alike (r : Request)
    (hstart : ((setWhere r).split args).1 = ((setWhere r).split args').1)
    (hrest : Rearranged (setWhere r).slot ((setWhere r).split args).2
      ((setWhere r).split args').2) :
    Build.Alike (Build.whereClause args) (Build.whereClause args') := by
  simp only [split] at hstart hrest
  simp only [Build.whereClause]
  cases hexample : Build.soleExample? (spliceSole args) with
  | none =>
    cases hexample' : Build.soleExample? (spliceSole args') with
    | none =>
      simp only [hexample, hexample'] at hrest
      exact (Build.whereScan_lawful.alike hrest).bind fun _ => .same _
    | some v' =>
      -- an example stands alone, and so it cannot follow the same start as other arguments
      simp only [hexample, hexample'] at hstart
      rw [← hstart] at hexample'
      cases hexample'
  | some v =>
    cases hexample' : Build.soleExample? (spliceSole args') with
    | none =>
      simp only [hexample, hexample'] at hstart
      rw [hstart] at hexample
      cases hexample
    | some v' =>
      simp only [hexample, hexample'] at hstart
      rw [hstart, hexample'] at hexample
      cases hexample
      exact .same _

theorem alike (f : SlotFunction) (hstart : (f.split args).1 = (f.split args').1)
    (hrest : Rearranged f.slot (f.split args).2 (f.split args').2) :
    Build.Alike (f.call args) (f.call args') := by
  cases f with
  | and => exact (Build.andScan_lawful.alike hrest).bind fun _ => .same _
  | near => exact (Build.nearScan_lawful.alike hrest).bind fun _ => .same _
  | directory => exact (Build.directoryScan_lawful.alike hrest).bind fun _ => .same _
  | term => exact (Build.termScan_lawful.alike hrest).bind fun _ => .same _
  | text kind =>
    simp only [split] at hstart hrest
    simp only [call, Build.text]
    obtain ⟨h, h'⟩ | ⟨first, h, h'⟩ := take_one_cases hstart
    · rw [h, h']
      exact .same _
    · rw [h, h']
      refine (Build.Alike.same _).bind fun index => ?_
      exact ((Build.textScan_strict kind).toLawful.alike hrest).bind fun _ => .same _
  | lsqt =>
    simp only [split] at hstart hrest
    simp only [call, Build.lsqt]
    obtain ⟨h, h'⟩ | ⟨first, h, h'⟩ := take_one_cases hstart
    · rw [h, h']
      exact .same _
    · rw [h, h']
      cases first with
      | text collection =>
        exact ((Build.lsqtScan_lawful collection).alike hrest).bind fun _ => .same _
      | _ => exact .same _
  | scope =>
    simp only [split] at hstart hrest
    simp only [call, Build.scope]
    obtain ⟨h, h'⟩ | ⟨first, h, h'⟩ := take_one_cases hstart
    · rw [h, h']
      exact .same _
    · rw [h, h']
      refine (Build.Alike.same _).bind fun index => ?_
      exact (scope_alike hrest.perm).bind fun _ => .same _
  | collection => exact collection_alike hrest
  | parseFunction =>
    simp only [split] at hstart hrest
    simp only [call, Build.parseFunction]
    obtain ⟨h, h'⟩ | ⟨first, h, h'⟩ := take_one_cases hstart
    · rw [h, h']
      exact .same _
    · have hfold := Build.parseFunctionScan_lawful.alike hrest
      have hlength := hrest.perm.length_eq
      rw [h, h']
      generalize (spliceSole args).drop 1 = rest at hlength hfold ⊢
      generalize (spliceSole args').drop 1 = rest' at hlength hfold ⊢
      cases rest with
      | nil =>
        obtain rfl : rest' = [] := List.length_eq_zero_iff.1 hlength.symm
        exact .same _
      | cons second rest =>
        cases rest' with
        | nil => cases hlength
        | cons second' rest' =>
          refine (Build.Alike.same _).bind fun file => ?_
          exact hfold.bind fun _ => .same _
  | facet =>
    simp only [split] at hstart hrest
    simp only [call, Build.facet]
    rw [facetHead_split (spliceSole args), facetHead_split (spliceSole args'), hstart]
    cases Build.facetHead (facetSplit (spliceSole args')).1 with
    | error e => exact .same _
    | ok head => exact (Build.facetScan_lawful.alike hrest).bind fun _ => .same _
  | setWhere r =>
    exact (whereClause_alike r hstart hrest).bind fun _ => .same _
  | geo kind =>
    simp only [split] at hstart hrest
    simp only [call, Build.geoOf_eq, Build.length_eq_of_geoSplit kind hstart hrest.perm, hstart]
    have hnames := Build.geoNames_settles kind (spliceSole args').length
      (Build.geoSplit kind (spliceSole args')).1
    generalize Build.geoNames kind _ _ = names at hnames
    cases hnames with
    | misfit e h => exact .same _
    | ok names h =>
      exact ((Build.geoScan_strict kind h).toLawful.alike hrest).bind fun _ => .same _

/-! ## Where the start ends -/

/-- Where a list has no slot, arguments that have one are no lists. -/
theorem flatten_of_slots {slot : Argument → Option Slot} {rest : List Argument}
    (hlist : ∀ items, slot (.list items) = none) (hslots : ∀ a ∈ rest, ∃ k, slot a = some k) :
    flatten rest = rest := by
  refine Unlisted.flatten_eq fun items hitems => ?_
  obtain ⟨k, hk⟩ := hslots _ hitems
  rw [hlist] at hk
  cases hk

/-- The first arguments, however many, followed by the others in any order. -/
theorem splitAt_append {n : Nat} {rest : List Argument} (h : (args.drop n).Perm rest) :
    ((args.take n ++ rest).take n, (args.take n ++ rest).drop n) = (args.take n, rest) := by
  by_cases hn : n ≤ args.length
  · rw [List.take_left' (List.length_take_of_le hn), List.drop_left' (List.length_take_of_le hn)]
  · have hshort : args.length ≤ n := Nat.le_of_not_le hn
    rw [List.drop_eq_nil_of_le hshort] at h
    rw [h.nil_eq.symm, List.append_nil, List.take_of_length_le hshort,
      List.take_of_length_le hshort, List.drop_eq_nil_of_le hshort]

theorem leadingTwo_start {isName : Argument → Bool} {rest : List Argument}
    (h : (Build.leadingTwo isName args).2.Perm rest) (hrest : ∀ a ∈ rest, isName a = false) :
    Build.leadingTwo isName ((Build.leadingTwo isName args).1 ++ rest) =
      ((Build.leadingTwo isName args).1, rest) := by
  have hnone : Build.leadingTwo isName rest = ([], rest) := by
    match rest, hrest with
    | [], _ => rfl
    | [a], hrest => simp [Build.leadingTwo, hrest a]
    | a :: b :: _, hrest => simp [Build.leadingTwo, hrest a]
  have hone : ∀ first, isName first = true →
      Build.leadingTwo isName (first :: rest) = ([first], rest) := by
    intro first hfirst
    match rest, hrest with
    | [], _ => simp [Build.leadingTwo, hfirst]
    | a :: _, hrest => simp [Build.leadingTwo, hfirst, hrest a]
  match args, h with
  | [], _ => exact hnone
  | [first], h =>
    by_cases hfirst : isName first = true
    · simp only [Build.leadingTwo, if_pos hfirst]
      exact hone first hfirst
    · simp only [Build.leadingTwo, if_neg hfirst]
      exact hnone
  | first :: second :: more, h =>
    by_cases hfirst : isName first = true
    · by_cases hsecond : isName second = true
      · simp only [Build.leadingTwo, if_pos hfirst, if_pos hsecond, List.cons_append,
          List.nil_append]
      · simp only [Build.leadingTwo, if_pos hfirst, if_neg hsecond]
        exact hone first hfirst
    · simp only [Build.leadingTwo, if_neg hfirst]
      exact hnone

theorem facetSplit_start {rest : List Argument} (h : (facetSplit args).2.Perm rest)
    (hrest : ∀ a ∈ rest, (Build.FacetSource.ofArgument? a).isSome = false) :
    facetSplit ((facetSplit args).1 ++ rest) = ((facetSplit args).1, rest) := by
  have hone : ∀ name, facetSplit (.text name :: rest) = ([.text name], rest) := by
    intro name
    match rest, hrest with
    | [], _ => rfl
    | a :: _, hrest => simp [facetSplit, hrest a]
  cases args with
  | nil =>
    rw [h.nil_eq.symm]
    rfl
  | cons first more =>
    cases first with
    | text name =>
      cases more with
      | nil => exact hone name
      | cons second more =>
        by_cases hsource : (Build.FacetSource.ofArgument? second).isSome
        · simp [facetSplit, hsource]
        · simp only [facetSplit, if_neg hsource]
          exact hone name
    | _ => rfl

theorem attributePairCount_start (rest : List Argument)
    (h : (args.drop (Build.attributePairCount args)).Perm rest) :
    Build.attributePairCount (args.take (Build.attributePairCount args) ++ rest) =
      Build.attributePairCount args := by
  cases args with
  | nil =>
    rw [List.drop_nil] at h
    rw [h.nil_eq.symm]
    rfl
  | cons first more =>
    by_cases hname : ∃ name attr, first = .index (.element name (some attr))
    · obtain ⟨name, attr, rfl⟩ := hname
      rfl
    · have hcount : ∀ more, Build.attributePairCount (first :: more) = 3 := by
        intro more
        unfold Build.attributePairCount
        split
        · rename_i heq
          cases heq
          exact absurd ⟨_, _, rfl⟩ hname
        · rfl
      rw [hcount, List.take_succ_cons, List.cons_append, hcount]

theorem geoSplit_start {kind : GeoKind} {rest : List Argument}
    (h : (Build.geoSplit kind args).2.Perm rest)
    (hrest : ∀ a ∈ rest, ∃ k, (geo kind).slot a = some k) :
    Build.geoSplit kind ((Build.geoSplit kind args).1 ++ rest) =
      ((Build.geoSplit kind args).1, rest) := by
  cases kind with
  | attributePair =>
    simp only [Build.geoSplit] at h ⊢
    rw [attributePairCount_start rest h]
    exact splitAt_append h
  | element =>
    refine leadingTwo_start h fun a ha => ?_
    obtain ⟨k, hk⟩ := hrest a ha
    cases a with
    | text s => cases hk
    | qname q => cases hk
    | index i => cases hk
    | _ => rfl
  | elementPair => exact splitAt_append h
  | property =>
    refine leadingTwo_start h fun a ha => ?_
    obtain ⟨k, hk⟩ := hrest a ha
    cases a with
    | text s => cases hk
    | index i => cases hk
    | _ => rfl
  | propertyPair => exact splitAt_append h
  | path => exact splitAt_append h

theorem soleExample_of_slots {rest : List Argument}
    (hslots : ∀ a ∈ rest, ∃ k, Build.whereScan.slot a = some k) :
    Build.soleExample? rest = none := by
  match rest, hslots with
  | [], _ => rfl
  | [a], hslots =>
    obtain ⟨k, hk⟩ := hslots a (List.mem_singleton_self a)
    cases a with
    | byExample v => cases hk
    | json v => cases hk
    | _ => rfl
  | a :: _ :: _, _ => cases a <;> rfl

/-- Where the start ends does not depend on the order of arguments that have slots: none of them
looks like a name. -/
theorem split_start (f : SlotFunction) {rest : List Argument} (h : (f.split args).2.Perm rest)
    (hslots : ∀ a ∈ rest, ∃ k, f.slot a = some k)
    (hargs' : spliceSole args' = (f.split args).1 ++ rest) :
    f.split args' = ((f.split args).1, rest) := by
  cases f with
  | and =>
    simp only [split, hargs', List.nil_append, flatten_of_slots (fun _ => rfl) hslots]
  | near =>
    simp only [split, hargs', List.nil_append, flatten_of_slots (fun _ => rfl) hslots]
  | directory =>
    simp only [split, hargs', List.nil_append, flatten_of_slots (fun _ => rfl) hslots]
  | term =>
    simp only [split, hargs']
    rfl
  | text kind => 
    simp only [split, hargs'] at h ⊢
    exact splitAt_append h
  | lsqt =>
    simp only [split, hargs'] at h ⊢
    exact splitAt_append h
  | scope =>
    simp only [split, hargs'] at h ⊢
    exact splitAt_append h
  | collection =>
    simp only [split, hargs']
    rfl
  | parseFunction =>
    simp only [split, hargs'] at h ⊢
    exact splitAt_append h
  | facet =>
    simp only [split, hargs'] at h ⊢
    refine facetSplit_start h fun a ha => ?_
    obtain ⟨k, hk⟩ := hslots a ha
    cases a with
    | text s => cases hk
    | index i => cases hk
    | query q => cases hk
    | _ => rfl
  | setWhere r =>
    simp only [split] at h hargs' ⊢
    cases hexample : Build.soleExample? (spliceSole args) with
    | some v =>
      simp only [hexample] at h hargs' ⊢
      rw [h.nil_eq.symm, List.append_nil] at hargs'
      simp only [hargs', hexample, h.nil_eq]
    | none =>
      simp only [hexample, List.nil_append] at hargs' ⊢
      simp only [hargs', soleExample_of_slots hslots, flatten_of_slots (fun _ => rfl) hslots]
  | geo kind =>
    simp only [split, hargs'] at h ⊢
    exact geoSplit_start h hslots

/-- Arguments after the same start have the same result in any order in which no slot can tell the
difference, or are in conflict or without a name in any such order; and where the start ends does
not depend on the order, if all of them have slots. -/
theorem call_rearranged (f : SlotFunction) {args start rest rest' : List Argument}
    (hargs : f.split args = (start, rest)) (hrest : Rearranged f.slot rest rest') :
    (∀ args', f.split args' = (start, rest') →
      (∀ x, f.call args = .ok x ↔ f.call args' = .ok x) ∧
      (∀ c, f.call args = .error (.conflictingBinding c) ↔
        f.call args' = .error (.conflictingBinding c)) ∧
      ∀ i, f.call args = .error (.missingConstraintName i) ↔
        f.call args' = .error (.missingConstraintName i)) ∧
    ∀ args', spliceSole args' = start ++ rest' → (∀ a ∈ rest', ∃ k, f.slot a = some k) →
      f.split args' = (start, rest') := by
  obtain ⟨rfl, rfl⟩ : (f.split args).1 = start ∧ (f.split args).2 = rest := by
    rw [hargs]
    exact ⟨rfl, rfl⟩
  refine ⟨fun args' hargs' => ?_, fun args' hargs' hslots => f.split_start hrest.perm hslots hargs'⟩
  have halike : Build.Alike (f.call args) (f.call args') := by
    refine f.alike ?_ ?_
    · rw [hargs']
    · rw [hargs']
      exact hrest
  exact ⟨fun _ => halike.eq_iff fun _ _ => nofun, fun _ => halike.eq_iff fun _ _ => nofun,
    fun _ => halike.eq_iff fun _ _ => nofun⟩

/-- The datatype of a facet may come after its options and the first of its buckets. -/
theorem call_rearranged_facet :
    let cheap : Bucket := { name := "cheap", label := "cheap", lt := some (.number (.ofInt 10)) }
    let dear : Bucket := { name := "dear", label := "dear", ge := some (.number (.ofInt 10)) }
    let int : Datatype := ⟨"xs:int", none⟩
    let rest := [.datatype int, .bucket cheap, .facetOptions ["limit=5"], .bucket dear]
    let rest' := [.bucket cheap, .facetOptions ["limit=5"], .datatype int, .bucket dear]
    facet.split (.text "price" :: rest) = ([.text "price"], rest) ∧
      Rearranged facet.slot rest rest' ∧ (∀ a ∈ rest', ∃ k, facet.slot a = some k) ∧
      (∀ x, facet.call (.text "price" :: rest) = .ok x ↔
        facet.call (.text "price" :: rest') = .ok x) := by
  intro cheap dear int rest rest'
  have hrest : Rearranged facet.slot rest rest' :=
    { perm := (@List.perm_middle Argument (.datatype int)
        [.bucket cheap, .facetOptions ["limit=5"]] [.bucket dear]).symm
      roomy := fun k hk => by cases k <;> first | exact absurd hk (by decide) | decide
      inOrder := fun k hk => by cases k <;> first | exact absurd rfl hk | rfl }
  have hslots : ∀ a ∈ rest', ∃ k, facet.slot a = some k := by
    simp only [rest', List.forall_mem_cons]
    exact ⟨⟨_, rfl⟩, ⟨_, rfl⟩, ⟨_, rfl⟩, ⟨_, rfl⟩, nofun⟩
  have hsplit : facet.split (.text "price" :: rest) = ([.text "price"], rest) := rfl
  obtain ⟨hsame, hstart⟩ := facet.call_rearranged hsplit hrest
  exact ⟨hsplit, hrest, hslots, (hsame _ (hstart (.text "price" :: rest') rfl hslots)).1⟩

end SlotFunction

end SearchRequest
