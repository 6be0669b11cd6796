import SearchRequest.Proofs.Build.Summaries

/-!
# How the arguments of a range are read

A text among the arguments of a range may be the datatype, the comparison or a value.  Which of
them it is can be read off the whole list, without going through it argument by argument.

* `rangeMisfit?`, `firstMisfit?` — what does not fit of an argument after those before it, and the
  first argument of a list of which something does not.
* `rangeParts` — the datatype, the comparison, the values and the other marks of a list.
* `rangeMeaning`, `rangeReading` — what a range is to be, from an index and the parts after it, and
  from all arguments.
* `rangeParts_insert_text`, `rangeParts_insert_list` — where texts are safe from being tokens.
* `Build.foldlM_add_eq` — the scan finds the first argument that does not fit, or the parts.
* `Build.range_eq_rangeReading` — a range is what it reads.
* `Build.firstMisfit?_eq_none_iff_roomy` — arguments fit if each has a place, none of those places
  is taken twice, and a datatype that is given outright comes before any text that names one.
* `Build.range_alike`, `Build.range_eq_of_perm` — arguments in another order, with the same values
  in the same order.
-/

namespace SearchRequest

open Argument

/-! ## The reading -/

/-- Options of a range. -/
def Argument.rangeOptions? : Argument → Option (List String)
  | .rangeOptions os => some os
  | _ => none

/-- Whether an argument makes the index the default of a search text. -/
def Argument.isDefaultMark : Argument → Bool
  | .bindDefault => true
  | _ => false

/-- What does not fit of an argument after others: a mark whose place is taken, an item of a list
that is no literal, or an argument that is neither a mark nor a literal. -/
def rangeMisfit? (before : List Argument) : Argument → Option Argument
  | .datatype d =>
    if before.any fun a => (datatypeMark? a).isSome then some (.datatype d) else none
  | .fragmentScope s =>
    if before.any fun a => (scope? a).isSome then some (.fragmentScope s) else none
  | .rangeOptions os =>
    if before.any fun a => (rangeOptions? a).isSome then some (.rangeOptions os) else none
  | .bind n => if before.any fun a => (boundName? a).isSome then some (.bind n) else none
  | .bindDefault => if before.any isDefaultMark then some .bindDefault else none
  | .list items => items.find? fun a => a.scalar?.isNone
  | a => if a.scalar?.isSome then none else some a

/-- What does not fit of the first argument that does not, after some others. -/
def firstMisfit? : List Argument → List Argument → Option Argument
  | _, [] => none
  | before, a :: rest => (rangeMisfit? before a).or (firstMisfit? (before ++ [a]) rest)

/-- The parts of a range: the first datatype that is given or named, the first comparison, the
values, and the first mark of each other kind. -/
def rangeParts (rest : List Argument) : Build.RangeParts where
  datatype := rest.findSome? datatypeMark?
  fragmentScope := rest.findSome? scope?
  options := rest.findSome? rangeOptions?
  operator := rest.findSome? comparison?
  values := rangeValues rest
  name := rest.findSome? boundName?
  isDefault := rest.any isDefaultMark

/-- What an index and the parts after it are to make: criteria of all values, with equality for a
comparison that is missing, or a constraint or default without any. -/
def rangeMeaning (index : IndexedName) (p : Build.RangeParts) : Build Query :=
  let spec : RangeSpec :=
    { index := IndexFields.of index
      datatype := p.datatype.map Datatype.name
      collation := p.datatype.bind Datatype.collation
      fragmentScope := p.fragmentScope
      rangeOption := p.options }
  match p.values, p.name, p.isDefault with
  | [], none, false => do
    let name ← index.requireName
    .ok (.constraint ⟨name, .range spec⟩)
  | [], some name, false => .ok (.constraint ⟨name, .range spec⟩)
  | [], none, true => .ok (.default (.range spec))
  | v :: vs, none, false =>
    .ok (.criteria (.range { spec with
      value := some (v :: vs)
      operator := some (p.operator.getD .eq) }))
  | _, _, _ => .error (.conflictingBinding "range")

/-- What arguments are to make: the first names the index, and the others fit. -/
def rangeReading (args : List Argument) : Build Query :=
  match spliceSole args with
  | [] => .error (.arity "range" "missing index")
  | first :: rest => do
    let index ← first.asIndex "range"
    match firstMisfit? [] rest with
    | some a => refuse "range" a
    | none => rangeMeaning index (rangeParts rest)

/-! ## Marks that are there -/

section Marks

variable {M : Type} {mark? : Argument → Option M} {args : List Argument}

theorem isNone_findSome?_eq :
    (args.findSome? mark?).isNone = !(args.any fun a => (mark? a).isSome) := by
  rw [any_eq_isSome_findSome?, Option.not_isSome]

/-- An argument that marks nothing does not hide a mark when it is left out. -/
theorem findSome?_eraseP {p : Argument → Bool} (h : ∀ a, p a → mark? a = none) :
    (args.eraseP p).findSome? mark? = args.findSome? mark? := by
  induction args with
  | nil => rfl
  | cons a rest ih =>
    cases hp : p a with
    | true => rw [List.eraseP_cons_of_pos hp, List.findSome?_cons, h a hp]
    | false =>
      rw [List.eraseP_cons_of_neg (by simp [hp]), List.findSome?_cons, List.findSome?_cons, ih]

theorem findSome?_comparison?_unmarked (args : List Argument) :
    (unmarked datatypeMark? args).findSome? comparison? = args.findSome? comparison? :=
  findSome?_eraseP fun _ => comparison?_of_datatypeMark?

/-- An argument that marks nothing stays where it is, whichever mark is left out. -/
theorem exists_unmarked_insert (mark? : Argument → Option M) (before after : List Argument) :
    ∃ before' after', unmarked mark? (before ++ after) = before' ++ after' ∧
      ∀ a, mark? a = none → unmarked mark? (before ++ a :: after) = before' ++ a :: after' := by
  cases hany : before.any fun a => (mark? a).isSome with
  | true =>
    refine ⟨unmarked mark? before, after, ?_, fun a _ => ?_⟩ <;>
      simp [unmarked, List.eraseP_append, hany]
  | false =>
    refine ⟨before, unmarked mark? after, ?_, fun a ha => ?_⟩
    · simp [unmarked, List.eraseP_append, hany]
    · simp [unmarked, List.eraseP_append, hany, ha]

/-- After a mark, nothing that follows is left out. -/
theorem unmarked_append (before after : List Argument)
    (h : before.any fun a => (mark? a).isSome) :
    unmarked mark? (before ++ after) = unmarked mark? before ++ after := by
  rw [unmarked, List.eraseP_append, if_pos h]
  rfl

end Marks

/-! ## Texts that are safe from being tokens -/

/-- The items of a list are values, whatever they spell, and wherever the list stands. -/
theorem rangeParts_insert_list (before after : List Argument) :
    ∃ us vs, rangeValues (before ++ after) = us ++ vs ∧
      ∀ items, rangeParts (before ++ .list items :: after) =
        { rangeParts (before ++ after) with values := us ++ (items.filterMap scalar? ++ vs) } := by
  obtain ⟨before', after', hwithout, hwith⟩ := exists_unmarked_insert datatypeMark? before after
  obtain ⟨before'', after'', hwithout', hwith'⟩ :=
    exists_unmarked_insert comparison? before' after'
  refine ⟨before''.flatMap literals, after''.flatMap literals, ?_, fun items => ?_⟩
  · rw [rangeValues, hwithout, hwithout', List.flatMap_append]
  · have hvalues : rangeValues (before ++ .list items :: after) =
        before''.flatMap literals ++ (items.filterMap scalar? ++ after''.flatMap literals) := by
      rw [rangeValues, hwith _ rfl, hwith' _ rfl, List.flatMap_append, List.flatMap_cons]
      rfl
    simp only [rangeParts, hvalues, List.findSome?_append, List.any_append]
    rfl

/-- Once there are a datatype and a comparison, every literal is a value. -/
theorem rangeValues_append {before : List Argument} (after : List Argument)
    (hdatatype : before.any fun a => (datatypeMark? a).isSome)
    (hcomparison : before.any fun a => (comparison? a).isSome) :
    rangeValues (before ++ after) = rangeValues before ++ after.flatMap literals := by
  have hstays : (unmarked datatypeMark? before).any fun a => (comparison? a).isSome := by
    rw [any_eq_isSome_findSome?, findSome?_comparison?_unmarked, ← any_eq_isSome_findSome?]
    exact hcomparison
  rw [rangeValues, unmarked_append before after hdatatype, unmarked_append _ after hstays,
    List.flatMap_append]
  rfl

/-- Once there are a datatype and a comparison, a text is a value, whatever it spells. -/
theorem rangeParts_insert_text {before : List Argument} (after : List Argument)
    (hdatatype : before.any fun a => (datatypeMark? a).isSome)
    (hcomparison : before.any fun a => (comparison? a).isSome) (s : String) :
    rangeParts (before ++ .text s :: after) =
      { rangeParts (before ++ after) with
        values := rangeValues before ++ .text s :: after.flatMap literals } := by
  have hvalues := rangeValues_append (.text s :: after) hdatatype hcomparison
  rw [any_eq_isSome_findSome?, Option.isSome_iff_exists] at hdatatype hcomparison
  obtain ⟨d, hd⟩ := hdatatype
  obtain ⟨o, ho⟩ := hcomparison
  simp only [rangeParts, List.findSome?_append, hd, ho, hvalues, List.flatMap_cons,
    List.findSome?_cons, List.any_append, List.any_cons]
  rfl

/-- A text names one of the datatypes if it is the name, but for white space around it. -/
theorem datatypeMark?_text_iff (s : String) (d : Datatype) :
    datatypeMark? (.text s) = some d ↔
      d.name ∈ datatypeNames ∧ d.name = Text.trim s ∧ d.collation = none := by
  rw [datatypeMark?, Option.map_eq_some_iff]
  constructor
  · rintro ⟨n, hn, rfl⟩
    exact ⟨List.mem_of_find?_eq_some hn, by simpa using List.find?_some hn, rfl⟩
  · obtain ⟨name, collation⟩ := d
    rintro ⟨hmem, hname, hcollation⟩
    cases hcollation
    cases hknown : knownDatatype? s with
    | none => exact absurd (decide_eq_true hname) (List.find?_eq_none.1 hknown name hmem)
    | some n =>
      have hn : n = Text.trim s := by simpa using List.find?_some hknown
      exact ⟨n, rfl, congrArg (Datatype.mk · none) (hn.trans hname.symm)⟩

/-- A text is a comparison if it is the token, but for white space around it. -/
theorem comparison?_text_iff (s : String) (o : RangeOperator) :
    comparison? (.text s) = some o ↔ o.token = Text.trim s := by
  have htokens : ∀ o o' : RangeOperator, o.token = o'.token → o = o' := by
    intro o o'
    cases o <;> cases o' <;> decide
  constructor
  · exact fun h => by simpa using List.find?_some h
  · intro h
    cases hfind : comparison? (.text s) with
    | none =>
      have hall : o ∈ RangeOperator.all := by cases o <;> decide
      exact absurd (decide_eq_true h) (List.find?_eq_none.1 hfind o hall)
    | some o' =>
      have ho' : o'.token = Text.trim s := by simpa using List.find?_some hfind
      rw [htokens o' o (ho'.trans h.symm)]

namespace Build

/-! ## What the scan finds -/

theorem rangeScan_scope : Takes rangeScan.slot .scope scope? :=
  takes_of_decide fun a => by cases a <;> first | rfl | simp [rangeScan, scope?]

theorem rangeScan_options : Takes rangeScan.slot .options rangeOptions? :=
  takes_of_decide fun a => by cases a <;> first | rfl | simp [rangeScan, rangeOptions?]

theorem findSome?_rangeOptions? (args : List Argument) :
    (sheetOf rangeScan.slot args .options).findSome? options? = args.findSome? rangeOptions? := by
  refine rangeScan_options.findSome?_sheetOf_of_agree (fun a ha => ?_) args
  cases a with
  | rangeOptions os => rfl
  | _ => cases ha

theorem any_isDefaultMark (args : List Argument) :
    (!(sheetOf rangeScan.slot args .default).isEmpty) = args.any isDefaultMark := by
  rw [Bool.eq_iff_iff, sheetOf_default_isEmpty args IndexFunction.rangeScan_default_iff,
    List.any_eq_true]
  constructor
  · exact fun h => ⟨_, h, rfl⟩
  · rintro ⟨a, ha, hmark⟩
    cases a with
    | bindDefault => exact ha
    | _ => cases hmark

/-- Arguments that fit add up to the parts that can be read off them. -/
theorem eq_rangeParts {args : List Argument} {q : RangeParts}
    (h : args.foldlM RangeParts.add {} = .ok q) : q = rangeParts args := by
  obtain ⟨-, hq⟩ := eq_of_foldlM h
  rw [hq, rangeScan_scope.findSome?_sheetOf, findSome?_rangeOptions?,
    IndexFunction.rangeScan_name.findSome?_sheetOf, any_isDefaultMark,
    findSome?_comparison?_unmarked]
  rfl

/-- Literals in a list, or the first item that is none. -/
theorem mapM_asScalar_eq (combinator : String) (items : List Argument) :
    items.mapM (asScalar combinator) =
      match items.find? fun a => a.scalar?.isNone with
      | some a => refuse combinator a
      | none => .ok (items.filterMap scalar?) := by
  induction items with
  | nil => rfl
  | cons a rest ih =>
    rw [List.mapM_cons, asScalar, ih, List.find?_cons, List.filterMap_cons]
    cases a.scalar? with
    | none => rfl
    | some v => cases rest.find? fun a => a.scalar?.isNone <;> rfl

theorem addValue_refuses {p : RangeParts} {a : Argument} (ha : a.scalar? = none) :
    p.addValue a = refuse "range" a := by
  rw [RangeParts.addValue, asScalar, ha]
  rfl

/-- A mark is refused where its place is taken. -/
theorem add_mark {p q : RangeParts} {a : Argument} (taken : Bool) (ha : a.scalar? = none) :
    match (if taken then some a else none) with
    | some b => (if !taken then .ok q else p.addValue a) = refuse "range" b
    | none => ∃ r, (if !taken then .ok q else p.addValue a) = .ok r := by
  cases taken with
  | true => exact addValue_refuses ha
  | false => exact ⟨q, rfl⟩

/-- An argument is refused for what does not fit of it after those before it. -/
theorem add_rangeParts (before : List Argument) (a : Argument) :
    match rangeMisfit? before a with
    | some b => (rangeParts before).add a = refuse "range" b
    | none => ∃ q, (rangeParts before).add a = .ok q := by
  cases a with
  | datatype _ | fragmentScope _ | rangeOptions _ | bind _ =>
    simp only [rangeMisfit?, RangeParts.add, rangeParts, isNone_findSome?_eq]
    exact add_mark _ rfl
  | bindDefault =>
    cases htaken : before.any isDefaultMark with
    | true =>
      simp only [rangeMisfit?, RangeParts.add, rangeParts, htaken, if_true]
      exact addValue_refuses rfl
    | false =>
      simp only [rangeMisfit?, RangeParts.add, rangeParts, htaken, Bool.false_eq_true, if_false]
      exact ⟨_, rfl⟩
  | list items =>
    simp only [rangeMisfit?, RangeParts.add, mapM_asScalar_eq]
    cases items.find? fun a => a.scalar?.isNone with
    | some b => rfl
    | none => exact ⟨_, rfl⟩
  | null | text _ | number _ | bool _ | instant _ => exact ⟨_, rfl⟩
  | _ => rfl

/-- A scan that goes on after arguments that fit. -/
theorem foldlM_add_from {before : List Argument} {p : RangeParts}
    (h : before.foldlM RangeParts.add {} = .ok p) (rest : List Argument) :
    rest.foldlM RangeParts.add p =
      match firstMisfit? before rest with
      | some a => refuse "range" a
      | none => .ok (rangeParts (before ++ rest)) := by
  induction rest generalizing before p with
  | nil =>
    rw [List.append_nil, firstMisfit?, eq_rangeParts h]
    rfl
  | cons a rest ih =>
    have hadd := add_rangeParts before a
    rw [List.foldlM_cons, firstMisfit?, eq_rangeParts h]
    cases hmisfit : rangeMisfit? before a with
    | some b =>
      rw [hmisfit] at hadd
      rw [hadd]
      rfl
    | none =>
      rw [hmisfit] at hadd
      obtain ⟨q, hq⟩ := hadd
      have hnext : (before ++ [a]).foldlM RangeParts.add {} = .ok q := by
        rw [List.foldlM_append, h, eq_rangeParts h]
        change [a].foldlM RangeParts.add (rangeParts before) = _
        rw [List.foldlM_cons, hq]
        rfl
      rw [hq, Option.none_or, List.append_cons before a rest]
      exact ih hnext

/-- A scan finds the first argument that does not fit, or the parts. -/
theorem foldlM_add_eq (rest : List Argument) :
    rest.foldlM RangeParts.add {} =
      match firstMisfit? [] rest with
      | some a => refuse "range" a
      | none => .ok (rangeParts rest) := @foldlM_add_from [] {} rfl rest

theorem criteriaOrBinding_eq_rangeMeaning (index : IndexedName) (p : RangeParts) :
    criteriaOrBinding "range" index (p.criteria? index) p.name
      (if p.isDefault then some (.range (p.spec index)) else none) (.range (p.spec index)) =
      rangeMeaning index p := by
  obtain ⟨datatype, fragmentScope, options, operator, values, name, isDefault⟩ := p
  cases values <;> cases name <;> cases isDefault <;> rfl

/-- A range is what it reads. -/
theorem range_eq_rangeReading (args : List Argument) : range args = rangeReading args := by
  rw [range, rangeReading]
  cases spliceSole args with
  | nil => rfl
  | cons first rest =>
    simp only [foldlM_add_eq]
    cases first.asIndex "range" with
    | error e => rfl
    | ok index =>
      cases firstMisfit? [] rest with
      | some a => rfl
      | none => exact criteriaOrBinding_eq_rangeMeaning index _

/-! ## Arguments in another order -/

section Order

variable {before rest rest' : List Argument}

theorem firstMisfit?_eq_none_iff :
    firstMisfit? before rest = none ↔
      ∀ us a vs, rest = us ++ a :: vs → rangeMisfit? (before ++ us) a = none := by
  induction rest generalizing before with
  | nil => exact iff_of_true rfl fun us a vs h => nomatch (List.append_eq_nil_iff.1 h.symm).2
  | cons a rest ih =>
    rw [firstMisfit?, Option.or_eq_none_iff, ih]
    constructor
    · rintro ⟨ha, hrest⟩ us b vs h
      obtain ⟨rfl, h⟩ | ⟨us, rfl, rfl⟩ := List.cons_eq_append_iff.1 h
      · cases h
        rw [List.append_nil]
        exact ha
      · rw [List.append_cons]
        exact hrest us b vs rfl
    · refine fun h => ⟨?_, fun us b vs hrest => ?_⟩
      · simpa using h [] a rest rfl
      · rw [List.append_assoc]
        exact h (a :: us) b vs (congrArg (a :: ·) hrest)

/-- A mark that is left comes after another one. -/
theorem exists_of_mem_unmarked {M : Type} (mark? : Argument → Option M) {a : Argument}
    (ha : (mark? a).isSome) (h : a ∈ unmarked mark? rest) :
    ∃ us vs, rest = us ++ a :: vs ∧ us.any fun a => (mark? a).isSome := by
  rw [unmarked] at h
  induction rest with
  | nil => cases h
  | cons b rest ih =>
    cases hb : (mark? b).isSome with
    | true =>
      simp only [List.eraseP_cons, hb, cond_true] at h
      obtain ⟨us, vs, rfl⟩ := List.append_of_mem h
      exact ⟨b :: us, vs, rfl, by simp [hb]⟩
    | false =>
      simp only [List.eraseP_cons, hb, cond_false] at h
      obtain rfl | h := List.mem_cons.1 h
      · rw [ha] at hb
        cases hb
      · obtain ⟨us, vs, rfl, hus⟩ := ih h
        exact ⟨b :: us, vs, rfl, by simp [hus]⟩

/-- Where there is room for a mark, there is none of its kind before it. -/
theorem any_eq_false_of_roomy {M : Type} (mark? : Argument → Option M) {a : Argument} {k : Slot}
    {us vs : List Argument} (hk : k.once) (hroomy : Scan.Roomy rangeScan.slot (us ++ a :: vs))
    (ha : rangeScan.slot a = some k) (hmark : ∀ b, (mark? b).isSome → rangeScan.slot b = some k) :
    (us.any fun b => (mark? b).isSome) = false := by
  rw [List.append_cons] at hroomy
  have hempty := hroomy.of_append.eq_nil ha hk
  refine List.any_eq_false.2 fun b hb hsome => ?_
  exact List.filter_eq_nil_iff.1 hempty b hb (decide_eq_true (hmark b hsome))

/-- A datatype that is given outright comes before all other marks of a datatype, and there is but
one of them. -/
def DatatypeFirst (rest : List Argument) : Prop :=
  ∀ d, .datatype d ∉ unmarked datatypeMark? rest

/-- An argument fits if it has a place that is not taken, and no datatype that is given outright
comes after another mark. -/
theorem rangeMisfit?_eq_none_of_roomy {us vs : List Argument} {a : Argument} {k : Slot}
    (hk : rangeScan.slot a = some k) (hroomy : Scan.Roomy rangeScan.slot (us ++ a :: vs))
    (hfirst : DatatypeFirst (us ++ a :: vs)) : rangeMisfit? us a = none := by
  cases a with
  | datatype d =>
    have hus : (us.any fun b => (datatypeMark? b).isSome) = false := by
      rw [Bool.eq_false_iff]
      intro hus
      refine hfirst d ?_
      rw [unmarked_append us _ hus]
      exact List.mem_append_right _ List.mem_cons_self
    simp only [rangeMisfit?, hus, Bool.false_eq_true, if_false]
  | fragmentScope s =>
    have hus := any_eq_false_of_roomy scope? rfl hroomy rfl fun b hb => by
      cases b with
      | fragmentScope _ => rfl
      | _ => cases hb
    simp only [rangeMisfit?, hus, Bool.false_eq_true, if_false]
  | rangeOptions os =>
    have hus := any_eq_false_of_roomy rangeOptions? rfl hroomy rfl fun b hb => by
      cases b with
      | rangeOptions _ => rfl
      | _ => cases hb
    simp only [rangeMisfit?, hus, Bool.false_eq_true, if_false]
  | bind n =>
    have hus := any_eq_false_of_roomy boundName? rfl hroomy rfl fun b hb => by
      cases b with
      | bind _ => rfl
      | _ => cases hb
    simp only [rangeMisfit?, hus, Bool.false_eq_true, if_false]
  | bindDefault =>
    rw [List.append_cons] at hroomy
    have hempty := hroomy.of_append.eq_nil (k := .default) rfl rfl
    have hus : us.any isDefaultMark = false := by
      rw [← any_isDefaultMark, hempty]
      rfl
    simp only [rangeMisfit?, hus, Bool.false_eq_true, if_false]
  | list items =>
    obtain ⟨hitems, -⟩ : (∀ a ∈ items, a.scalar?.isSome) ∧ .texts = k := by
      simpa [rangeScan, isLiteral] using hk
    exact List.find?_eq_none.2 fun a ha => by simp [Option.isNone_eq_false_iff.2 (hitems a ha)]
  | null | text _ | number _ | bool _ | instant _ => rfl
  | _ => cases hk

/-- Arguments fit if each has a place, none of those places is taken twice, and a datatype that is
given outright comes first. -/
theorem firstMisfit?_eq_none_iff_roomy :
    firstMisfit? [] rest = none ↔
      rangeScan.Filed rest ∧ Scan.Roomy rangeScan.slot rest ∧ DatatypeFirst rest := by
  rw [firstMisfit?_eq_none_iff]
  constructor
  · intro h
    have hfold : rest.foldlM RangeParts.add {} = .ok (rangeParts rest) := by
      rw [foldlM_add_eq, firstMisfit?_eq_none_iff.2 h]
    obtain ⟨hfiled, hroomy, -⟩ := rangeScan_guarded.eq_read hfold
    refine ⟨hfiled, hroomy, fun d hd => ?_⟩
    obtain ⟨us, vs, hrest, hus⟩ := exists_of_mem_unmarked datatypeMark? rfl hd
    have hfits := h us _ vs hrest
    simp only [rangeMisfit?, List.nil_append, hus] at hfits
    cases hfits
  · rintro ⟨hfiled, hroomy, hfirst⟩ us a vs rfl
    obtain ⟨k, hk⟩ := hfiled a (List.mem_append_right us List.mem_cons_self)
    exact rangeMisfit?_eq_none_of_roomy hk hroomy hfirst

/-- Whether a datatype comes first can be told by counting, the text that names one being left. -/
theorem datatypeFirst_iff :
    DatatypeFirst rest ↔
      (rest.countP fun a => a.datatype?.isSome) + (datatypeTexts rest).length ≤ 1 := by
  have hcount : DatatypeFirst rest ↔
      ((unmarked datatypeMark? rest).countP fun a => a.datatype?.isSome) = 0 := by
    rw [List.countP_eq_zero]
    constructor
    · intro h a ha hdatatype
      cases a with
      | datatype d => exact h d ha
      | _ => cases hdatatype
    · exact fun h d hd => h _ hd rfl
  rw [hcount, (perm_unmarked datatypeMark? rest).countP_eq, List.countP_append, datatypeTexts]
  cases hfind : rest.find? fun a => (datatypeMark? a).isSome with
  | none =>
    -- without any mark there is no datatype to be counted
    have hnone : ((unmarked datatypeMark? rest).countP fun a => a.datatype?.isSome) = 0 :=
      hcount.1 fun d hd =>
        List.find?_eq_none.1 hfind _ (List.mem_of_mem_eraseP hd) rfl
    simp [hnone]
  | some a =>
    have hdatatype : (datatypeMark? a).isSome := by simpa using List.find?_some hfind
    cases a with
    | text s => simp [literals, scalar?, datatype?]
    | datatype d => simp [literals, scalar?, datatype?]
    | _ => cases hdatatype

theorem DatatypeFirst.of_perm (h : DatatypeFirst rest) (hperm : rest.Perm rest')
    (hvalues : (rangeValues rest).Perm (rangeValues rest')) : DatatypeFirst rest' := by
  rw [datatypeFirst_iff] at h ⊢
  rwa [← hperm.countP_eq, ← (texts_eq hperm hvalues).1]

/-- Arguments fit in any order in which they have the same values. -/
theorem firstMisfit?_eq_none_of_perm (h : firstMisfit? [] rest = none) (hperm : rest.Perm rest')
    (hvalues : (rangeValues rest).Perm (rangeValues rest')) : firstMisfit? [] rest' = none := by
  obtain ⟨hfiled, hroomy, hfirst⟩ := firstMisfit?_eq_none_iff_roomy.1 h
  exact firstMisfit?_eq_none_iff_roomy.2
    ⟨fun a ha => hfiled a (hperm.mem_iff.2 ha), hroomy.of_perm hperm, hfirst.of_perm hperm hvalues⟩

/-- Arguments in another order that keeps the values as they are add up to the same, or they are
refused as well. -/
theorem foldlM_alike (hperm : rest.Perm rest') (hvalues : rangeValues rest = rangeValues rest') :
    Alike (rest.foldlM RangeParts.add {}) (rest'.foldlM RangeParts.add {}) := by
  have hfold := foldlM_add_eq rest
  have hfold' := foldlM_add_eq rest'
  cases hmisfit : firstMisfit? [] rest with
  | none =>
    rw [hmisfit] at hfold
    rw [firstMisfit?_eq_none_of_perm hmisfit hperm (.of_eq hvalues)] at hfold'
    rw [hfold, hfold', eq_of_perm hperm hfold hfold' hvalues]
    exact .same _
  | some a =>
    cases hmisfit' : firstMisfit? [] rest' with
    | none =>
      rw [firstMisfit?_eq_none_of_perm hmisfit' hperm.symm (.of_eq hvalues.symm)] at hmisfit
      cases hmisfit
    | some a' =>
      rw [hmisfit] at hfold
      rw [hmisfit'] at hfold'
      rw [hfold, hfold']
      exact .refused _ _ _ _

/-- The same index, and then the same arguments in another order that keeps the values as they
are. -/
theorem range_alike {args args' : List Argument} {first : Argument}
    (hargs : spliceSole args = first :: rest) (hargs' : spliceSole args' = first :: rest')
    (hperm : rest.Perm rest') (hvalues : rangeValues rest = rangeValues rest') :
    Alike (range args) (range args') := by
  rw [range, range, hargs, hargs']
  exact (Alike.same _).bind fun index => (foldlM_alike hperm hvalues).bind fun _ => .same _

/-- What is refused is the same in another order if it comes first in both. -/
theorem range_eq_of_perm {args args' : List Argument} {first : Argument}
    (hargs : spliceSole args = first :: rest) (hargs' : spliceSole args' = first :: rest')
    (hperm : rest.Perm rest') (hvalues : rangeValues rest = rangeValues rest')
    (hmisfit : firstMisfit? [] rest = firstMisfit? [] rest') : range args = range args' := by
  have hfold : rest.foldlM RangeParts.add {} = rest'.foldlM RangeParts.add {} := by
    cases hfits : firstMisfit? [] rest with
    | none =>
      have hok := foldlM_add_eq rest
      have hok' := foldlM_add_eq rest'
      rw [hfits] at hok
      rw [← hmisfit, hfits] at hok'
      rw [hok, hok', eq_of_perm hperm hok hok' hvalues]
    | some a => rw [foldlM_add_eq, foldlM_add_eq, ← hmisfit, hfits]
  simp only [range, hargs, hargs', hfold]

end Order

/-- A range is what it reads; it reads the same in any order of the arguments after the index that
keeps the values as they are, but for which of several arguments that do not fit is named; and a
text of a user is a value after a datatype and a comparison, and inside a list. -/
theorem range_reads (args : List Argument) :
    range args = rangeReading args ∧
    (∀ first rest args' rest', spliceSole args = first :: rest →
      spliceSole args' = first :: rest' → rest.Perm rest' → rangeValues rest = rangeValues rest' →
        Alike (range args) (range args') ∧
        (firstMisfit? [] rest = firstMisfit? [] rest' → range args = range args')) ∧
    (∀ before after, (before.any fun a => (datatypeMark? a).isSome) →
      (before.any fun a => (comparison? a).isSome) → ∀ s,
        rangeParts (before ++ .text s :: after) =
          { rangeParts (before ++ after) with
            values := rangeValues before ++ .text s :: after.flatMap literals }) ∧
    (∀ before after, ∃ us vs, rangeValues (before ++ after) = us ++ vs ∧
      ∀ items, rangeParts (before ++ .list items :: after) =
        { rangeParts (before ++ after) with
          values := us ++ (items.filterMap scalar? ++ vs) }) ∧
    (∀ s d, datatypeMark? (.text s) = some d ↔
      d.name ∈ datatypeNames ∧ d.name = Text.trim s ∧ d.collation = none) ∧
    ∀ s o, comparison? (.text s) = some o ↔ o.token = Text.trim s := by
  refine ⟨range_eq_rangeReading args, fun first rest args' rest' hargs hargs' hperm hvalues => ?_,
    fun before after hdatatype hcomparison => rangeParts_insert_text after hdatatype hcomparison,
    rangeParts_insert_list, datatypeMark?_text_iff, comparison?_text_iff⟩
  exact ⟨range_alike hargs hargs' hperm hvalues, range_eq_of_perm hargs hargs' hperm hvalues⟩

/-- A comparison before a datatype, and a value that spells another comparison after both. -/
theorem range_reads_token_last :
    let args := [.text "price", .text " >= ", .text "xs:int", .text "<"]
    let args' := [.text "price", .text "xs:int", .text " >= ", .text "<"]
    range args = range args' ∧ ∃ spec, range args = .ok (.criteria (.range spec)) ∧
      spec.datatype = some "xs:int" ∧ spec.operator = some .ge ∧
      spec.value = some [.text "<"] := by
  intro args args'
  obtain ⟨hreading, hsame, -⟩ := range_reads args
  refine ⟨(hsame _ _ args' _ rfl rfl (List.Perm.swap _ _ _) rfl).2 rfl, ?_⟩
  rw [hreading]
  exact ⟨_, rfl, rfl, rfl, rfl⟩

end Build

end SearchRequest
