import SearchRequest.Proofs.Build.Scans
import SearchRequest.Proofs.Document.Yields

/-!
# The scan of `range`

A text is the datatype of a range, its comparison or one of its values.  The first text that names
a datatype gives the datatype, unless that is given outright, and of the others the first token
gives the comparison; whatever is left are values.

* `Argument.datatypeMark?`, `Argument.comparison?` — what a text marks, or an argument outright.
* `unmarked` — arguments without the first mark of a kind.
* `rangeValues` — the values among arguments.
* `Build.rangeScan` — the scan, which is guarded.
* `Build.eq_with_values` — the same arguments in another order add up to the same but for the order
  of the values, if they have the same values; `Build.rangeValues_perm`: when they do.
-/

namespace SearchRequest

/-! ## Marks -/

namespace Argument

/-- The datatype that an argument gives, or that a text names. -/
def datatypeMark? : Argument → Option Datatype
  | .datatype d => some d
  | .text s => (knownDatatype? s).map fun name => ⟨name, none⟩
  | _ => none

/-- The comparison that a text is the token of. -/
def comparison? : Argument → Option RangeOperator
  | .text s => RangeOperator.ofToken? s
  | _ => none

end Argument

open Argument

/-- The arguments without the first mark of a kind. -/
def unmarked {M : Type} (mark? : Argument → Option M) (args : List Argument) : List Argument :=
  args.eraseP fun a => (mark? a).isSome

/-- The values among arguments: the literals that neither give a datatype nor a comparison. -/
def rangeValues (args : List Argument) : List Scalar :=
  (unmarked comparison? (unmarked datatypeMark? args)).flatMap literals

section Marks

variable {M : Type} {mark? : Argument → Option M} {args : List Argument} {a : Argument}

theorem any_eq_isSome_findSome? :
    (args.any fun a => (mark? a).isSome) = (args.findSome? mark?).isSome := by
  induction args with
  | nil => rfl
  | cons a rest ih =>
    rw [List.any_cons, List.findSome?_cons, ih]
    cases mark? a <;> rfl

/-- The first mark is left out. -/
theorem unmarked_snoc_first (h : args.findSome? mark? = none) (ha : (mark? a).isSome) :
    unmarked mark? (args ++ [a]) = args := by
  have hany : ¬(args.any fun a => (mark? a).isSome) = true := by
    rw [any_eq_isSome_findSome?, h]
    exact Bool.false_ne_true
  rw [unmarked, List.eraseP_append, if_neg hany]
  simp [ha]

theorem unmarked_of_none (h : args.findSome? mark? = none) : unmarked mark? args = args := by
  refine List.eraseP_of_forall_not fun a ha => ?_
  simp [List.findSome?_eq_none_iff.1 h a ha]

/-- A later mark stays, and so does what is no mark. -/
theorem unmarked_snoc (h : (args.findSome? mark?).isSome ∨ mark? a = none) :
    unmarked mark? (args ++ [a]) = unmarked mark? args ++ [a] := by
  by_cases hsome : (args.findSome? mark?).isSome
  · rw [unmarked, List.eraseP_append, any_eq_isSome_findSome?, if_pos hsome]
    rfl
  · have hnone : args.findSome? mark? = none := Option.not_isSome_iff_eq_none.1 hsome
    have ha : mark? a = none := h.resolve_left hsome
    rw [unmarked_of_none hnone, unmarked_of_none]
    rw [List.findSome?_append, hnone]
    simp [ha]

theorem unmarked_filter {p : Argument → Bool} (h : ∀ a, (mark? a).isSome → p a) :
    unmarked mark? (args.filter p) = (unmarked mark? args).filter p := by
  induction args with
  | nil => rfl
  | cons a rest ih =>
    cases ha : (mark? a).isSome with
    | true => simp [unmarked, ha, h a ha]
    | false =>
      simp only [unmarked] at ih ⊢
      cases hp : p a <;> simp [ha, hp, ih]

/-- The first mark and what is left are all the arguments. -/
theorem perm_unmarked (mark? : Argument → Option M) (args : List Argument) :
    args.Perm ((args.find? fun a => (mark? a).isSome).toList ++ unmarked mark? args) := by
  induction args with
  | nil => exact .nil
  | cons a rest ih =>
    cases ha : (mark? a).isSome with
    | true => simp [unmarked, ha]
    | false =>
      simp only [unmarked, List.find?_cons, ha, List.eraseP_cons, cond_false] at ih ⊢
      exact (ih.cons a).trans List.perm_middle.symm

end Marks

/-- No datatype is the token of a comparison. -/
theorem comparison?_of_datatypeMark? {a : Argument} (h : (datatypeMark? a).isSome) :
    comparison? a = none := by
  have hnames : ∀ n ∈ datatypeNames, ∀ o ∈ RangeOperator.all, o.token ≠ n := by decide
  cases a with
  | text s =>
    obtain ⟨n, hn⟩ : ∃ n, knownDatatype? s = some n := by
      simpa [datatypeMark?, Option.isSome_iff_exists] using h
    have htrim : n = Text.trim s := by simpa using List.find?_some hn
    refine List.find?_eq_none.2 fun o ho htoken => hnames n (List.mem_of_find?_eq_some hn) o ho ?_
    rw [htrim]
    exact of_decide_eq_true htoken
  | _ => rfl

namespace Build

/-! ## The scan -/

/-- The scan of `range`, after the index. -/
def rangeScan : Scan RangeParts where
  combinator := "range"
  start := {}
  add := RangeParts.add
  slot
    | .fragmentScope _ => some .scope
    | .rangeOptions _ => some .options
    | .bind _ => some .name
    | .bindDefault => some .default
    | .datatype _ => some .texts
    | a => if a.isLiteral then some .texts else none
  read f :=
    { datatype := (f .texts).findSome? datatypeMark?
      fragmentScope := (f .scope).findSome? scope?
      options := (f .options).findSome? options?
      operator := (unmarked datatypeMark? (f .texts)).findSome? comparison?
      values := rangeValues (f .texts)
      name := (f .name).findSome? boundName?
      isDefault := !(f .default).isEmpty }

theorem RangeParts.addText_of_no_datatype {p : RangeParts} {s : String}
    (h : p.datatype.isSome ∨ knownDatatype? s = none) :
    p.addText s =
      match p.operator, RangeOperator.ofToken? s with
      | none, some o => { p with operator := some o }
      | _, _ => { p with values := p.values ++ [.text s] } := by
  rw [RangeParts.addText]
  split
  · rename_i hdatatype hknown
    rw [hdatatype, hknown] at h
    simp at h
  · rfl

/-- A text that gives no datatype gives the comparison, if it is the first token, or it is a
value. -/
theorem read_addText {f : Sheet} {s : String}
    (h : ((f .texts).findSome? datatypeMark?).isSome ∨ knownDatatype? s = none) :
    (rangeScan.read f).addText s = rangeScan.read (f.file .texts (.text s)) := by
  have hstays : unmarked datatypeMark? (f .texts ++ [.text s]) =
      unmarked datatypeMark? (f .texts) ++ [.text s] :=
    unmarked_snoc (h.imp_right fun hs => by simp [datatypeMark?, hs])
  have hdatatype : (f .texts ++ [Argument.text s]).findSome? datatypeMark? =
      (f .texts).findSome? datatypeMark? := by
    rw [List.findSome?_append]
    obtain h | h := h
    · exact Option.or_of_isSome h
    · simp [datatypeMark?, h]
  rw [RangeParts.addText_of_no_datatype h]
  cases hoperator : (unmarked datatypeMark? (f .texts)).findSome? comparison? with
  | some o =>
    have hvalue := unmarked_snoc (a := .text s) (.inl (Option.isSome_of_eq_some hoperator))
    simp [rangeScan, hoperator, hdatatype, hstays, rangeValues, hvalue, literals, scalar?]
  | none =>
    cases htoken : RangeOperator.ofToken? s with
    | some o =>
      have hfirst := unmarked_snoc_first (a := .text s) hoperator (by simp [comparison?, htoken])
      simp [rangeScan, hoperator, htoken, hdatatype, hstays, rangeValues, hfirst, comparison?,
        unmarked_of_none hoperator]
    | none =>
      have hvalue : unmarked comparison? (unmarked datatypeMark? (f .texts) ++ [Argument.text s]) =
          unmarked comparison? (unmarked datatypeMark? (f .texts)) ++ [.text s] :=
        unmarked_snoc (.inr htoken)
      simp [rangeScan, hoperator, htoken, hdatatype, hstays, rangeValues, hvalue, literals, scalar?,
        comparison?]

/-- Literals that mark nothing are values. -/
theorem read_file_values {f : Sheet} {a : Argument} (hdatatype : datatypeMark? a = none)
    (hcomparison : comparison? a = none) :
    rangeScan.read (f.file .texts a) =
      { rangeScan.read f with values := (rangeScan.read f).values ++ a.literals } := by
  have hstays : unmarked datatypeMark? (f .texts ++ [a]) =
      unmarked datatypeMark? (f .texts) ++ [a] := unmarked_snoc (.inr hdatatype)
  have hvalue : unmarked comparison? (unmarked datatypeMark? (f .texts) ++ [a]) =
      unmarked comparison? (unmarked datatypeMark? (f .texts)) ++ [a] :=
    unmarked_snoc (.inr hcomparison)
  simp [rangeScan, hstays, hvalue, rangeValues, hdatatype, hcomparison]

theorem rangeScan_guarded : rangeScan.Guarded where
  read_blank := rfl
  refuses p a h := by
    cases a with
    | fragmentScope _ | rangeOptions _ | bind _ | bindDefault | datatype _ => cases h
    | list items =>
      have hitems : ¬∀ a ∈ items, a.scalar?.isSome := by
        simpa [rangeScan, isLiteral] using h
      obtain ⟨o, ho⟩ := mapM_asScalar_refuses "range" hitems
      exact ⟨o, by simp [rangeScan, RangeParts.add, ho]; rfl⟩
    | null | text _ | number _ | bool _ | instant _ => cases h
    | _ => exact ⟨_, rfl⟩
  mayFile f a k h hroom := by
    cases a with
    | fragmentScope s =>
      cases h
      left
      simp [rangeScan, RangeParts.add, hroom rfl, scope?]
    | rangeOptions os =>
      cases h
      left
      simp [rangeScan, RangeParts.add, hroom rfl, options?]
    | bind n =>
      cases h
      left
      simp [rangeScan, RangeParts.add, hroom rfl, boundName?]
    | bindDefault =>
      cases h
      left
      simp [rangeScan, RangeParts.add, hroom rfl]
    | datatype d =>
      cases h
      cases hmark : (f .texts).findSome? datatypeMark? with
      | none =>
        left
        simp [rangeScan, RangeParts.add, hmark, rangeValues, datatypeMark?,
          unmarked_snoc_first hmark (a := .datatype d) rfl, unmarked_of_none hmark]
      | some d' =>
        right
        exact ⟨.argument (.datatype d), by
          simp [rangeScan, RangeParts.add, hmark, RangeParts.addValue]; rfl⟩
    | text s =>
      cases h
      left
      cases hmark : (f .texts).findSome? datatypeMark? with
      | some d =>
        exact congrArg Except.ok (read_addText (.inl (by rw [hmark]; rfl)))
      | none =>
        cases hknown : knownDatatype? s with
        | none => exact congrArg Except.ok (read_addText (.inr hknown))
        | some name =>
          have hfirst : (datatypeMark? (.text s)).isSome := by simp [datatypeMark?, hknown]
          simp [rangeScan, RangeParts.add, RangeParts.addText, hmark, hknown, rangeValues,
            datatypeMark?, unmarked_snoc_first hmark hfirst, unmarked_of_none hmark]
    | list items =>
      obtain ⟨hitems, hk⟩ : (∀ a ∈ items, a.scalar?.isSome) ∧ .texts = k := by
        simpa [rangeScan, isLiteral] using h
      subst hk
      left
      rw [read_file_values rfl rfl]
      simp only [rangeScan, RangeParts.add, mapM_asScalar "range" hitems]
      rfl
    | null | number _ | bool _ | instant _ =>
      cases h
      left
      rw [read_file_values rfl rfl]
      rfl
    | _ => cases h
  full f a b k ha hb hk hf := by
    cases a with
    | fragmentScope s =>
      cases ha
      cases b with
      | fragmentScope s' =>
        exact ⟨.argument (.fragmentScope s), by
          simp [rangeScan, RangeParts.add, RangeParts.addValue, hf, scope?, asScalar, scalar?]; rfl⟩
      | list items => simp [rangeScan] at hb
      | _ => cases hb
    | rangeOptions os =>
      cases ha
      cases b with
      | rangeOptions os' =>
        exact ⟨.argument (.rangeOptions os), by
          simp [rangeScan, RangeParts.add, RangeParts.addValue, hf, options?, asScalar,
            scalar?]; rfl⟩
      | list items => simp [rangeScan] at hb
      | _ => cases hb
    | bind n =>
      cases ha
      cases b with
      | bind n' =>
        exact ⟨.argument (.bind n), by
          simp [rangeScan, RangeParts.add, RangeParts.addValue, hf, boundName?, asScalar,
            scalar?]; rfl⟩
      | list items => simp [rangeScan] at hb
      | _ => cases hb
    | bindDefault =>
      cases ha
      exact ⟨.argument .bindDefault, by
        simp [rangeScan, RangeParts.add, RangeParts.addValue, hf, asScalar, scalar?]; rfl⟩
    | list items =>
      obtain ⟨-, hk'⟩ : (∀ a ∈ items, a.scalar?.isSome) ∧ .texts = k := by
        simpa [rangeScan, isLiteral] using ha
      subst hk'
      cases hk
    | null | text _ | number _ | bool _ | instant _ | datatype _ =>
      cases ha
      cases hk
    | _ => cases ha

/-! ## The order of arguments -/

theorem RangeParts.datatype_addValue {p q : RangeParts} {a : Argument} (h : p.addValue a = .ok q) :
    q.datatype = p.datatype := by
  obtain ⟨v, -, hq⟩ := bind_eq_ok h
  cases hq
  rfl

/-- There is no datatype only as long as nothing gives or names one. -/
theorem RangeParts.datatype_add {p q : RangeParts} {a : Argument} (h : p.add a = .ok q)
    (hq : q.datatype = none) : p.datatype = none ∧ datatypeMark? a = none := by
  have hvalue : ∀ {a}, p.addValue a = .ok q → p.datatype = none := fun h =>
    (RangeParts.datatype_addValue h).symm.trans hq
  cases a with
  | datatype d =>
    simp only [RangeParts.add] at h
    split at h
    · cases h
      cases hq
    · cases h
  | text s =>
    simp only [RangeParts.add, Except.ok.injEq] at h
    subst h
    cases hdatatype : p.datatype with
    | some d =>
      rw [RangeParts.addText_of_no_datatype (.inl (Option.isSome_of_eq_some hdatatype))] at hq
      split at hq <;> simp [hdatatype] at hq
    | none =>
      cases hknown : knownDatatype? s with
      | some name => simp [RangeParts.addText, hdatatype, hknown] at hq
      | none => exact ⟨rfl, by simp [datatypeMark?, hknown]⟩
  | fragmentScope _ | rangeOptions _ | bind _ =>
    simp only [RangeParts.add] at h
    split at h
    · cases h
      exact ⟨hq, rfl⟩
    · exact ⟨hvalue h, rfl⟩
  | bindDefault =>
    simp only [RangeParts.add] at h
    split at h
    · exact ⟨hvalue h, rfl⟩
    · cases h
      exact ⟨hq, rfl⟩
  | list items =>
    obtain ⟨vs, -, h⟩ := bind_eq_ok h
    cases h
    exact ⟨hq, rfl⟩
  | _ => exact ⟨hvalue h, rfl⟩

/-- A datatype that is given outright comes before any text that names one. -/
theorem find?_datatypeMark {args : List Argument} {p q : RangeParts} {d : Datatype}
    (h : args.foldlM RangeParts.add p = .ok q) (hd : .datatype d ∈ args) :
    p.datatype = none ∧
      (args.find? fun a => (datatypeMark? a).isSome) = some (.datatype d) := by
  induction args generalizing p with
  | nil => cases hd
  | cons a rest ih =>
    rw [List.foldlM_cons] at h
    obtain ⟨p', hadd, hrest⟩ := bind_eq_ok h
    obtain rfl | hd := List.mem_cons.1 hd
    · simp only [RangeParts.add] at hadd
      split at hadd
      · rename_i hnone
        exact ⟨Option.isNone_iff_eq_none.1 hnone, rfl⟩
      · cases hadd
    · obtain ⟨hp', hfind⟩ := ih hrest hd
      obtain ⟨hp, ha⟩ := RangeParts.datatype_add hadd hp'
      refine ⟨hp, ?_⟩
      rw [List.find?_cons, ha]
      exact hfind

/-- The text that names the datatype, if one does. -/
def datatypeTexts (args : List Argument) : List Scalar :=
  (args.find? fun a => (datatypeMark? a).isSome).toList.flatMap literals

/-- The token of the comparison, if there is one. -/
def comparisonTexts (args : List Argument) : List Scalar :=
  ((unmarked datatypeMark? args).find? fun a => (comparison? a).isSome).toList.flatMap literals

section Order

variable {args args' : List Argument} {q q' : RangeParts}

/-- A literal names the datatype, or it is the token of the comparison, or it is a value. -/
theorem literals_perm (args : List Argument) :
    (args.flatMap literals).Perm
      (datatypeTexts args ++ (comparisonTexts args ++ rangeValues args)) := by
  have hdatatype := (perm_unmarked datatypeMark? args).flatMap_right literals
  have hcomparison :=
    (perm_unmarked comparison? (unmarked datatypeMark? args)).flatMap_right literals
  rw [List.flatMap_append] at hdatatype hcomparison
  exact hdatatype.trans (hcomparison.append_left _)

/-- The text of a token is not lost with the text that names the datatype. -/
theorem mem_unmarked_of_comparison? {a : Argument} (ha : a ∈ args) (h : (comparison? a).isSome) :
    a ∈ unmarked datatypeMark? args := by
  refine (List.mem_eraseP_of_neg fun hdatatype => ?_).2 ha
  rw [comparison?_of_datatypeMark? hdatatype] at h
  cases h

theorem length_comparisonTexts :
    (comparisonTexts args).length = if args.any fun a => (comparison? a).isSome then 1 else 0 := by
  unfold comparisonTexts
  cases hfind : (unmarked datatypeMark? args).find? fun a => (comparison? a).isSome with
  | none =>
    rw [if_neg]
    · rfl
    · intro hany
      obtain ⟨a, ha, hcomparison⟩ := List.any_eq_true.1 hany
      exact List.find?_eq_none.1 hfind a (mem_unmarked_of_comparison? ha hcomparison) hcomparison
  | some a =>
    have hcomparison : (comparison? a).isSome := by simpa using List.find?_some hfind
    rw [if_pos (List.any_eq_true.2
      ⟨a, List.mem_of_mem_eraseP (List.mem_of_find?_eq_some hfind), hcomparison⟩)]
    cases a with
    | text s => rfl
    | _ => cases hcomparison

/-- Whether a literal names a datatype. -/
def namesDatatype : Scalar → Bool
  | .text s => (knownDatatype? s).isSome
  | _ => false

theorem namesDatatype_of_mem {v : Scalar} (h : v ∈ datatypeTexts args) : namesDatatype v := by
  obtain ⟨a, ha, hv⟩ := List.mem_flatMap.1 h
  have hfind := Option.mem_toList.1 ha
  have hdatatype : (datatypeMark? a).isSome := by simpa using List.find?_some hfind
  cases a with
  | text s =>
    obtain rfl : v = .text s := by simpa [literals, scalar?] using hv
    simpa [datatypeMark?, namesDatatype] using hdatatype
  | datatype d => cases hv
  | _ => cases hdatatype

theorem not_namesDatatype_of_mem {v : Scalar} (h : v ∈ comparisonTexts args) :
    ¬namesDatatype v := by
  obtain ⟨a, ha, hv⟩ := List.mem_flatMap.1 h
  have hfind := Option.mem_toList.1 ha
  have hcomparison : (comparison? a).isSome := by simpa using List.find?_some hfind
  cases a with
  | text s =>
    obtain rfl : v = .text s := by simpa [literals, scalar?] using hv
    intro hdatatype
    have hmark : (datatypeMark? (.text s)).isSome := by
      simpa [datatypeMark?, namesDatatype] using hdatatype
    rw [comparison?_of_datatypeMark? hmark] at hcomparison
    cases hcomparison
  | _ => cases hcomparison

theorem length_datatypeTexts_le (args : List Argument) : (datatypeTexts args).length ≤ 1 := by
  unfold datatypeTexts
  cases hfind : args.find? fun a => (datatypeMark? a).isSome with
  | none => exact Nat.zero_le 1
  | some a =>
    have hdatatype : (datatypeMark? a).isSome := by simpa using List.find?_some hfind
    cases a with
    | text s => exact Nat.le_refl 1
    | datatype d => exact Nat.zero_le 1
    | _ => cases hdatatype

/-- The texts for the datatype and the comparison are those that are no values. -/
theorem texts_eq (hperm : args.Perm args') (hvalues : (rangeValues args).Perm (rangeValues args')) :
    datatypeTexts args = datatypeTexts args' ∧ comparisonTexts args = comparisonTexts args' := by
  have hall := (literals_perm args).symm.trans
    ((hperm.flatMap_right literals).trans (literals_perm args'))
  rw [← List.append_assoc, ← List.append_assoc] at hall
  replace hall := (List.perm_append_right_iff _).1 (hall.trans (hvalues.symm.append_left _))
  have hsplit : ∀ args,
      (datatypeTexts args ++ comparisonTexts args).filter namesDatatype = datatypeTexts args := by
    intro args
    rw [List.filter_append, List.filter_eq_self.2 fun v => namesDatatype_of_mem,
      List.filter_eq_nil_iff.2 fun v => not_namesDatatype_of_mem, List.append_nil]
  have hdatatype : (datatypeTexts args).Perm (datatypeTexts args') := by
    have hfilter := hall.filter namesDatatype
    rwa [hsplit, hsplit] at hfilter
  have hcomparison : (comparisonTexts args).Perm (comparisonTexts args') := by
    have hcancel := hall.trans (hdatatype.symm.append_right _)
    exact (List.perm_append_left_iff _).1 hcancel
  have hone : ∀ {us vs : List Scalar}, us.length ≤ 1 → us.Perm vs → us = vs := by
    intro us vs hlength hperm
    match us, hlength, hperm with
    | [], _, hperm => exact hperm.nil_eq
    | [v], _, hperm => exact hperm.singleton_eq
  refine ⟨hone (length_datatypeTexts_le args) hdatatype, hone ?_ hcomparison⟩
  rw [length_comparisonTexts]
  split <;> decide

theorem findSome?_eq_bind {M : Type} (mark? : Argument → Option M) (args : List Argument) :
    args.findSome? mark? = (args.find? fun a => (mark? a).isSome).bind mark? := by
  induction args with
  | nil => rfl
  | cons a rest ih =>
    rw [List.findSome?_cons, List.find?_cons]
    cases ha : mark? a with
    | none => simpa using ih
    | some m => simp [ha]

theorem operator_of_texts (args : List Argument) :
    (unmarked datatypeMark? args).findSome? comparison? =
      (comparisonTexts args).findSome? fun v => comparison? (.ofScalar v) := by
  rw [findSome?_eq_bind]
  unfold comparisonTexts
  cases hfind : (unmarked datatypeMark? args).find? fun a => (comparison? a).isSome with
  | none => rfl
  | some a =>
    have hcomparison : (comparison? a).isSome := by simpa using List.find?_some hfind
    cases a with
    | text s => simp [literals, scalar?, ofScalar]
    | _ => cases hcomparison

theorem datatype_of_texts (hgiven : ∀ d, .datatype d ∉ args) :
    args.findSome? datatypeMark? =
      (datatypeTexts args).findSome? fun v => datatypeMark? (.ofScalar v) := by
  rw [findSome?_eq_bind]
  unfold datatypeTexts
  cases hfind : args.find? fun a => (datatypeMark? a).isSome with
  | none => rfl
  | some a =>
    have hdatatype : (datatypeMark? a).isSome := by simpa using List.find?_some hfind
    cases a with
    | text s => simp [literals, scalar?, ofScalar]
    | datatype d => exact absurd (List.mem_of_find?_eq_some hfind) (hgiven d)
    | _ => cases hdatatype

theorem datatype_eq (hperm : args.Perm args') (h : args.foldlM RangeParts.add {} = .ok q)
    (h' : args'.foldlM RangeParts.add {} = .ok q')
    (htexts : datatypeTexts args = datatypeTexts args') :
    args.findSome? datatypeMark? = args'.findSome? datatypeMark? := by
  by_cases hgiven : ∃ d, .datatype d ∈ args
  · obtain ⟨d, hd⟩ := hgiven
    rw [findSome?_eq_bind, findSome?_eq_bind, (find?_datatypeMark h hd).2,
      (find?_datatypeMark h' (hperm.mem_iff.1 hd)).2]
  · have hnone : ∀ d, .datatype d ∉ args := fun d hd => hgiven ⟨d, hd⟩
    rw [datatype_of_texts hnone, htexts,
      ← datatype_of_texts fun d hd => hnone d (hperm.mem_iff.2 hd)]

/-! ## The parts, from the arguments -/

theorem findSome?_filter {M : Type} {mark? : Argument → Option M} {p : Argument → Bool}
    (h : ∀ a, (mark? a).isSome → p a) : (args.filter p).findSome? mark? = args.findSome? mark? := by
  induction args with
  | nil => rfl
  | cons a rest ih =>
    cases hp : p a with
    | true => rw [List.filter_cons_of_pos hp, List.findSome?_cons, List.findSome?_cons, ih]
    | false =>
      have ha : mark? a = none := by
        refine Option.not_isSome_iff_eq_none.1 fun hmark => ?_
        rw [h a hmark] at hp
        cases hp
      rw [List.filter_cons_of_neg (by simp [hp]), List.findSome?_cons, ha, ih]

theorem slot_of_datatypeMark? {a : Argument} (h : (datatypeMark? a).isSome) :
    decide (rangeScan.slot a = some .texts) = true := by
  cases a with
  | text s => rfl
  | datatype d => rfl
  | _ => cases h

theorem slot_of_comparison? {a : Argument} (h : (comparison? a).isSome) :
    decide (rangeScan.slot a = some .texts) = true := by
  cases a with
  | text s => rfl
  | _ => cases h

/-- What has a slot and yet is neither a mark nor a value is no literal. -/
theorem literals_of_slot {a : Argument} {k : Slot} (h : rangeScan.slot a = some k)
    (hk : k ≠ .texts) : a.literals = [] := by
  cases a with
  | list items =>
    have htexts : (∀ a ∈ items, a.scalar?.isSome) ∧ .texts = k := by
      simpa [rangeScan, isLiteral] using h
    exact absurd htexts.2.symm hk
  | null | text _ | number _ | bool _ | instant _ =>
    cases h
    exact absurd rfl hk
  | _ => rfl

theorem rangeValues_sheetOf (h : rangeScan.Filed args) :
    rangeValues (sheetOf rangeScan.slot args .texts) = rangeValues args := by
  rw [rangeValues, sheetOf, unmarked_filter fun _ => slot_of_datatypeMark?,
    unmarked_filter fun _ => slot_of_comparison?]
  exact flatMap_sheetOf (fun _ _ => literals_of_slot) fun a ha =>
    h a (List.mem_of_mem_eraseP (List.mem_of_mem_eraseP ha))

/-- What the arguments of a range add up to, slot by slot. -/
theorem eq_of_foldlM (h : args.foldlM RangeParts.add {} = .ok q) :
    Scan.Roomy rangeScan.slot args ∧
      q = {
        datatype := args.findSome? datatypeMark?
        fragmentScope := (sheetOf rangeScan.slot args .scope).findSome? scope?
        options := (sheetOf rangeScan.slot args .options).findSome? options?
        operator := (unmarked datatypeMark? args).findSome? comparison?
        values := rangeValues args
        name := (sheetOf rangeScan.slot args .name).findSome? boundName?
        isDefault := !(sheetOf rangeScan.slot args .default).isEmpty } := by
  obtain ⟨hfiled, hroomy, rfl⟩ := rangeScan_guarded.eq_read h
  refine ⟨hroomy, ?_⟩
  have hdatatype : (sheetOf rangeScan.slot args .texts).findSome? datatypeMark? =
      args.findSome? datatypeMark? := findSome?_filter fun _ => slot_of_datatypeMark?
  have hoperator : (unmarked datatypeMark? (sheetOf rangeScan.slot args .texts)).findSome?
      comparison? = (unmarked datatypeMark? args).findSome? comparison? := by
    rw [sheetOf, unmarked_filter fun _ => slot_of_datatypeMark?]
    exact findSome?_filter fun _ => slot_of_comparison?
  have hvalues := rangeValues_sheetOf hfiled
  rw [← hdatatype, ← hoperator, ← hvalues]
  rfl

/-- The same arguments in another order add up to the same but for the order of the values, if they
have the same values. -/
theorem eq_with_values (hperm : args.Perm args') (h : args.foldlM RangeParts.add {} = .ok q)
    (h' : args'.foldlM RangeParts.add {} = .ok q')
    (hvalues : (rangeValues args).Perm (rangeValues args')) :
    q' = { q with values := rangeValues args' } := by
  obtain ⟨hdatatypes, hcomparisons⟩ := texts_eq hperm hvalues
  have hdatatype := datatype_eq hperm h h' hdatatypes
  have hoperator : (unmarked datatypeMark? args).findSome? comparison? =
      (unmarked datatypeMark? args').findSome? comparison? := by
    rw [operator_of_texts, operator_of_texts, hcomparisons]
  obtain ⟨hroomy, hq⟩ := eq_of_foldlM h
  obtain ⟨-, hq'⟩ := eq_of_foldlM h'
  have hsheet : ∀ k, k.once → sheetOf rangeScan.slot args k = sheetOf rangeScan.slot args' k :=
    fun k => hroomy.sheetOf_eq hperm
  rw [hq, hq', hdatatype, hoperator, hsheet .scope rfl, hsheet .options rfl, hsheet .name rfl,
    hsheet .default rfl]

theorem eq_of_perm (hperm : args.Perm args') (h : args.foldlM RangeParts.add {} = .ok q)
    (h' : args'.foldlM RangeParts.add {} = .ok q')
    (hvalues : rangeValues args = rangeValues args') : q = q' := by
  rw [eq_with_values hperm h h' (.of_eq hvalues), ← hvalues]
  obtain ⟨-, rfl⟩ := eq_of_foldlM h
  rfl

end Order

end Build

end SearchRequest
