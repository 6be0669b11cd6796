import SearchRequest.Proofs.Build.Splicing

/-!
# What bindings of a search text are made of

Constraints, defaults and policies may come in any order.  The constraints are collected; of the
defaults the first counts, and so does the first of the policies.

* `Argument.isBinding`, `Argument.constraint?`, `Argument.default?`, `Argument.emptyPolicy?` — what
  an argument binds.
* `bindingsOf` — the bindings of a list of arguments.
* `ParseBindings.append`, `bindingsOf_append` — bindings followed by others.
* `Build.parseBindings_eq` — the bindings of all arguments, or the first argument that binds
  nothing.
* `Build.parseBindings_partitions` — bindings by their kind, wherever they stand.
* `Build.searchText_bindings` — what is left of several bindings of one search text.
-/

namespace SearchRequest

/-! ## What an argument binds -/

namespace Argument

/-- A named constraint. -/
def constraint? : Argument → Option Constraint
  | .query (.constraint c) => some c
  | _ => none

/-- A default for terms without a constraint. -/
def default? : Argument → Option DefaultSpec
  | .query (.default spec) => some spec
  | _ => none

/-- What an empty text matches. -/
def emptyPolicy? : Argument → Option EmptyPolicy
  | .bindEmpty policy => some policy
  | _ => none

/-- Whether an argument is a constraint, a default or a policy. -/
def isBinding : Argument → Bool
  | .query (.constraint _) => true
  | .query (.default _) => true
  | .bindEmpty _ => true
  | _ => false

theorem ne_list_of_isBinding {a : Argument} (h : a.isBinding) (items : List Argument) :
    a ≠ .list items := by
  rintro rfl
  cases h

/-- A list with a binding in it is not the list of a list. -/
theorem spliceSole_of_binding {args : List Argument} {a : Argument} (ha : a ∈ args)
    (h : a.isBinding) : spliceSole args = args := by
  refine spliceSole_of_ne fun items hargs => ?_
  rw [hargs, List.mem_singleton] at ha
  exact ne_list_of_isBinding h items ha

theorem spliceSole_of_bindings {args : List Argument} (h : ∀ a ∈ args, a.isBinding) :
    spliceSole args = args := by
  cases args with
  | nil => rfl
  | cons a rest => exact spliceSole_of_binding List.mem_cons_self (h a List.mem_cons_self)

end Argument

open Argument

/-! ## Bindings followed by others -/

/-- The meaning of other terms, if a default or a policy says anything of them. -/
def TermBinding.of? : Option DefaultSpec → Option EmptyPolicy → Option TermBinding
  | none, none => none
  | default, empty => some ⟨default, empty⟩

/-- The first of the defaults and the first of the policies. -/
def TermBinding.orElse (t t' : TermBinding) : TermBinding :=
  ⟨t.default.or t'.default, t.empty.or t'.empty⟩

/-- The constraints of both, and the default and the policy of the first that has one. -/
def ParseBindings.append (b b' : ParseBindings) : ParseBindings where
  constraint := b.constraint.merge (· ++ ·) b'.constraint
  term := b.term.merge TermBinding.orElse b'.term

/-- The bindings of a list of arguments: its constraints, if there are any, and its first default
and its first policy, if there is either. -/
def bindingsOf (args : List Argument) : ParseBindings where
  constraint :=
    let constraints := args.filterMap constraint?
    if constraints.isEmpty then none else some constraints
  term := TermBinding.of? (args.findSome? default?) (args.findSome? emptyPolicy?)

theorem TermBinding.of?_eq (default : Option DefaultSpec) (empty : Option EmptyPolicy) :
    (if (TermBinding.mk default empty).isEmpty then none else some ⟨default, empty⟩) =
      of? default empty := by
  cases default <;> cases empty <;> rfl

theorem TermBinding.of?_or (default default' : Option DefaultSpec)
    (empty empty' : Option EmptyPolicy) :
    of? (default.or default') (empty.or empty') =
      (of? default empty).merge orElse (of? default' empty') := by
  cases default <;> cases default' <;> cases empty <;> cases empty' <;> rfl

theorem constraint_bindingsOf_ne (args : List Argument) :
    (bindingsOf args).constraint ≠ some [] := by
  cases h : args.filterMap constraint? <;> simp [bindingsOf, h]

theorem bindingsOf_append (xs ys : List Argument) :
    bindingsOf (xs ++ ys) = (bindingsOf xs).append (bindingsOf ys) := by
  simp only [bindingsOf, ParseBindings.append, List.filterMap_append, List.findSome?_append,
    TermBinding.of?_or]
  cases xs.filterMap constraint? <;> cases ys.filterMap constraint? <;> simp

/-- Term bindings have a default if others do, and a policy if those do. -/
def TermBinding.Covers (t t' : TermBinding) : Prop :=
  (t'.default.isSome → t.default.isSome) ∧ (t'.empty.isSome → t.empty.isSome)

theorem TermBinding.eq_orElse_iff (t t' : TermBinding) : t = t.orElse t' ↔ t.Covers t' := by
  obtain ⟨default, empty⟩ := t
  obtain ⟨default', empty'⟩ := t'
  cases default <;> cases default' <;> cases empty <;> cases empty' <;> simp [orElse, Covers]

theorem TermBinding.covers_orElse_iff (t t' t'' : TermBinding) :
    t.Covers (t'.orElse t'') ↔ t.Covers t' ∧ t.Covers t'' := by
  simp only [Covers, orElse, Option.isSome_or, Bool.or_eq_true, or_imp]
  exact and_and_and_comm

section Sets

variable {bs : List ParseBindings}

theorem constraint_foldr_append (bs : List ParseBindings) :
    (bs.foldr ParseBindings.append {}).constraint =
      let lists := bs.filterMap ParseBindings.constraint
      if lists.isEmpty then none else some lists.flatten := by
  induction bs with
  | nil => rfl
  | cons b rest ih =>
    rw [List.foldr_cons, ParseBindings.append, ih, List.filterMap_cons]
    cases b.constraint <;> cases rest.filterMap ParseBindings.constraint <;> simp

/-- The first list of constraints is all of them if there is no other. -/
theorem findSome?_constraint_iff (h : ∀ b ∈ bs, b.constraint ≠ some []) :
    bs.findSome? ParseBindings.constraint = (bs.foldr ParseBindings.append {}).constraint ↔
      (bs.filterMap ParseBindings.constraint).length ≤ 1 := by
  have hlists : ∀ cs ∈ bs.filterMap ParseBindings.constraint, cs ≠ [] := by
    rintro cs hcs rfl
    obtain ⟨b, hb, hnil⟩ := List.mem_filterMap.1 hcs
    exact h b hb hnil
  rw [constraint_foldr_append, ← List.head?_filterMap]
  cases hfilter : bs.filterMap ParseBindings.constraint with
  | nil => simp
  | cons cs more =>
    rw [hfilter] at hlists
    cases more with
    | nil => simp
    | cons cs' more => simp [hlists cs' (by simp)]

theorem term_foldr_append (bs : List ParseBindings) :
    (bs.foldr ParseBindings.append {}).term =
      (bs.filterMap ParseBindings.term).foldr (fun t w => (some t).merge TermBinding.orElse w)
        none := by
  induction bs with
  | nil => rfl
  | cons b rest ih =>
    rw [List.foldr_cons, ParseBindings.append, ih, List.filterMap_cons]
    cases b.term <;> simp

theorem covers_foldr_iff (first : TermBinding) (ts : List TermBinding) :
    (∀ w ∈ ts.foldr (fun t w => (some t).merge TermBinding.orElse w) none, first.Covers w) ↔
      ∀ t ∈ ts, first.Covers t := by
  induction ts with
  | nil => simp
  | cons t rest ih =>
    rw [List.foldr_cons, List.forall_mem_cons, ← ih]
    cases rest.foldr (fun t w => (some t).merge TermBinding.orElse w) none with
    | none => simp
    | some w => simp [TermBinding.covers_orElse_iff]

/-- The first term bindings say all that any do if they cover the others. -/
theorem findSome?_term_iff (bs : List ParseBindings) :
    bs.findSome? ParseBindings.term = (bs.foldr ParseBindings.append {}).term ↔
      ∀ first ∈ bs.findSome? ParseBindings.term, ∀ t ∈ bs.filterMap ParseBindings.term,
        first.Covers t := by
  rw [term_foldr_append, ← List.head?_filterMap]
  cases bs.filterMap ParseBindings.term with
  | nil => simp
  | cons first more =>
    have hself : first.Covers first := ⟨id, id⟩
    have hmore := covers_foldr_iff first more
    rw [List.foldr_cons]
    cases hfold : more.foldr (fun t w => (some t).merge TermBinding.orElse w) none with
    | none =>
      rw [hfold] at hmore
      simpa [hself] using hmore
    | some w =>
      rw [hfold] at hmore
      simpa [hself, TermBinding.eq_orElse_iff] using hmore

end Sets

namespace Build

/-! ## Collecting bindings -/

/-- What bindings of each kind add up to. -/
def BindingParts.of (args : List Argument) : BindingParts where
  constraints := args.filterMap constraint?
  term := ⟨args.findSome? default?, args.findSome? emptyPolicy?⟩

theorem BindingParts.bindings_of (args : List Argument) :
    ParseBindings.mk (nonempty (BindingParts.of args).constraints)
      (if (BindingParts.of args).term.isEmpty then none else some (BindingParts.of args).term) =
      bindingsOf args := by
  rw [bindingsOf, ← TermBinding.of?_eq]
  rfl

/-- An argument adds what it binds, and is refused if it binds nothing. -/
theorem BindingParts.add_of (before : List Argument) (a : Argument) :
    (BindingParts.of before).add a =
      if a.isBinding then .ok (BindingParts.of (before ++ [a]))
      else refuse "parse_bindings" a := by
  simp only [BindingParts.of, List.filterMap_append, List.findSome?_append]
  cases a with
  | query q =>
    cases q with
    | constraint c => simp [add, isBinding, constraint?, default?, emptyPolicy?]
    | default spec => simp [add, isBinding, constraint?, default?, emptyPolicy?]
    | criteria c => rfl
    | index d => rfl
  | bindEmpty policy => simp [add, isBinding, constraint?, default?, emptyPolicy?]
  | _ => rfl

/-- The bindings of all arguments, or the first argument that binds nothing. -/
theorem parseBindings_eq (args : List Argument) :
    parseBindings args =
      unlessMisfit isBinding (fun a => .unrecognized "parse_bindings" (.argument a))
        (spliceSole args) (bindingsOf (spliceSole args)) := by
  have hfold := foldlM_of_fits BindingParts.add_of [] (spliceSole args)
  rw [parseBindings, show ({} : BindingParts) = BindingParts.of [] from rfl, hfold]
  unfold unlessMisfit
  cases (spliceSole args).find? fun a => !a.isBinding with
  | some a => rfl
  | none => exact congrArg Except.ok (BindingParts.bindings_of (spliceSole args))

theorem parseBindings_of_bindings {args : List Argument}
    (h : ∀ a ∈ spliceSole args, a.isBinding) :
    parseBindings args = .ok (bindingsOf (spliceSole args)) := by
  rw [parseBindings_eq, unlessMisfit_of_fits h]

/-- What is accepted binds, all of it. -/
theorem eq_bindingsOf {args : List Argument} {b : ParseBindings} (h : parseBindings args = .ok b) :
    (∀ a ∈ spliceSole args, a.isBinding) ∧ b = bindingsOf (spliceSole args) := by
  rw [parseBindings_eq] at h
  obtain ⟨hbinds, heq⟩ := unlessMisfit_eq_ok_iff.1 h
  exact ⟨hbinds, heq.symm⟩

/-- An argument changes nothing if one before it binds all that it does. -/
theorem parseBindings_insert (us vs ws : List Argument) {first again : Argument}
    (hbinds : first.isBinding) (hagain : again.isBinding) (hconstraint : again.constraint? = none)
    (hdefault : again.default?.isSome → first.default?.isSome)
    (hempty : again.emptyPolicy?.isSome → first.emptyPolicy?.isSome) :
    parseBindings (us ++ first :: (vs ++ again :: ws)) =
      parseBindings (us ++ first :: (vs ++ ws)) := by
  have hassoc : ∀ xs, us ++ first :: (vs ++ xs) = us ++ first :: vs ++ xs := by simp
  have hfirst : first ∈ us ++ first :: vs := by simp
  rw [hassoc, hassoc]
  generalize us ++ first :: vs = before at hfirst
  have hfound : ∀ {M : Type} (g : Argument → Option M), ((g again).isSome → (g first).isSome) →
      (before ++ again :: ws).findSome? g = (before ++ ws).findSome? g := by
    intro M g hg
    rw [List.findSome?_append, List.findSome?_append, List.findSome?_cons]
    cases hnew : g again with
    | none => rfl
    | some m =>
      -- the first one is found before the other can be
      obtain ⟨m', hm'⟩ := Option.isSome_iff_exists.1 <|
        List.findSome?_isSome_iff.2 ⟨first, hfirst, hg (by rw [hnew]; rfl)⟩
      rw [hm']
      rfl
  have hsame : bindingsOf (before ++ again :: ws) = bindingsOf (before ++ ws) := by
    simp only [bindingsOf, hfound default? hdefault, hfound emptyPolicy? hempty,
      List.filterMap_append, List.filterMap_cons_none hconstraint]
  rw [parseBindings_eq, parseBindings_eq,
    spliceSole_of_binding (List.mem_append_left _ hfirst) hbinds,
    spliceSole_of_binding (List.mem_append_left _ hfirst) hbinds,
    unlessMisfit_insert before ws hagain, hsame]

/-- Constraints, defaults and policies in any order make bindings: the constraints in order, the
first default and the first policy, each absent if there is none; and the first argument of any
other kind is refused.  A default after another one changes nothing, wherever it stands, nor does a
policy; and the bindings of one list after another are those of the first followed by those of the
second. -/
theorem parseBindings_partitions :
    (∀ args, (∀ a ∈ spliceSole args, a.isBinding) →
      parseBindings args = .ok (bindingsOf (spliceSole args))) ∧
    (∀ args us a vs, spliceSole args = us ++ a :: vs → (∀ c ∈ us, c.isBinding) →
      ¬a.isBinding → parseBindings args = refuse "parse_bindings" a) ∧
    (∀ us vs ws spec spec',
      parseBindings (us ++ .query (.default spec) :: (vs ++ .query (.default spec') :: ws)) =
        parseBindings (us ++ .query (.default spec) :: (vs ++ ws))) ∧
    (∀ us vs ws policy policy',
      parseBindings (us ++ .bindEmpty policy :: (vs ++ .bindEmpty policy' :: ws)) =
        parseBindings (us ++ .bindEmpty policy :: (vs ++ ws))) ∧
    ∀ xs ys, (∀ a ∈ xs, a.isBinding) → (∀ a ∈ ys, a.isBinding) →
      ∃ b b', parseBindings xs = .ok b ∧ parseBindings ys = .ok b' ∧
        parseBindings (xs ++ ys) = .ok (b.append b') := by
  refine ⟨fun args => parseBindings_of_bindings, fun args us a vs hargs hus ha => ?_,
    fun us vs ws spec spec' => parseBindings_insert us vs ws rfl rfl rfl (fun _ => rfl) nofun,
    fun us vs ws policy policy' => parseBindings_insert us vs ws rfl rfl rfl nofun (fun _ => rfl),
    fun xs ys hxs hys => ?_⟩
  · rw [parseBindings_eq, hargs, unlessMisfit_of_misfit hus ha]
    rfl
  · have hall : ∀ {zs : List Argument}, (∀ a ∈ zs, a.isBinding) →
        parseBindings zs = .ok (bindingsOf zs) := by
      intro zs hzs
      have hsplice := spliceSole_of_bindings hzs
      rw [parseBindings_of_bindings (by rwa [hsplice]), hsplice]
    refine ⟨_, _, hall hxs, hall hys, ?_⟩
    rw [hall (List.forall_mem_append.2 ⟨hxs, hys⟩), bindingsOf_append]

/-- Constraints before and after a default, a policy and a second default. -/
theorem parseBindings_partitions_interleaved :
    let stars : Constraint := ⟨"stars", .range { index := IndexFields.of (property "rating") }⟩
    let title : Constraint := ⟨"t", .text .word { index := IndexFields.of (property "title") }⟩
    let body : DefaultSpec := .text .word { index := IndexFields.of (property "body") }
    let note : DefaultSpec := .text .value { index := IndexFields.of (property "note") }
    let start := [.query (.constraint stars), .query (.default body), .bindEmpty .noResults]
    let args := start ++ [.query (.default note), .query (.constraint title)]
    (∀ a ∈ args, a.isBinding) ∧
      parseBindings args = .ok ⟨some [stars, title], some ⟨some body, some .noResults⟩⟩ ∧
      parseBindings (start ++ [.query (.constraint title)]) = parseBindings args ∧
      parseBindings (args ++ [.text "rating"]) = refuse "parse_bindings" (.text "rating") := by
  intro stars title body note start args
  have hargs : ∀ a ∈ args, a.isBinding := by simp [args, start, isBinding]
  obtain ⟨hbinds, hrefuses, hdefault, -, -⟩ := parseBindings_partitions
  exact ⟨hargs, hbinds args hargs,
    (hdefault [.query (.constraint stars)] [.bindEmpty .noResults] _ body note).symm,
    hrefuses _ args _ [] rfl hargs nofun⟩

/-! ## Several bindings of one search text -/

section SearchTexts

variable {sets : List (List Argument)} {bs : List ParseBindings}

/-- Each set of bindings says what the first does that says anything. -/
theorem foldlM_addBindings (t : SearchText) (bs : List ParseBindings) :
    (bs.map Argument.bindings).foldlM addBindings t =
      .ok { t with
        constraint := t.constraint.or (bs.findSome? ParseBindings.constraint)
        term := t.term.or (bs.findSome? ParseBindings.term) } := by
  induction bs generalizing t with
  | nil => simp [pure, Except.pure]
  | cons b rest ih =>
    rw [List.map_cons, List.foldlM_cons, List.findSome?_cons, List.findSome?_cons]
    refine (ih _).trans ?_
    cases t.constraint <;> cases b.constraint <;> cases t.term <;> cases b.term <;> rfl

theorem searchText_eq (text : String) (bs : List ParseBindings) :
    searchText (.text text :: bs.map .bindings) =
      .ok ⟨text, bs.findSome? ParseBindings.constraint, bs.findSome? ParseBindings.term⟩ := by
  have hsplice := @spliceSole_of_ne (.text text :: bs.map .bindings) nofun
  rw [searchText, hsplice]
  exact foldlM_addBindings { text := text } bs

/-- All bindings could have been collected at once; and none has an empty list of constraints. -/
theorem bindingsOf_flatMap (h : List.Forall₂ (fun args b => parseBindings args = .ok b) sets bs) :
    (∀ a ∈ sets.flatMap spliceSole, a.isBinding) ∧
      bindingsOf (sets.flatMap spliceSole) = bs.foldr ParseBindings.append {} ∧
      ∀ b ∈ bs, b.constraint ≠ some [] := by
  induction h with
  | nil => exact ⟨nofun, rfl, fun _ hb => nomatch hb⟩
  | cons hb _ ih =>
    obtain ⟨hbinds, rfl⟩ := eq_bindingsOf hb
    obtain ⟨hrest, heq, hlists⟩ := ih
    rw [List.flatMap_cons, bindingsOf_append, heq]
    exact ⟨List.forall_mem_append.2 ⟨hbinds, hrest⟩, rfl,
      List.forall_mem_cons.2 ⟨constraint_bindingsOf_ne _, hlists⟩⟩

/-- A search text with several sets of bindings takes the constraints of the first set that has any,
and what the first says that says anything of other terms.  It is the search text with all bindings
collected at once exactly if no more than one set has constraints and the term bindings it takes
cover those of all other sets. -/
theorem searchText_bindings (text : String)
    (h : List.Forall₂ (fun args b => parseBindings args = .ok b) sets bs) :
    let whole := bs.foldr ParseBindings.append {}
    parseBindings (sets.flatMap spliceSole) = .ok whole ∧
    searchText (.text text :: bs.map .bindings) =
      .ok ⟨text, bs.findSome? ParseBindings.constraint, bs.findSome? ParseBindings.term⟩ ∧
    (bs.findSome? ParseBindings.constraint = whole.constraint ↔
      (bs.filterMap ParseBindings.constraint).length ≤ 1) ∧
    (bs.findSome? ParseBindings.term = whole.term ↔
      ∀ first ∈ bs.findSome? ParseBindings.term, ∀ t ∈ bs.filterMap ParseBindings.term,
        first.Covers t) := by
  obtain ⟨hbinds, hwhole, hlists⟩ := bindingsOf_flatMap h
  have hsplice := spliceSole_of_bindings hbinds
  refine ⟨?_, searchText_eq text bs, findSome?_constraint_iff hlists, findSome?_term_iff bs⟩
  rw [parseBindings_of_bindings (by rwa [hsplice]), hsplice, hwhole]

/-- Constraints from one set of bindings, and what other terms mean from another. -/
theorem searchText_bindings_apart :
    let stars : Constraint := ⟨"stars", .range { index := IndexFields.of (property "rating") }⟩
    let body : DefaultSpec := .text .word { index := IndexFields.of (property "body") }
    let sets := [[.query (.constraint stars)], [.query (.default body), .bindEmpty .noResults]]
    let bs := [⟨some [stars], none⟩, ⟨none, some ⟨some body, some .noResults⟩⟩]
    List.Forall₂ (fun args b => parseBindings args = .ok b) sets bs ∧
      ∃ whole, parseBindings (sets.flatMap spliceSole) = .ok whole ∧
        searchText (.text "stars:5 moby" :: bs.map .bindings) =
          .ok ⟨"stars:5 moby", whole.constraint, whole.term⟩ := by
  intro stars body sets bs
  have hsets : List.Forall₂ (fun args b => parseBindings args = .ok b) sets bs :=
    .cons rfl (.cons rfl .nil)
  obtain ⟨hwhole, htext, hconstraint, hterm⟩ := searchText_bindings "stars:5 moby" hsets
  have hcovers : ∀ first ∈ bs.findSome? ParseBindings.term,
      ∀ t ∈ bs.filterMap ParseBindings.term, first.Covers t := by
    simp [bs, TermBinding.Covers]
  rw [hconstraint.2 (Nat.le_refl 1), hterm.2 hcovers] at htext
  exact ⟨hsets, _, hwhole, htext⟩

/-- The constraints of a second set are lost, and so is its policy if the first has a default. -/
theorem not_collected_second_bindings :
    let stars : Constraint := ⟨"stars", .range { index := IndexFields.of (property "rating") }⟩
    let title : Constraint := ⟨"t", .text .word { index := IndexFields.of (property "title") }⟩
    let body : DefaultSpec := .text .word { index := IndexFields.of (property "body") }
    range [.text "rating", .bind "stars"] = .ok (.constraint stars) ∧
      word [.text "title", .bind "t"] = .ok (.constraint title) ∧
      word [.text "body", .bindDefault] = .ok (.default body) ∧
      ∃ b b' t, parseBindings [.query (.constraint stars), .query (.default body)] = .ok b ∧
        parseBindings [.query (.constraint title), .bindEmpty .noResults] = .ok b' ∧
        searchText [.text "stars:5 t:moby", .bindings b, .bindings b'] = .ok t ∧
        title ∈ b'.constraint.getD [] ∧ title ∉ t.constraint.getD [] ∧
        b'.term = some ⟨none, some .noResults⟩ ∧ t.term = some ⟨some body, none⟩ := by
  intro stars title body
  refine ⟨rfl, rfl, rfl, _, _, _, rfl, rfl, rfl, List.mem_singleton_self _, ?_, rfl, rfl⟩
  exact fun h => absurd (congrArg Constraint.name (List.mem_singleton.1 h)) (by decide)

end SearchTexts

end Build

end SearchRequest
