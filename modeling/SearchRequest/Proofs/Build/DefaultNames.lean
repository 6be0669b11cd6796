import SearchRequest.Proofs.Build.Exclusion
import SearchRequest.Proofs.Build.FacetReading

/-!
# Constraints and facets that are named after their index

A constraint without a name of its own has the name of its index, and so has a facet.  Saying that
name makes no difference, wherever it is said.

* `StoresName` — a scan keeps the name that is bound beside everything else.
* `StoresName.foldlM_insert` — where the name is bound is of no account.
* `Build.rangeParts_storesName`, `Build.textParts_storesName`, `Build.scopeParts_storesName` — the
  scans do so.
* `IndexFunction.exists_summary_named` — what is made of arguments with a name and without.
* `Build.facet_of_index` — a facet of an index with a name and without.
* `IndexFunction.named_after_index` — a name that is left out is the name of the index.
-/

namespace SearchRequest

open Argument

/-! ## Scans that keep a name -/

/-- A scan keeps the name that is bound beside everything else. -/
structure StoresName {P : Type} (add : P → Argument → Build P) (name : P → Option String)
    (put : String → P → P) : Prop where
  /-- A name is kept where there is none. -/
  stores : ∀ p n, name p = none → add p (.bind n) = .ok (put n p)
  /-- Any other argument is taken, or refused, whatever the name. -/
  add_put : ∀ p n a, (∀ m, a ≠ .bind m) → add (put n p) a = (add p a).map (put n)
  /-- Any other argument leaves the name as it is. -/
  name_add : ∀ p p' a, (∀ m, a ≠ .bind m) → add p a = .ok p' → name p' = name p

namespace StoresName

variable {P : Type} {add : P → Argument → Build P} {name : P → Option String}
  {put : String → P → P} {rest us vs : List Argument} {n : String} {p : P}

theorem foldlM_put (h : StoresName add name put) (hrest : ∀ m, .bind m ∉ rest) :
    rest.foldlM add (put n p) = (rest.foldlM add p).map (put n) := by
  induction rest generalizing p with
  | nil => rfl
  | cons a rest ih =>
    have ha : ∀ m, a ≠ .bind m := fun m hm => hrest m (hm ▸ List.mem_cons_self)
    rw [List.foldlM_cons, List.foldlM_cons, h.add_put p n a ha]
    cases add p a with
    | error e => rfl
    | ok p' => exact ih fun m hm => hrest m (List.mem_cons_of_mem _ hm)

/-- Where a name is bound among other arguments is of no account. -/
theorem foldlM_insert (h : StoresName add name put) (hus : ∀ m, .bind m ∉ us)
    (hvs : ∀ m, .bind m ∉ vs) (hp : name p = none) :
    (us ++ .bind n :: vs).foldlM add p = ((us ++ vs).foldlM add p).map (put n) := by
  induction us generalizing p with
  | nil =>
    rw [List.nil_append, List.nil_append, List.foldlM_cons, h.stores p n hp]
    exact h.foldlM_put hvs
  | cons a us ih =>
    have ha : ∀ m, a ≠ .bind m := fun m hm => hus m (hm ▸ List.mem_cons_self)
    rw [List.cons_append, List.cons_append, List.foldlM_cons, List.foldlM_cons]
    cases hadd : add p a with
    | error e => rfl
    | ok p' =>
      exact ih (fun m hm => hus m (List.mem_cons_of_mem _ hm))
        ((h.name_add p p' a ha hadd).trans hp)

end StoresName

namespace Build

theorem RangeParts.addText_name (p : RangeParts) (name : Option String) (s : String) :
    RangeParts.addText { p with name } s = { p.addText s with name } ∧
      (p.addText s).name = p.name := by
  simp only [addText]
  cases p.datatype with
  | some d => cases p.operator <;> cases RangeOperator.ofToken? s <;> exact ⟨rfl, rfl⟩
  | none =>
    cases knownDatatype? s with
    | some known => exact ⟨rfl, rfl⟩
    | none => cases p.operator <;> cases RangeOperator.ofToken? s <;> exact ⟨rfl, rfl⟩

theorem rangeParts_storesName :
    StoresName RangeParts.add RangeParts.name fun n p => { p with name := some n } where
  stores p n hp := by simp [RangeParts.add, hp]
  add_put p n a ha := by
    have hvalue : ∀ a, RangeParts.addValue { p with name := some n } a =
        (p.addValue a).map fun p => { p with name := some n } := by
      intro a
      rw [RangeParts.addValue, RangeParts.addValue]
      cases a.asScalar "range" <;> rfl
    cases a with
    | bind m => exact absurd rfl (ha m)
    | text s => exact congrArg Except.ok (p.addText_name (some n) s).1
    | list items =>
      simp only [RangeParts.add]
      cases items.mapM (asScalar "range") <;> rfl
    | datatype _ | fragmentScope _ | rangeOptions _ | bindDefault =>
      simp only [RangeParts.add, hvalue]
      split <;> rfl
    | _ => exact hvalue _
  name_add p p' a ha h := by
    have hvalue : ∀ {a}, p.addValue a = .ok p' → p'.name = p.name := by
      intro a h
      obtain ⟨v, -, hp⟩ := bind_eq_ok h
      cases hp
      rfl
    cases a with
    | bind m => exact absurd rfl (ha m)
    | text s =>
      cases h
      exact (p.addText_name none s).2
    | list items =>
      obtain ⟨vs, -, hp⟩ := bind_eq_ok h
      cases hp
      rfl
    | datatype _ | fragmentScope _ | rangeOptions _ | bindDefault =>
      simp only [RangeParts.add] at h
      split at h
      all_goals first | exact hvalue h | (cases h; rfl)
    | _ => exact hvalue h

theorem textParts_storesName (kind : TextKind) :
    StoresName (TextParts.add kind) TextParts.name fun n p => { p with name := some n } where
  stores p n hp := by simp [TextParts.add, hp]
  add_put p n a ha := by
    have htext : ∀ a, TextParts.addText kind { p with name := some n } a =
        (p.addText kind a).map fun p => { p with name := some n } := by
      intro a
      rw [TextParts.addText, TextParts.addText]
      cases a.asScalar kind.name <;> rfl
    cases a with
    | bind m => exact absurd rfl (ha m)
    | list items =>
      simp only [TextParts.add]
      cases items.mapM (asScalar kind.name) <;> rfl
    | fragmentScope _ | termOptions _ | weight _ | bindDefault =>
      simp only [TextParts.add, htext]
      split <;> rfl
    | _ => exact htext _
  name_add p p' a ha h := by
    have htext : ∀ {a}, p.addText kind a = .ok p' → p'.name = p.name := by
      intro a h
      obtain ⟨v, -, hp⟩ := bind_eq_ok h
      cases hp
      rfl
    cases a with
    | bind m => exact absurd rfl (ha m)
    | list items =>
      obtain ⟨vs, -, hp⟩ := bind_eq_ok h
      cases hp
      rfl
    | fragmentScope _ | termOptions _ | weight _ | bindDefault =>
      simp only [TextParts.add] at h
      split at h
      all_goals first | exact htext h | (cases h; rfl)
    | _ => exact htext h

theorem scopeParts_storesName :
    StoresName ScopeParts.add ScopeParts.name fun n p => { p with name := some n } where
  stores p n hp := by simp [ScopeParts.add, hp]
  add_put p n a ha := by
    cases a with
    | bind m => exact absurd rfl (ha m)
    | fragmentScope s =>
      simp only [ScopeParts.add]
      split <;> rfl
    | query q =>
      simp only [ScopeParts.add]
      split
      · cases q <;> rfl
      · rfl
    | _ => rfl
  name_add p p' a ha h := by
    cases a with
    | bind m => exact absurd rfl (ha m)
    | fragmentScope s =>
      simp only [ScopeParts.add] at h
      split at h
      · cases h
        rfl
      · cases h
    | query q =>
      simp only [ScopeParts.add] at h
      split at h
      · cases q <;> cases h
        rfl
      · cases h
    | _ => cases h

end Build

namespace IndexFunction

variable {f : IndexFunction} {a : Argument} {i : IndexedName} {rest : List Argument}

/-! ## Constraints with a name and without -/

/-- An argument that names an index is not a list. -/
theorem spliceSole_of_asIndex {combinator : String} (ha : a.asIndex combinator = .ok i)
    (rest : List Argument) : spliceSole (a :: rest) = a :: rest := by
  cases a with
  | text s => rfl
  | index j => rfl
  | _ => cases ha

theorem split_of_asIndex (hf : ∀ kind, f ≠ .geo kind) (ha : a.asIndex f.name = .ok i)
    (rest : List Argument) : f.split (a :: rest) = ([a], rest) := by
  have hsplice := spliceSole_of_asIndex ha rest
  cases f with
  | geo kind => exact absurd rfl (hf kind)
  | _ =>
    simp only [split, hsplice]
    rfl

/-- A scan that keeps the name beside everything else leads to the same result for arguments with
a name, but for the name. -/
theorem indexed_insert {P : Type} {s : Scan P} {name : P → Option String} {put : String → P → P}
    (hs : StoresName s.add name put) (hstart : name s.start = none) {missing : String}
    {finish : IndexedName → P → Build Query} {p : P} {us vs : List Argument} {n : String}
    (ha : a.asIndex s.combinator = .ok i) (hus : ∀ m, .bind m ∉ us) (hvs : ∀ m, .bind m ∉ vs)
    (hfold : (us ++ vs).foldlM s.add s.start = .ok p) :
    indexed s missing finish (a :: (us ++ .bind n :: vs)) = finish i (put n p) := by
  have hnamed : (us ++ .bind n :: vs).foldlM s.add s.start = .ok (put n p) := by
    rw [hs.foldlM_insert hus hvs hstart, hfold]
    rfl
  rw [indexed, spliceSole_of_asIndex ha]
  simp only [ha, hnamed]
  rfl

/-- Arguments that fit come down to a summary, and to the same one with a name if a name is put
among them. -/
theorem exists_summary_named (hf : ∀ kind, f ≠ .geo kind) (ha : a.asIndex f.name = .ok i)
    (h : f.Fits (a :: rest)) (hname : ∀ m, .bind m ∉ rest) :
    ∃ s : Summary, f.call (a :: rest) = s.result f.name ∧ s.Tells f [a] rest ∧
      ∀ n us vs, rest = us ++ vs →
        f.call (a :: (us ++ .bind n :: vs)) = Summary.result { s with name := some n } f.name := by
  have hsplit := split_of_asIndex hf ha rest
  have hparts : ∀ us vs, rest = us ++ vs → (∀ m, .bind m ∉ us) ∧ ∀ m, .bind m ∉ vs := by
    rintro us vs rfl
    exact ⟨fun m hm => hname m (List.mem_append_left _ hm),
      fun m hm => hname m (List.mem_append_right _ hm)⟩
  cases f with
  | geo kind => exact absurd rfl (hf kind)
  | range =>
    obtain ⟨first, index, p, hstart, hindex, hfold, hcall⟩ := range_of_fits hsplit h
    cases hstart
    obtain rfl : index = i := Except.ok.inj (hindex.symm.trans ha)
    refine ⟨.ofRange index p, hcall, tells_range ha hfold, fun n us vs hrest => ?_⟩
    obtain ⟨hus, hvs⟩ := hparts us vs hrest
    subst hrest
    rw [call, range_eq, indexed_insert Build.rangeParts_storesName rfl ha hus hvs hfold]
    rfl
  | text kind =>
    obtain ⟨first, index, p, hstart, hindex, hfold, hcall⟩ := text_of_fits hsplit h
    cases hstart
    obtain rfl : index = i := Except.ok.inj (hindex.symm.trans ha)
    refine ⟨.ofText kind index p, hcall, tells_text ha hfold, fun n us vs hrest => ?_⟩
    obtain ⟨hus, hvs⟩ := hparts us vs hrest
    subst hrest
    rw [call, text_eq, indexed_insert (Build.textParts_storesName kind) rfl ha hus hvs hfold]
    rfl
  | scope =>
    obtain ⟨first, index, p, hstart, hindex, hfold, hcall⟩ := scope_of_fits hsplit h
    cases hstart
    obtain rfl : index = i := Except.ok.inj (hindex.symm.trans ha)
    refine ⟨.ofScope index p, hcall, tells_scope ha hfold, fun n us vs hrest => ?_⟩
    obtain ⟨hus, hvs⟩ := hparts us vs hrest
    subst hrest
    rw [call, scope_eq, indexed_insert Build.scopeParts_storesName rfl ha hus hvs hfold]
    rfl

/-- Without a name the result is a constraint with the name of the index, or fails for want of
one; with a name it is the same constraint with that name. -/
theorem constraint_named (hf : ∀ kind, f ≠ .geo kind) (ha : a.asIndex f.name = .ok i)
    (h : f.Fits (a :: rest)) (hgiven : f.given rest = []) (hname : ∀ m, .bind m ∉ rest)
    (hmark : .bindDefault ∉ rest) :
    ∃ spec, (∀ n, f.Holds (.constraint ⟨n, spec⟩) []) ∧
      f.call (a :: rest) = i.requireName.map (fun n => .constraint ⟨n, spec⟩) ∧
      ∀ n us vs, rest = us ++ vs →
        f.call (a :: (us ++ .bind n :: vs)) = .ok (.constraint ⟨n, spec⟩) := by
  obtain ⟨s, hcall, ht, hnamed⟩ := exists_summary_named hf ha h hname
  refine ⟨s.spec, ht.constraint hgiven, ?_, fun n us vs hrest => ?_⟩
  · obtain ⟨first, index, hstart, hindex, hbind⟩ := ht.binds hf
    cases hstart
    obtain rfl : index = i := Except.ok.inj (hindex.symm.trans ha)
    rw [hcall, ht.result_otherwise hgiven hname hmark, hbind]
    cases index.requireName <;> rfl
  · rw [hnamed n us vs hrest, Summary.result, ht.criteria_none hgiven, ht.default_none hmark]

end IndexFunction

/-! ## Facets with a name and without -/

/-- A facet of an index has the parts that follow and the name that is given, or else that of the
index. -/
theorem Build.facet_of_index (i : IndexedName) (rest : List Argument) :
    facet (.index i :: rest) = (rest.foldlM FacetParts.add {} >>= fun p =>
        i.requireName.map fun n => ⟨n, p.kind (.index i)⟩) ∧
      ∀ n, facet (.text n :: .index i :: rest) = (rest.foldlM FacetParts.add {} >>= fun p =>
        .ok ⟨n, p.kind (.index i)⟩) := by
  constructor
  · have hhead : FacetHead (spliceSole (.index i :: rest)) none (.index i) rest :=
      .source rest (fun _ h => nomatch h) (.index i)
    exact facet_of_head hhead
  · intro n
    have hhead : FacetHead (spliceSole (.text n :: .index i :: rest)) (some n) (.index i) rest :=
      .both n rest (.index i)
    exact facet_of_head hhead

namespace IndexFunction

/-- A constraint on an index whose name is left out is the one with the name of the index, wherever
that name is said among its arguments, and so is a facet.  An index without a name of its own makes
a constraint or a facet of any name that is said, and none if no name is said. -/
theorem named_after_index :
    (∀ (f : IndexFunction) (a : Argument) (i : IndexedName) (rest : List Argument),
      (∀ kind, f ≠ .geo kind) → a.asIndex f.name = .ok i → f.Fits (a :: rest) →
      f.given rest = [] → (∀ m, .bind m ∉ rest) → .bindDefault ∉ rest →
      (∀ n, i.defaultName = some n → ∃ spec, f.Holds (.constraint ⟨n, spec⟩) [] ∧
        f.call (a :: rest) = .ok (.constraint ⟨n, spec⟩) ∧
        ∀ us vs, rest = us ++ vs → f.call (a :: (us ++ .bind n :: vs)) = f.call (a :: rest)) ∧
      (Nameless i → f.call (a :: rest) = .error (.missingConstraintName i.kind) ∧
        ∀ m us vs, rest = us ++ vs → ∃ spec, f.Holds (.constraint ⟨m, spec⟩) [] ∧
          f.call (a :: (us ++ .bind m :: vs)) = .ok (.constraint ⟨m, spec⟩))) ∧
    ∀ (i : IndexedName) (rest : List Argument),
      (∀ n, i.defaultName = some n →
        Build.facet (.index i :: rest) = Build.facet (.text n :: .index i :: rest)) ∧
      (Nameless i → FacetRest rest →
        Build.facet (.index i :: rest) = .error (.missingConstraintName i.kind) ∧
        ∀ m, Build.facet (.text m :: .index i :: rest) =
          .ok ⟨m, facetMeaning rest (.index i)⟩) := by
  have hrequired : ∀ {i : IndexedName} {n}, i.defaultName = some n → i.requireName = .ok n := by
    intro i n hn
    rw [IndexedName.requireName, hn]
  have hmissing : ∀ {i : IndexedName}, Nameless i →
      i.requireName = .error (.missingConstraintName i.kind) := by
    intro i hi
    rw [IndexedName.requireName, (nameless_iff i).1 hi]
  constructor
  · intro f a i rest hf ha h hgiven hname hmark
    obtain ⟨spec, hholds, hcall, hnamed⟩ := constraint_named hf ha h hgiven hname hmark
    refine ⟨fun n hn => ⟨spec, hholds n, ?_, fun us vs hrest => ?_⟩, fun hi => ⟨?_, ?_⟩⟩
    · rw [hcall, hrequired hn]
      rfl
    · rw [hnamed n us vs hrest, hcall, hrequired hn]
      rfl
    · rw [hcall, hmissing hi]
      rfl
    · exact fun m us vs hrest => ⟨spec, hholds m, hnamed m us vs hrest⟩
  · intro i rest
    obtain ⟨hbare, hnamed⟩ := Build.facet_of_index i rest
    refine ⟨fun n hn => ?_, fun hi hrest => ?_⟩
    · rw [hbare, hnamed, hrequired hn]
      rfl
    · obtain ⟨-, hfold⟩ | ⟨hnot, -⟩ := Build.facetParts_cases rest
      · rw [hbare, hfold, hmissing hi]
        refine ⟨rfl, fun m => ?_⟩
        rw [hnamed, hfold, ← Build.kind_eq_facetMeaning]
        rfl
      · exact absurd hrest hnot

/-- A price that is named between its datatype and its options, and an attribute and a path that are
not named. -/
theorem named_after_index_price :
    let type : Argument := .datatype ⟨"xs:int", none⟩
    let options : Argument := .rangeOptions ["cached"]
    let identifier : IndexedName := .element (.plain "book") (some (.plain "id"))
    let path : IndexedName := .path ⟨"/book/id", .empty⟩
    let all : Argument := .bucket { name := "all", label := "all" }
    range.call [.text "price", type, .bind "price", options] =
        range.call [.text "price", type, options] ∧
      scope.call [.index identifier, .fragmentScope .properties] =
        .error (.missingConstraintName "element, attribute") ∧
      Build.facet [.index path, all] = .error (.missingConstraintName "path-index") ∧
      ∃ kind, Build.facet [.text "ids", .index path, all] = .ok ⟨"ids", kind⟩ := by
  intro type options identifier path all
  have hprice : range.call [.text "price", type, options] = .ok _ := rfl
  have hprices : range.Fits [.text "price", type, options] := by
    intro e he
    rw [hprice] at he
    cases he
  have hidentifier : scope.call [.index identifier, .fragmentScope .properties] =
      .error (.missingConstraintName identifier.kind) := rfl
  have hidentifiers : scope.Fits [.index identifier, .fragmentScope .properties] := by
    intro e he
    obtain rfl : e = .missingConstraintName identifier.kind :=
      Except.error.inj (he.symm.trans hidentifier)
    simp [BuildError.Misfit, BuildError.kind]
  have hall : FacetRest [all] :=
    { parts := List.forall_mem_singleton.2 (.bucket _)
      datatype := Nat.zero_le 1
      options := Nat.zero_le 1
      functions := Nat.zero_le 1 }
  have hrange : ∀ kind, range ≠ .geo kind := by
    intro kind h
    cases h
  have hscope : ∀ kind, scope ≠ .geo kind := by
    intro kind h
    cases h
  obtain ⟨hconstraints, hfacets⟩ := named_after_index
  obtain ⟨hnamed, -⟩ := hconstraints range (.text "price") (.jsonProperty "price") [type, options]
    hrange rfl hprices rfl (by simp [type, options]) (by simp [type, options])
  obtain ⟨-, hmissing⟩ := hconstraints scope (.index identifier) identifier
    [.fragmentScope .properties] hscope rfl hidentifiers rfl (by simp) (by simp)
  obtain ⟨-, hpath⟩ := hfacets path [all]
  obtain ⟨spec, -, -, hsame⟩ := hnamed "price" rfl
  refine ⟨hsame [type] [options] rfl, (hmissing (.inl ⟨_, _, rfl⟩)).1, ?_⟩
  obtain ⟨hfails, hok⟩ := hpath (.inr ⟨_, rfl⟩) hall
  exact ⟨hfails, _, hok "ids"⟩

end IndexFunction

end SearchRequest
