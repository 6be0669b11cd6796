import SearchRequest.Proofs.Build.Calls

/-!
# Runs of calls, copies and reloads

* `Setter`, `Request.part`, `Request.replacePart` — the five setters, what each of them sets, and a
  request with that part taken from another one.
* `Request.call_eq_map` — a call takes the part it sets from what it makes of the request without
  clauses, and fails or succeeds as it does there.
* `RequestStep`, `Request.step`, `Request.run` — calls, copies and reloads, and what they make of a
  request; a call or a reload that fails leaves it as it is.
* `Request.Reloads` — whenever a run reloads the request, the request can be restored.
* `Request.part_run` — what a run leaves in each part, from where it starts.
* `Request.run_eq_last_successes` — in each part stands what the last successful call of its setter
  makes of the request without clauses.
-/

namespace SearchRequest

/-- The setters of a request. -/
inductive Setter where
  /-- Sets the criteria, with their type and format. -/
  | criteria
  /-- Sets the facets. -/
  | facets
  /-- Sets the sort keys. -/
  | order
  /-- Sets the page of results. -/
  | slice
  /-- Sets the options. -/
  | options
  deriving DecidableEq, Repr

/-- The setter that is called. -/
def ClauseCall.setter : ClauseCall → Setter
  | .setWhere _ => .criteria
  | .setFacets _ => .facets
  | .setOrder _ => .order
  | .setSlice _ => .slice
  | .setOptions _ => .options

/-- A step of a run. -/
inductive RequestStep where
  /-- A call that sets a clause. -/
  | call (c : ClauseCall)
  /-- The request is copied. -/
  | copy
  /-- The request is written and read again. -/
  | reload

namespace Request

/-! ## Parts -/

/-- The request that has what a setter sets, and nothing else. -/
def part (r : Request) : Setter → Request
  | .criteria =>
    { whereClause := r.whereClause, queryType := r.queryType, queryFormat := r.queryFormat }
  | .facets => { facets := r.facets }
  | .order => { sortKeys := r.sortKeys }
  | .slice => { slice := r.slice }
  | .options => { options := r.options }

/-- The request with what a setter sets taken from another request. -/
def replacePart (r : Request) (s : Setter) (other : Request) : Request :=
  match s with
  | .criteria => { r with
      whereClause := other.whereClause
      queryType := other.queryType
      queryFormat := other.queryFormat }
  | .facets => { r with facets := other.facets }
  | .order => { r with sortKeys := other.sortKeys }
  | .slice => { r with slice := other.slice }
  | .options => { r with options := other.options }

variable {r other : Request}

theorem part_replacePart (s t : Setter) :
    (r.replacePart s other).part t = if t = s then other.part t else r.part t := by
  cases s <;> cases t <;> rfl

theorem part_empty (s : Setter) : empty.part s = empty := by
  cases s <;> rfl

/-- Requests with the same parts are the same. -/
theorem eq_of_part (h : ∀ s, r.part s = other.part s) : r = other := by
  have hcriteria := h .criteria
  have hfacets := h .facets
  have horder := h .order
  have hslice := h .slice
  have hoptions := h .options
  obtain ⟨_, _, _, _, _, _, _⟩ := r
  obtain ⟨_, _, _, _, _, _, _⟩ := other
  simp only [part, mk.injEq, true_and, and_true] at hcriteria hfacets horder hslice hoptions
  obtain ⟨rfl, rfl, rfl⟩ := hcriteria
  subst hfacets horder hslice hoptions
  rfl

/-- A call takes the part it sets from what it makes of the request without clauses, and keeps the
other parts; it fails exactly where it fails there. -/
theorem call_eq_map (r : Request) (c : ClauseCall) :
    r.call c = (empty.call c).map (r.replacePart c.setter) := by
  cases c with
  | setWhere args =>
    simp only [call, setWhere]
    cases Build.whereClause args <;> rfl
  | setFacets args =>
    simp only [call, setFacets]
    cases (Argument.flatten (Argument.spliceSole args)).mapM Build.asFacet <;> rfl
  | setOrder args =>
    simp only [call, setOrder]
    cases (Argument.flatten (Argument.spliceSole args)).mapM Build.asSortKey <;> rfl
  | setSlice args =>
    simp only [call, setSlice]
    cases Build.sliceClause args <;> rfl
  | setOptions config =>
    simp only [call, setOptions]
    cases (Options.ofConfig config).mapError BuildError.unreadable <;> rfl

/-- Whether a call succeeds does not depend on the request. -/
theorem isOk_call (r : Request) (c : ClauseCall) : (r.call c).isOk = (empty.call c).isOk := by
  rw [call_eq_map]
  cases empty.call c <;> rfl

/-- What a call makes of the request without clauses has nothing but the part that is set. -/
theorem part_setter_of_call {c : ClauseCall} (h : empty.call c = .ok r) : r.part c.setter = r := by
  cases c with
  | setWhere args =>
    obtain ⟨clause, -, hr⟩ := bind_eq_ok h
    cases hr
    rfl
  | setFacets args =>
    obtain ⟨facets, -, hr⟩ := bind_eq_ok h
    cases hr
    rfl
  | setOrder args =>
    obtain ⟨keys, -, hr⟩ := bind_eq_ok h
    cases hr
    rfl
  | setSlice args =>
    obtain ⟨clause, -, hr⟩ := bind_eq_ok h
    cases hr
    rfl
  | setOptions config =>
    obtain ⟨options, -, hr⟩ := bind_eq_ok h
    cases hr
    rfl

/-! ## Runs -/

section Steps

variable (ρ : FloatReader)

/-- What a step makes of a request; one that fails leaves it as it is. -/
def step (r : Request) : RequestStep → Request
  | .call c => (r.call c).toOption.getD r
  | .copy => r.copy
  | .reload => (read ρ r.text).toOption.getD r

/-- What steps make of a request, one after the other. -/
def run (r : Request) (steps : List RequestStep) : Request := steps.foldl (step ρ) r

/-- A request of which every number is read as it is written, and of which what it holds is told
apart again in its document. -/
structure Storable (r : Request) : Prop where
  /-- Every number is of a kind that texts are read as. -/
  faithful : r.node.Faithful
  /-- Every floating-point number is read back. -/
  restored : ρ.RestoresAll r.json.floats
  /-- What the request holds is told apart again. -/
  restorable : r.Restorable

/-- Whenever the steps reload the request, it can be restored as it then is. -/
def Reloads : Request → List RequestStep → Prop
  | _, [] => True
  | r, .reload :: rest => r.Storable ρ ∧ Reloads (r.step ρ .reload) rest
  | r, s :: rest => Reloads (r.step ρ s) rest

end Steps

variable {ρ : FloatReader}

theorem Reloads.tail {s : RequestStep} {rest : List RequestStep}
    (h : r.Reloads ρ (s :: rest)) : (r.step ρ s).Reloads ρ rest := by
  cases s with
  | call c => exact h
  | copy => exact h
  | reload => exact h.2

theorem Typed.copy (r : Request) : r.copy.Typed := ⟨rfl, rfl⟩

/-- A reload changes nothing: either it gives the request back, or the document is nested too
deeply and cannot be read. -/
theorem step_reload (htyped : r.Typed) (h : r.Storable ρ) : r.step ρ .reload = r := by
  have hread := ofText_text h.restorable h.faithful h.restored
  rw [htyped.copy_eq] at hread
  by_cases hdepth : r.json.depth ≤ Json.Parser.nestingLimit
  · rw [step, read, hread.1 hdepth]
    rfl
  · obtain ⟨e, he⟩ := hread.2 hdepth
    rw [step, read, he]
    rfl

theorem step_call (r : Request) (c : ClauseCall) :
    r.step ρ (.call c) = ((empty.call c).map (r.replacePart c.setter)).toOption.getD r := by
  rw [step, call_eq_map]

theorem Typed.step {s : RequestStep} {rest : List RequestStep} (h : r.Typed)
    (hreloads : r.Reloads ρ (s :: rest)) : (r.step ρ s).Typed := by
  cases s with
  | call c =>
    cases hcall : r.call c with
    | ok next =>
      rw [Request.step, hcall]
      exact h.call hcall
    | error e =>
      rw [Request.step, hcall]
      exact h
  | copy => exact .copy r
  | reload =>
    rw [step_reload h hreloads.1]
    exact h

end Request

/-! ## The last successful call -/

/-- The call of a setter that a step makes, if it succeeds.  Whether it does depends on the call
alone, as `Request.isOk_call` says. -/
def RequestStep.successOf (s : Setter) : RequestStep → Option ClauseCall
  | .call c => if c.setter = s ∧ (Request.empty.call c).isOk then some c else none
  | _ => none

/-- The last successful call of a setter. -/
def lastSuccess (s : Setter) (steps : List RequestStep) : Option ClauseCall :=
  (steps.filterMap (RequestStep.successOf s)).getLast?

/-- What a call makes of the request without clauses, which stays as it is if the call fails. -/
def ClauseCall.fresh (c : ClauseCall) : Request :=
  (Request.empty.call c).toOption.getD Request.empty

theorem lastSuccess_cons (s : Setter) (x : RequestStep) (rest : List RequestStep) :
    lastSuccess s (x :: rest) = (lastSuccess s rest).or (x.successOf s) := by
  simp only [lastSuccess, List.filterMap_cons]
  cases x.successOf s with
  | none => exact Option.or_none.symm
  | some c =>
    simp only [List.getLast?_cons]
    cases (rest.filterMap (RequestStep.successOf s)).getLast? <;> rfl

namespace Request

variable {ρ : FloatReader} {r : Request}

/-- A step puts into a part what a successful call of its setter makes of the request without
clauses, and otherwise leaves the part as it is. -/
theorem part_step {x : RequestStep} {rest : List RequestStep} (h : r.Typed)
    (hreloads : r.Reloads ρ (x :: rest)) (s : Setter) :
    (r.step ρ x).part s = (x.successOf s).elim (r.part s) ClauseCall.fresh := by
  cases x with
  | copy =>
    rw [step, h.copy_eq]
    rfl
  | reload =>
    rw [step_reload h hreloads.1]
    rfl
  | call c =>
    rw [step_call, RequestStep.successOf]
    cases hc : empty.call c with
    | error e =>
      rw [if_neg fun hsuccess => Bool.false_ne_true hsuccess.2]
      rfl
    | ok next =>
      have hfresh : c.fresh = next := by
        rw [ClauseCall.fresh, hc]
        rfl
      show (r.replacePart c.setter next).part s = _
      rw [part_replacePart]
      by_cases hs : c.setter = s
      · subst hs
        rw [if_pos rfl, if_pos ⟨rfl, rfl⟩, part_setter_of_call hc]
        exact hfresh.symm
      · rw [if_neg fun h => hs h.symm, if_neg fun h => hs h.1]
        rfl

/-- In each part a run leaves what the last successful call of its setter makes of the request
without clauses, or what was there at the start. -/
theorem part_run {steps : List RequestStep} (h : r.Typed) (hreloads : r.Reloads ρ steps)
    (s : Setter) :
    (r.run ρ steps).part s = (lastSuccess s steps).elim (r.part s) ClauseCall.fresh := by
  induction steps generalizing r with
  | nil => rfl
  | cons x rest ih =>
    have hrest := ih (h.step hreloads) hreloads.tail
    rw [run, List.foldl_cons, ← run, hrest, part_step h hreloads, lastSuccess_cons]
    cases lastSuccess s rest <;> rfl

/-- A run that starts from the request without clauses leaves in each part what the last successful
call of its setter makes of that request, and nothing where there was none; so runs with the same
last successful calls end in the same request and the same document.  A call succeeds in a run
exactly if it does on the request without clauses. -/
theorem run_eq_last_successes {steps : List RequestStep} (h : empty.Reloads ρ steps) :
    (∀ (r : Request) c, (r.call c).isOk = (empty.call c).isOk) ∧
      (∀ s, (empty.run ρ steps).part s = (lastSuccess s steps).elim empty ClauseCall.fresh) ∧
      ∀ others, empty.Reloads ρ others → (∀ s, lastSuccess s others = lastSuccess s steps) →
        empty.run ρ others = empty.run ρ steps ∧
          (empty.run ρ others).text = (empty.run ρ steps).text := by
  have htyped : empty.Typed := ⟨rfl, rfl⟩
  have hparts : ∀ {steps}, empty.Reloads ρ steps → ∀ s,
      (empty.run ρ steps).part s = (lastSuccess s steps).elim empty ClauseCall.fresh := by
    intro steps h s
    rw [part_run htyped h, part_empty]
  refine ⟨isOk_call, hparts h, fun others hothers hsame => ?_⟩
  have heq : empty.run ρ others = empty.run ρ steps :=
    eq_of_part fun s => by rw [hparts hothers, hparts h, hsame]
  exact ⟨heq, by rw [heq]⟩

theorem run_eq_last_successes_of_reload :
    let novels : Query := .criteria (.collection ["novels"])
    let steps : List RequestStep :=
      [.call (.setOrder [.text "title"]), .call (.setWhere [.query novels]), .reload,
        .call (.setWhere [.text "novels"]), .call (.setOrder [.text "date"]), .copy]
    let others : List RequestStep :=
      [.call (.setOrder [.text "date"]), .call (.setWhere [.query novels])]
    empty.Reloads .quick steps ∧ empty.Reloads .quick others ∧
      (∀ s, lastSuccess s others = lastSuccess s steps) ∧
      (empty.run .quick steps).part .order = ClauseCall.fresh (.setOrder [.text "date"]) ∧
      (empty.run .quick steps).part .slice = empty ∧
      empty.run .quick others = empty.run .quick steps := by
  intro novels steps others
  have hcriteria : (StructuredWhere.node { queries := some [novels] }).Faithful :=
    ⟨⟨⟨⟨⟨trivial, trivial⟩, trivial⟩, trivial⟩, trivial⟩, trivial⟩
  have hkeys : (sortKeysNode
      [{ index := { jsonProperty := some "title" }, direction := some .ascending }]).Faithful :=
    ⟨⟨⟨trivial, trivial, trivial⟩, trivial⟩, trivial⟩
  let built : Request :=
    { whereClause := some (.structured { queries := some [novels] })
      sortKeys := some
        [{ index := { jsonProperty := some "title" }, direction := some .ascending }]
      queryType := some .structured, queryFormat := some .json }
  have hbuilt : (empty.step .quick (.call (.setOrder [.text "title"]))).step .quick
      (.call (.setWhere [.query novels])) = built := rfl
  have hnone : built.json.floats = [] := rfl
  have hstorable : built.Storable .quick :=
    ⟨⟨hcriteria, hkeys, trivial, trivial, trivial⟩, hnone ▸ FloatReader.restoresAll_nil,
      ⟨fun _ hfacets => (nomatch hfacets), fun _ hslice => (nomatch hslice)⟩⟩
  have hreloads : empty.Reloads .quick steps := ⟨by rw [hbuilt]; exact hstorable, trivial⟩
  have hothers : empty.Reloads .quick others := trivial
  have hsame : ∀ s, lastSuccess s others = lastSuccess s steps := by
    intro s
    cases s <;> rfl
  obtain ⟨-, hparts, heq⟩ := run_eq_last_successes hreloads
  exact ⟨hreloads, hothers, hsame, hparts .order, hparts .slice, (heq others hothers hsame).1⟩

end Request

end SearchRequest
