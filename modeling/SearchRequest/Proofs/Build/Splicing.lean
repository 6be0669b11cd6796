import Mathlib.Data.List.Basic
import SearchRequest.Build.SearchTexts
import SearchRequest.Proofs.Build.Places

/-!
# Lists among the arguments

A list of arguments may stand for its items: everywhere if it is the only argument, and in some
functions anywhere.

* `Argument.Unlisted`, `Argument.Grouped` — arguments without lists, and arguments without lists in
  lists.
* `ListFunction` — the functions that take a list of arguments.
* `ListFunction.call_eq_of_spliceSole_eq` — they all read a sole list as its items.
* `ListFunction.Flattens`, `ListFunction.call_flatten` — those that read every list as its items.
* `Build.text_spread` — a list of literals after an index is as good as the literals.
* `ListFunction.call_regrouped` — the three together.
-/

namespace SearchRequest

namespace Argument

variable {args : List Argument}

/-- No argument is a list. -/
def Unlisted (args : List Argument) : Prop := ∀ items, .list items ∉ args

/-- No list among the arguments has a list among its items. -/
def Grouped (args : List Argument) : Prop := ∀ items, .list items ∈ args → Unlisted items

theorem spliceSole_of_ne (h : ∀ items, args ≠ [.list items]) : spliceSole args = args := by
  unfold spliceSole
  split
  · exact absurd rfl (h _)
  · rfl

theorem toItems_of_ne {a : Argument} (h : ∀ items, a ≠ .list items) : a.toItems = [a] := by
  cases a with
  | list items => exact absurd rfl (h items)
  | _ => rfl

namespace Unlisted

theorem spliceSole_eq (h : Unlisted args) : spliceSole args = args :=
  spliceSole_of_ne fun items hargs => h items (by rw [hargs]; exact List.mem_singleton_self _)

theorem flatten_eq (h : Unlisted args) : flatten args = args := by
  have hitems : ∀ a ∈ args, a.toItems = [a] := fun a ha =>
    toItems_of_ne fun items hlist => h items (hlist ▸ ha)
  rw [flatten, List.flatMap_congr hitems, List.flatMap_singleton']

end Unlisted

/-- What is no list is an item of its own. -/
theorem mem_flatten_of_mem {a : Argument} (ha : a ∈ args) (h : ∀ items, a ≠ .list items) :
    a ∈ flatten args :=
  List.mem_flatMap.2 ⟨a, ha, by rw [toItems_of_ne h]; exact List.mem_singleton_self a⟩

namespace Grouped

theorem flatten_unlisted (h : Grouped args) : Unlisted (flatten args) := by
  intro items hitems
  obtain ⟨a, ha, hmem⟩ := List.mem_flatMap.1 hitems
  cases a with
  | list inner => exact h inner ha items hmem
  | _ => cases List.mem_singleton.1 hmem

/-- Only the items of a list of lists could change with the list around them. -/
theorem flatten_spliceSole (h : Grouped args) : flatten (spliceSole args) = flatten args := by
  unfold spliceSole
  split
  · rename_i items
    rw [(h items (List.mem_singleton_self _)).flatten_eq]
    exact (List.append_nil items).symm
  · rfl

end Grouped

end Argument

open Argument

/-! ## A list after an index -/

namespace Build

/-- The texts of a list are added at once, or one after the other. -/
theorem TextParts.foldlM_add_scalars (kind : TextKind) {items : List Argument}
    (h : ∀ a ∈ items, a.scalar?.isSome) (p : TextParts) :
    items.foldlM (TextParts.add kind) p = p.add kind (.list items) := by
  have hlist : ∀ {as : List Argument} (q : TextParts), (∀ a ∈ as, a.scalar?.isSome) →
      q.add kind (.list as) = .ok { q with text := q.text ++ as.filterMap scalar? } := by
    intro as q has
    simp only [TextParts.add, mapM_asScalar kind.name has]
    rfl
  rw [hlist p h]
  -- the parts so far grow with each item, so the induction is for all of them
  induction items generalizing p with
  | nil => simp [pure, Except.pure]
  | cons a rest ih =>
    obtain ⟨ha, hrest⟩ := List.forall_mem_cons.1 h
    obtain ⟨v, hv⟩ := Option.isSome_iff_exists.1 ha
    have hadd : p.add kind a = .ok { p with text := p.text ++ [v] } := by
      have htext : p.addText kind a = .ok { p with text := p.text ++ [v] } := by
        simp only [TextParts.addText, asScalar, hv]
        rfl
      cases a with
      | null | text _ | number _ | bool _ | instant _ => exact htext
      | _ => cases hv
    rw [List.foldlM_cons, hadd, List.filterMap_cons_some hv]
    refine (ih hrest { p with text := p.text ++ [v] }).trans ?_
    rw [List.append_assoc, List.singleton_append]

/-- After an index, a list of literals is as good as the literals. -/
theorem text_spread (kind : TextKind) {first : Argument} (before after : List Argument)
    {items : List Argument} (hfirst : ∀ items, first ≠ .list items)
    (h : ∀ a ∈ items, a.scalar?.isSome) :
    text kind (first :: (before ++ .list items :: after)) =
      text kind (first :: (before ++ items ++ after)) := by
  have hsplice : ∀ rest, spliceSole (first :: rest) = first :: rest := fun rest =>
    spliceSole_of_ne fun items hlist => hfirst items (List.cons.inj hlist).1
  have hfold : (before ++ .list items :: after).foldlM (TextParts.add kind) {} =
      (before ++ items ++ after).foldlM (TextParts.add kind) {} := by
    simp only [List.foldlM_append, List.foldlM_cons, bind_assoc,
      TextParts.foldlM_add_scalars kind h]
  simp only [text, hsplice, hfold]

end Build

/-! ## The functions that take lists -/

/-- The functions that take a list of arguments. -/
inductive ListFunction where
  /-- An XML name. -/
  | qname
  /-- An XML element. -/
  | element
  /-- An attribute of an XML element. -/
  | attributeName
  /-- Values of an index that compare as told. -/
  | range
  /-- All of several queries. -/
  | and
  /-- Any of several queries. -/
  | or
  /-- One query without another. -/
  | andNot
  /-- One query where another does not match. -/
  | notIn
  /-- A query that another makes more relevant. -/
  | boost
  /-- Queries at a distance from each other. -/
  | near
  /-- Terms anywhere. -/
  | term
  /-- Words or values of an index. -/
  | text (kind : TextKind)
  /-- A temporal collection as of a time. -/
  | lsqt
  /-- A span of time. -/
  | period
  /-- A comparison of temporal axes. -/
  | periodCompare
  /-- A comparison of temporal axes with periods. -/
  | periodRange
  /-- Collections. -/
  | collection
  /-- Directories. -/
  | directory
  /-- Documents by their addresses. -/
  | document
  /-- A property or element. -/
  | scope
  /-- A geospatial index. -/
  | geo (kind : GeoKind)
  /-- A single place. -/
  | point
  /-- A box. -/
  | box
  /-- A circle. -/
  | circle
  /-- A polygon. -/
  | polygon
  /-- A grid over a box. -/
  | heatmap
  /-- A point of reference. -/
  | anchor
  /-- A bucket. -/
  | bucket
  /-- A facet. -/
  | facet
  /-- Bindings of a search text. -/
  | parseBindings
  /-- A search text. -/
  | searchText
  /-- A constraint that a library parses. -/
  | parseFunction
  /-- A sort key. -/
  | sort
  /-- The parts of each result to return. -/
  | extract
  /-- How each result is summarised. -/
  | snippet
  /-- An example of the documents to match. -/
  | byExample
  /-- The criteria of a request. -/
  | setWhere (r : Request)
  /-- The facets of a request. -/
  | setFacets (r : Request)
  /-- The sort keys of a request. -/
  | setOrder (r : Request)
  /-- The page of a request. -/
  | setSlice (r : Request)

namespace ListFunction

/-- What a function makes. -/
abbrev Result : ListFunction → Type
  | qname => QName
  | element | attributeName => IndexedName
  | period => Period
  | point | box | circle | polygon => Region
  | heatmap => Heatmap
  | anchor => Anchor
  | bucket => Build.BuiltBucket
  | facet => Facet
  | parseBindings => ParseBindings
  | searchText => SearchText
  | sort => SortKey
  | extract => Extract
  | snippet => Snippet
  | byExample => Value
  | setWhere _ | setFacets _ | setOrder _ | setSlice _ => Request
  | _ => Query

/-- What a function makes of arguments. -/
def call : (f : ListFunction) → List Argument → Build f.Result
  | qname => Build.qname
  | element => Build.element
  | attributeName => Build.attributeName
  | range => Build.range
  | and => Build.and
  | or => Build.or
  | andNot => Build.andNot
  | notIn => Build.notIn
  | boost => Build.boost
  | near => Build.near
  | term => Build.term
  | text kind => Build.text kind
  | lsqt => Build.lsqt
  | period => Build.period
  | periodCompare => Build.periodCompare
  | periodRange => Build.periodRange
  | collection => Build.collection
  | directory => Build.directory
  | document => Build.document
  | scope => Build.scope
  | geo kind => Build.geoOf kind
  | point => Build.point
  | box => Build.box
  | circle => Build.circle
  | polygon => Build.polygon
  | heatmap => Build.heatmap
  | anchor => Build.anchor
  | bucket => Build.bucket
  | facet => Build.facet
  | parseBindings => Build.parseBindings
  | searchText => Build.searchText
  | parseFunction => Build.parseFunction
  | sort => Build.sort
  | extract => Build.extract
  | snippet => Build.snippet
  | byExample => Build.byExample
  | setWhere r => r.setWhere
  | setFacets r => r.setFacets
  | setOrder r => r.setOrder
  | setSlice r => r.setSlice

variable {args args' : List Argument}

/-- A function does not see whether its arguments came in a list of their own. -/
theorem call_eq_of_spliceSole_eq (f : ListFunction) (h : spliceSole args = spliceSole args') :
    f.call args = f.call args' := by
  cases f with
  | geo kind =>
    cases kind <;>
      simp only [call, Build.geoOf, Build.geoAttributePair, Build.geoElement,
        Build.geoElementPair, Build.geoProperty, Build.geoPropertyPair, Build.geoPath, h]
  | setWhere r => simp only [call, Request.setWhere, Build.whereClause, h]
  | setFacets r => simp only [call, Request.setFacets, h]
  | setOrder r => simp only [call, Request.setOrder, h]
  | setSlice r => simp only [call, Request.setSlice, Build.sliceClause, h]
  | andNot => simp only [call, Build.andNot, Build.pair, h]
  | notIn => simp only [call, Build.notIn, Build.pair, h]
  | boost => simp only [call, Build.boost, Build.pair, h]
  | qname => simp only [call, Build.qname, QName.ofArguments, h]
  | _ =>
    simp only [call, Build.element, Build.attributeName, Build.range, Build.and, Build.or,
      Build.near, Build.term, Build.text, Build.lsqt, Build.period, Build.periodCompare,
      Build.periodRange, Build.collection, Build.directory, Build.document, Build.scope,
      Build.point, Build.box, Build.circle, Build.polygon, Build.heatmap, Build.anchor,
      Build.bucket, Build.facet, Build.parseBindings, Build.searchText, Build.parseFunction,
      Build.sort, Build.extract, Build.snippet, Build.byExample, h]

/-- More than one argument, or none, may as well come in a list. -/
theorem call_list_eq (f : ListFunction) (h : args.length ≠ 1) :
    f.call [.list args] = f.call args :=
  f.call_eq_of_spliceSole_eq
    (spliceSole_of_ne fun _ hargs => h (congrArg List.length hargs)).symm

/-- The functions that read the items of every list among their arguments, if all the items are
as they want them: collections without a binding, and criteria without an example. -/
def Flattens : ListFunction → List Argument → Prop
  | and, _ | or, _ | near, _ | directory, _ | document, _ | setFacets _, _ | setOrder _, _ => True
  | collection, items => items ≠ [] ∧ ∀ a ∈ items, Build.isBind a = false
  | setWhere _, items => ∀ a ∈ items, Build.soleExample? [a] = none
  | _, _ => False

/-- Some collections are addresses, not the declaration of the index or a binding. -/
theorem collection_eq_uris (h : flatten (spliceSole args) ≠ [])
    (hbind : ∀ a ∈ flatten (spliceSole args), Build.isBind a = false) :
    Build.collection args =
      (Build.uris "collection" (spliceSole args)).map fun us => .criteria (.collection us) := by
  have hempty : (spliceSole args).isEmpty = false := by
    cases hargs : spliceSole args with
    | nil => exact absurd (by rw [hargs]; rfl) h
    | cons _ _ => rfl
  have hany : (spliceSole args).any Build.isBind = false := by
    refine List.any_eq_false.2 fun a ha => ?_
    cases a with
    | bind n => exact absurd (hbind _ (mem_flatten_of_mem ha (by simp))) (by simp [Build.isBind])
    | _ => exact Bool.false_ne_true
  simp only [Build.collection, hempty, hany, Bool.and_false, Bool.false_eq_true, if_false]
  cases Build.uris "collection" (spliceSole args) <;> rfl

/-- A list is no example. -/
theorem soleExample?_of_flatten (h : ∀ a ∈ flatten args, Build.soleExample? [a] = none) :
    Build.soleExample? args = none := by
  unfold Build.soleExample?
  split
  · exact h _ (List.mem_singleton_self _)
  · exact h _ (List.mem_singleton_self _)
  · rfl

/-- Lists around some of the arguments make no difference to a function that reads their items. -/
theorem call_flatten (f : ListFunction) (hgrouped : Grouped args)
    (hf : f.Flattens (flatten args)) : f.call args = f.call (flatten args) := by
  -- once the lists are gone, there is nothing left to splice
  have hflat := hgrouped.flatten_unlisted
  have hitems : flatten (spliceSole args) = flatten (spliceSole (flatten args)) := by
    rw [hgrouped.flatten_spliceSole, hflat.spliceSole_eq, hflat.flatten_eq]
  cases f with
  | and => simp only [call, Build.and, hitems]
  | or => simp only [call, Build.or, hitems]
  | near => simp only [call, Build.near, hitems]
  | directory => simp only [call, Build.directory, hitems]
  | document => simp only [call, Build.document, Build.uris, hitems]
  | setFacets r => simp only [call, Request.setFacets, hitems]
  | setOrder r => simp only [call, Request.setOrder, hitems]
  | collection =>
    rw [← hgrouped.flatten_spliceSole] at hf
    obtain ⟨hne, hbind⟩ := hf
    simp only [call]
    rw [collection_eq_uris hne hbind, collection_eq_uris (hitems ▸ hne) (hitems ▸ hbind),
      Build.uris, Build.uris, hitems]
  | setWhere r =>
    rw [← hgrouped.flatten_spliceSole] at hf
    simp only [call, Request.setWhere, Build.whereClause, soleExample?_of_flatten hf,
      @soleExample?_of_flatten (spliceSole (flatten args)) (hitems ▸ hf), hitems]
  | _ => exact hf.elim

/-- A list that is the only argument stands for its items.  Some functions read the same from any
grouping of the same items, and words or values of an index the same from a list of literals as
from the literals. -/
theorem call_regrouped :
    (∀ (f : ListFunction) (args : List Argument), (∀ items, args ≠ [.list items]) →
      f.call [.list args] = f.call args) ∧
    (∀ (f : ListFunction) (args args' : List Argument), Grouped args → Grouped args' →
      flatten args = flatten args' → f.Flattens (flatten args) → f.call args = f.call args') ∧
    ∀ (kind : TextKind) (first : Argument) (before items after : List Argument),
      (∀ items, first ≠ .list items) → (∀ a ∈ items, a.scalar?.isSome) →
      (text kind).call (first :: (before ++ .list items :: after)) =
        (text kind).call (first :: (before ++ items ++ after)) := by
  refine ⟨fun f args hargs => ?_, fun f args args' hargs hargs' hsame hf => ?_,
    fun kind first before items after => Build.text_spread kind before after⟩
  · exact f.call_eq_of_spliceSole_eq (spliceSole_of_ne hargs).symm
  · calc f.call args = f.call (flatten args) := f.call_flatten hargs hf
      _ = f.call (flatten args') := by rw [hsame]
      _ = f.call args' := (f.call_flatten hargs' (hsame ▸ hf)).symm

/-- Two directories and the mark between them, in a list or not, and two words of a property. -/
theorem call_regrouped_directory :
    let args : List Argument := [.list [.text "/a/", .bool true], .text "/b/"]
    let args' : List Argument := [.text "/a/", .list [.bool true, .text "/b/"]]
    let words : List Argument := [.text "sun", .text "sea"]
    ((∀ items, args ≠ [.list items]) ∧ Grouped args ∧ Grouped args' ∧ flatten args = flatten args' ∧
      ∀ a ∈ words, a.scalar?.isSome) ∧
    directory.call args = .ok (.criteria (.directory ["/a/", "/b/"] (some true))) ∧
      directory.call [.list args] = directory.call args ∧
      directory.call args = directory.call args' ∧
      (text .word).call [.text "title", .list words, .weight (.ofInt 2)] =
        (text .word).call [.text "title", .text "sun", .text "sea", .weight (.ofInt 2)] := by
  intro args args' words
  have hne : ∀ items, args ≠ [.list items] := by simp [args]
  have hgrouped : Grouped args := by simp [args, Grouped, Unlisted]
  have hgrouped' : Grouped args' := by simp [args', Grouped, Unlisted]
  have hwords : ∀ a ∈ words, a.scalar?.isSome := by simp [words, scalar?]
  obtain ⟨hsole, hregroup, hspread⟩ := call_regrouped
  exact ⟨⟨hne, hgrouped, hgrouped', rfl, hwords⟩, rfl, hsole directory args hne,
    hregroup directory args args' hgrouped hgrouped' rfl trivial,
    hspread .word (.text "title") [] words [.weight (.ofInt 2)] (by simp) hwords⟩

end ListFunction

end SearchRequest
