import SearchRequest.Proofs.Number.Denotation
import SearchRequest.Proofs.Build.Pages

/-!
# The numbers of a page are those that were given

The start and the length of a page are given as literals of any of the three kinds.  Each is read as
the natural number that it denotes; only two to the 64, which is beyond the range, is taken for the
last number of the range.

* `Argument.SameAmount` — two arguments are the same but for the kind of a literal.
* `PageFit.countAt_number` — the number that a literal says in its place.
* `Request.setSlice_numbers` — literals are read as what they denote, by themselves and in a page.
-/

namespace SearchRequest

/-- Two arguments are the same, or literals that denote the same. -/
inductive Argument.SameAmount : Argument → Argument → Prop where
  /-- The same argument. -/
  | same (a : Argument) : SameAmount a a
  /-- Literals of any kinds. -/
  | number {n n' : Number} {q : ℚ} (h : n.rational? = some q) (h' : n'.rational? = some q) :
    SameAmount (.number n) (.number n')

open Argument

theorem PageFit.countAt_number {items : List Argument} {i : Nat} {n : Number} (h : PageFit items)
    (hn : items[i]? = some (.number n)) : ∃ k, countAt items i = some k ∧ n.toUInt64? = some k := by
  obtain hshape | ⟨-, hcount⟩ := h i _ hn
  · cases hshape
  · obtain ⟨k, hk⟩ := Option.isSome_iff_exists.1 hcount
    exact ⟨k, by rw [countAt, hn, Option.bind_some, hk], hk⟩

theorem Build.SliceParts.add_alike (p : SliceParts) {a a' : Argument} (h : a.SameAmount a') :
    Alike (p.add a) (p.add a') := by
  cases h with
  | same a => exact .same _
  | @number n n' q h h' =>
    have hread : n.toUInt64? = n'.toUInt64? := Number.toUInt64?_congr (h.trans h'.symm)
    simp only [add, hread]
    split
    · split
      · exact .refused _ _ _ _
      · exact .same _
    · exact .refused _ _ _ _

namespace Request

theorem setSlice_alike (r : Request) {args args' : List Argument}
    (h : List.Forall₂ SameAmount (spliceSole args) (spliceSole args')) :
    Build.Alike (r.setSlice args) (r.setSlice args') := by
  refine .bind (.bind (.foldlM ?_ h _) fun _ => .same _) fun _ => .same _
  exact fun p _ _ => p.add_alike

/-- A literal is read as the natural number that it denotes, below two to the 64, and two to the 64
as the number before it; a literal that denotes no natural number up to there is not read.  So the
numbers that make a page are those that its literals denote, or the last of the range for one that
denotes two to the 64.  Literals that denote the same make the same page. -/
theorem setSlice_numbers (r : Request) :
    (∀ (n : Number) (k : UInt64),
      n.toUInt64? = some k ↔ n.Denotes k.toNat ∨ n.Denotes (2 ^ 64) ∧ k.toNat = 2 ^ 64 - 1) ∧
    (∀ n : Number, n.toUInt64? = none ↔ ∀ m ≤ 2 ^ 64, ¬n.Denotes m) ∧
    (∀ args r', r.setSlice args = .ok r' → ∃ clause : SliceClause,
      r' = { r with slice := some clause } ∧
      clause.Pages (countAt (spliceSole args) 0) (countAt (spliceSole args) 1) ∧
      ∀ i n, (spliceSole args)[i]? = some (.number n) →
        ∃ k, countAt (spliceSole args) i = some k ∧
          (n.Denotes k.toNat ∨ n.Denotes (2 ^ 64) ∧ k.toNat = 2 ^ 64 - 1)) ∧
    ∀ args args', List.Forall₂ SameAmount (spliceSole args) (spliceSole args') →
      Build.Alike (r.setSlice args) (r.setSlice args') := by
  refine ⟨fun _ _ => Number.toUInt64?_eq_some_iff, fun _ => Number.toUInt64?_eq_none_iff, ?_,
    fun _ _ => r.setSlice_alike⟩
  intro args r' h
  obtain ⟨hfit, rfl⟩ := setSlice_eq_ok_iff.1 h
  refine ⟨_, rfl, Build.SliceParts.result_pages _, fun i n hn => ?_⟩
  obtain ⟨k, hcount, hk⟩ := hfit.countAt_number hn
  exact ⟨k, hcount, Number.toUInt64?_eq_some_iff.1 hk⟩

/-- Twenty results from the second on, with a fraction of zero in one of the two numbers. -/
theorem setSlice_numbers_two_twenty :
    let r : Request := {}
    let two : Number := .float (.finite false ⟨1024 * 2 ^ 52, by decide⟩)
    let twenty : Number := .float (.finite false ⟨1027 * 2 ^ 52 + 2 ^ 50, by decide⟩)
    let args : List Argument := [.number two, .number (.ofInt 20)]
    let args' : List Argument := [.number (.ofInt 2), .number twenty]
    let r' : Request := { slice := some { pageStart := some 2, pageLength := some 20 } }
    (r.setSlice args = .ok r' ∧ (spliceSole args)[0]? = some (.number two) ∧
        List.Forall₂ SameAmount (spliceSole args) (spliceSole args')) ∧
      two.toUInt64? = some 2 ∧
      (∃ k, countAt args 0 = some k ∧
        (two.Denotes k.toNat ∨ two.Denotes (2 ^ 64) ∧ k.toNat = 2 ^ 64 - 1)) ∧
      Build.Alike (r.setSlice args) (r.setSlice args') := by
  intro r two twenty args args' r'
  have htwo : two.Denotes 2 := Number.denotes_float_iff.2 (by decide +kernel)
  have htwenty : twenty.Denotes 20 := Number.denotes_float_iff.2 (by decide +kernel)
  have hsame : List.Forall₂ SameAmount args args' :=
    .cons (.number htwo (Number.denotes_signed_iff.2 (by decide)))
      (.cons (.number (Number.denotes_signed_iff.2 (by decide)) htwenty) .nil)
  obtain ⟨hread, -, hpages, halike⟩ := setSlice_numbers r
  have htwo' : two.toUInt64? = some 2 := (hread two 2).2 (.inl htwo)
  have hok : r.setSlice args = .ok r' := by
    simp only [args, setSlice, Build.sliceClause, spliceSole, List.foldlM_cons,
      Build.SliceParts.add, htwo']
    rfl
  obtain ⟨-, -, -, hgiven⟩ := hpages args r' hok
  exact ⟨⟨hok, rfl, hsame⟩, htwo', hgiven 0 two rfl, halike args args' hsame⟩

/-- Two to the 64, written with a fraction of zero, is taken for the number before it. -/
theorem not_exact_two_to_the_64 :
    let r : Request := {}
    let n : Number := .float (.finite false ⟨1087 * 2 ^ 52, by decide⟩)
    let k : UInt64 := 18446744073709551615
    n.toUInt64? = some k ∧ n.Denotes (2 ^ 64) ∧ ¬n.Denotes k.toNat ∧
      r.setSlice [.number n] = .ok { slice := some { pageStart := some k } } := by
  intro r n k
  have hn : n.Denotes (2 ^ 64) := Number.denotes_float_iff.2 (by decide +kernel)
  have hk : n.toUInt64? = some k := by decide +kernel
  refine ⟨hk, hn, fun h => absurd (hn.unique h) (by decide), ?_⟩
  simp only [setSlice, Build.sliceClause, spliceSole, List.foldlM_cons, Build.SliceParts.add, hk]
  rfl

end Request

end SearchRequest
