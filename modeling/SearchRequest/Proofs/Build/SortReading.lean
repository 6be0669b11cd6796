import SearchRequest.Build.Results
import SearchRequest.Proofs.Build.Scans
import SearchRequest.Proofs.Document.Yields

/-!
# How a sort key is read from arguments

After the index or the relevance the directions and the datatypes may come in any order.  Each one
takes the place of those before it, so that the last counts; but a datatype that is given by its
name alone leaves the collation of an earlier one where it is.

* `Argument.direction?`, `Argument.sortDatatype?` — the direction and the datatype that an argument
  gives.
* `SortKey.ofFirst`, `SortKey.takes`, `SortKey.said` — the key of a first argument, the other
  arguments that it takes, and what they make of it.
* `Build.sort_eq_ok_iff`, `Build.sort_refuses` — the key of all arguments, or the first one that is
  not taken.
* `StaleCollation` — a collation that stays behind when its datatype goes.
* `Build.sort_reads` — what a key says, and which of the arguments it comes from.
-/

namespace SearchRequest

namespace Argument

/-- The direction that a text names. -/
def direction? : Argument → Option Direction
  | .text s => Direction.ofName? s
  | _ => none

/-- A datatype, or the one that a text names. -/
def sortDatatype? : Argument → Option Datatype
  | .text s => if isDatatypeLike s then some ⟨s, none⟩ else none
  | .datatype d => some d
  | _ => none

/-- An argument as it is refused where a text may stand. -/
def offender : Argument → Offender
  | .text s => .text s
  | a => .argument a

/-- A datatype that is given by its name alone has no collation. -/
theorem collation_eq_none {a : Argument} {d : Datatype} (h : a.datatype? = none)
    (hd : a.sortDatatype? = some d) : d.collation = none := by
  cases a with
  | text s =>
    simp only [sortDatatype?, Option.ite_none_right_eq_some] at hd
    obtain ⟨-, hd⟩ := hd
    cases hd
    rfl
  | datatype d' => cases h
  | _ => cases hd

end Argument

open Argument

theorem Direction.ofName?_eq_none {s : String} (h : isDatatypeLike s) : ofName? s = none := by
  refine List.find?_eq_none.2 fun d _ hname => ?_
  cases of_decide_eq_true hname
  revert h
  cases d <;> decide

/-! ## The key that arguments add up to -/

namespace SortKey

/-- The key of the first argument: the relevance, or an index. -/
def ofFirst : Argument → Build SortKey
  | .score method => .ok { score := some method }
  | a => do
    let index ← a.asIndex "sort"
    .ok { index := IndexFields.of index }

/-- Whether a key takes an argument after the first: a direction or, for an index, a datatype. -/
def takes (k : SortKey) (a : Argument) : Bool :=
  a.direction?.isSome || !k.isScore && a.sortDatatype?.isSome

/-- A key with the last direction and the name of the last datatype that arguments give; its
collation is that of the last datatype which is not given by its name alone. -/
def said (k : SortKey) (rest : List Argument) : SortKey :=
  { k with
    direction := (rest.filterMap direction?).getLast?
    datatype := (rest.filterMap sortDatatype?).getLast?.map Datatype.name
    collation := (rest.filterMap datatype?).getLast?.bind Datatype.collation }

/-- The key of a first argument says nothing but that. -/
theorem said_nil {a : Argument} {head : SortKey} (h : ofFirst a = .ok head) :
    head.said [] = head := by
  unfold ofFirst at h
  split at h
  · cases h
    rfl
  · obtain ⟨index, -, h⟩ := bind_eq_ok h
    cases h
    rfl

end SortKey

/-- What a function finds last is what it finds in the last argument, if anything. -/
theorem getLast?_filterMap_snoc {B : Type} (g : Argument → Option B) (before : List Argument)
    (a : Argument) :
    ((before ++ [a]).filterMap g).getLast? = (g a).or (before.filterMap g).getLast? := by
  rw [List.filterMap_append, List.getLast?_append]
  cases h : g a <;> simp [h]

theorem filterMap_ne_nil_iff {B : Type} {g : Argument → Option B} {args : List Argument} :
    args.filterMap g ≠ [] ↔ ∃ a ∈ args, (g a).isSome := by
  simp [List.filterMap_eq_nil_iff, Option.isSome_iff_ne_none]

/-- Of one thing at most the last is the first. -/
theorem getLast?_of_length_le_one {B : Type} {g : Argument → Option B} {args : List Argument}
    (h : (args.filterMap g).length ≤ 1) : (args.filterMap g).getLast? = args.findSome? g := by
  rw [← List.head?_filterMap]
  match args.filterMap g, h with
  | [], _ => rfl
  | [b], _ => rfl

namespace Build

/-- An argument that is taken counts from then on; any other one is refused. -/
theorem addToSort_said (head : SortKey) (before : List Argument) (a : Argument) :
    addToSort (head.said before) a =
      if head.takes a then .ok (head.said (before ++ [a]))
      else .error (.unrecognized "sort" a.offender) := by
  simp only [SortKey.said, getLast?_filterMap_snoc]
  cases a with
  | text s =>
    cases hdatatype : isDatatypeLike s with
    | true =>
      have hdirection := Direction.ofName?_eq_none hdatatype
      cases hscore : head.score <;>
        simp [addToSort, SortKey.takes, SortKey.isScore, direction?, sortDatatype?, datatype?,
          offender, hdirection, hdatatype, hscore]
    | false =>
      cases hdirection : Direction.ofName? s <;>
        simp [addToSort, SortKey.takes, direction?, sortDatatype?, datatype?, offender,
          hdirection, hdatatype]
  | datatype d =>
    cases hscore : head.score <;>
      simp [addToSort, SortKey.takes, SortKey.isScore, direction?, sortDatatype?, datatype?,
        offender, refuse, hscore]
  | _ => simp [addToSort, SortKey.takes, direction?, sortDatatype?, offender, refuse]

theorem sort_of_nil {args : List Argument} (h : spliceSole args = []) :
    sort args = .error (.arity "sort" "missing index or score") := by
  rw [sort, h]

/-- The arguments after the first are all taken, or up to the first one that does not fit. -/
theorem sort_of_cons {args rest : List Argument} {first : Argument}
    (h : spliceSole args = first :: rest) :
    sort args = SortKey.ofFirst first >>= fun head =>
      unlessMisfit head.takes (fun a => .unrecognized "sort" a.offender) rest (head.said rest) := by
  have hsort : sort args = SortKey.ofFirst first >>= fun head => rest.foldlM addToSort head := by
    rw [sort, h]
    cases first <;> rfl
  rw [hsort]
  cases hfirst : SortKey.ofFirst first with
  | error e => rfl
  | ok head =>
    have hfold := foldlM_of_fits (addToSort_said head) [] rest
    rwa [SortKey.said_nil hfirst] at hfold

/-- A key is what the first argument and those after it say, which are all taken. -/
theorem sort_eq_ok_iff {args : List Argument} {key : SortKey} :
    sort args = .ok key ↔
      ∃ first rest head, spliceSole args = first :: rest ∧ SortKey.ofFirst first = .ok head ∧
        (∀ a ∈ rest, head.takes a) ∧ key = head.said rest := by
  constructor
  · intro h
    cases hargs : spliceSole args with
    | nil => cases (sort_of_nil hargs).symm.trans h
    | cons first rest =>
      rw [sort_of_cons hargs] at h
      obtain ⟨head, hfirst, h⟩ := bind_eq_ok h
      obtain ⟨htakes, hkey⟩ := unlessMisfit_eq_ok_iff.1 h
      exact ⟨first, rest, head, rfl, hfirst, htakes, hkey.symm⟩
  · rintro ⟨first, rest, head, hargs, hfirst, htakes, rfl⟩
    rw [sort_of_cons hargs, hfirst]
    exact unlessMisfit_of_fits htakes

/-- The first argument that is not taken is refused. -/
theorem sort_refuses {args us vs : List Argument} {first a : Argument} {head : SortKey}
    (hargs : spliceSole args = first :: (us ++ a :: vs)) (hfirst : SortKey.ofFirst first = .ok head)
    (hus : ∀ b ∈ us, head.takes b) (ha : ¬head.takes a) :
    sort args = .error (.unrecognized "sort" a.offender) := by
  rw [sort_of_cons hargs, hfirst]
  exact unlessMisfit_of_misfit hus ha

end Build

/-! ## Which argument a key comes from -/

/-- A datatype with a collation, and after it only datatypes that are given by their names alone,
one at least. -/
def StaleCollation (rest : List Argument) : Prop :=
  ∃ before d after, rest = before ++ .datatype d :: after ∧ d.collation.isSome ∧
    (∀ a ∈ after, a.datatype? = none) ∧ ∃ a ∈ after, a.sortDatatype?.isSome

section LastDatatype

variable {before after rest : List Argument} {d : Datatype}

theorem getLast?_datatype_iff :
    (rest.filterMap datatype?).getLast? = some d ↔
      ∃ before after, rest = before ++ .datatype d :: after ∧ ∀ a ∈ after, a.datatype? = none := by
  rw [List.getLast?_filterMap, List.findSome?_eq_some_iff]
  constructor
  · rintro ⟨after, a, before, hrest, ha, hafter⟩
    cases a with
    | datatype d' =>
      cases ha
      refine ⟨before.reverse, after.reverse, ?_, fun b hb => hafter b (List.mem_reverse.1 hb)⟩
      rw [← List.reverse_reverse rest, hrest]
      simp
    | _ => cases ha
  · rintro ⟨before, after, rfl, hafter⟩
    exact ⟨after.reverse, .datatype d, before.reverse, by simp, rfl,
      fun b hb => hafter b (List.mem_reverse.1 hb)⟩

/-- Datatypes that are given by their names alone have no collation. -/
theorem collation_getLast? (hrest : ∀ a ∈ rest, a.datatype? = none) :
    (rest.filterMap sortDatatype?).getLast?.bind Datatype.collation = none := by
  refine Option.bind_eq_none_iff.2 fun d hd => ?_
  obtain ⟨a, ha, hd⟩ := List.mem_filterMap.1 (List.mem_of_getLast? hd)
  exact collation_eq_none (hrest a ha) hd

/-- The last datatype of arguments is the last of those after a datatype, or that one. -/
theorem getLast?_sortDatatype (before after : List Argument) (d : Datatype) :
    ((before ++ .datatype d :: after).filterMap sortDatatype?).getLast? =
      (after.filterMap sortDatatype?).getLast?.or (some d) := by
  rw [List.filterMap_append, List.filterMap_cons_some (f := sortDatatype?) rfl,
    List.getLast?_append, List.getLast?_cons]
  cases (after.filterMap sortDatatype?).getLast? <;> rfl

/-- A stale collation is not that of the last datatype. -/
theorem StaleCollation.collation_ne (h : StaleCollation rest) :
    (rest.filterMap datatype?).getLast?.bind Datatype.collation ≠
      (rest.filterMap sortDatatype?).getLast?.bind Datatype.collation := by
  obtain ⟨before, d, after, rfl, hcollation, hafter, hnames⟩ := h
  intro hsame
  obtain ⟨d', hlast⟩ := Option.isSome_iff_exists.1
    (List.getLast?_isSome.2 (filterMap_ne_nil_iff.2 hnames))
  have hnone := collation_getLast? hafter
  rw [getLast?_datatype_iff.2 ⟨before, after, rfl, hafter⟩, getLast?_sortDatatype, hlast] at hsame
  rw [hlast] at hnone
  rw [show d.collation = none from hsame.trans hnone] at hcollation
  cases hcollation

theorem collation_eq_of_not_stale (h : ¬StaleCollation rest) :
    (rest.filterMap datatype?).getLast?.bind Datatype.collation =
      (rest.filterMap sortDatatype?).getLast?.bind Datatype.collation := by
  cases hlast : (rest.filterMap datatype?).getLast? with
  | none =>
    rw [List.getLast?_eq_none_iff, List.filterMap_eq_nil_iff] at hlast
    exact (collation_getLast? hlast).symm
  | some d =>
    obtain ⟨before, after, rfl, hafter⟩ := getLast?_datatype_iff.1 hlast
    have hnone := collation_getLast? hafter
    rw [getLast?_sortDatatype]
    cases hnames : (after.filterMap sortDatatype?).getLast? with
    | none => rfl
    | some d' =>
      rw [hnames] at hnone
      -- a name follows the datatype, whose collation would be stale if it had one
      have hcollation : ¬d.collation.isSome := fun hcollation =>
        h ⟨before, d, after, rfl, hcollation, hafter,
          filterMap_ne_nil_iff.1 (List.ne_nil_of_mem (List.mem_of_getLast? hnames))⟩
      exact (Option.not_isSome_iff_eq_none.1 hcollation).trans hnone.symm

end LastDatatype

theorem StaleCollation.two_le {rest : List Argument} (h : StaleCollation rest) :
    2 ≤ (rest.filterMap sortDatatype?).length := by
  obtain ⟨before, d, after, rfl, -, -, hnames⟩ := h
  have hpos := List.length_pos_of_ne_nil (filterMap_ne_nil_iff.2 hnames)
  rw [List.filterMap_append, List.filterMap_cons_some (f := sortDatatype?) rfl,
    List.length_append, List.length_cons]
  omega

namespace Build

/-- A key takes directions and, unless it is the relevance, datatypes, any number of each; the first
other argument is refused.  It has the last direction and the name of the last datatype, and the
collation of that datatype too exactly if there is no stale one.  So where one direction is given at
most it has that, and where one datatype is given at most it has the name and the collation of that;
and whatever is given, no collation is made up. -/
theorem sort_reads (args : List Argument) :
    (∀ key, sort args = .ok key ↔
      ∃ first rest head, spliceSole args = first :: rest ∧ SortKey.ofFirst first = .ok head ∧
        (∀ a ∈ rest, head.takes a) ∧ key = head.said rest) ∧
    (∀ first us a vs head, spliceSole args = first :: (us ++ a :: vs) →
      SortKey.ofFirst first = .ok head → (∀ b ∈ us, head.takes b) → ¬head.takes a →
        sort args = .error (.unrecognized "sort" a.offender)) ∧
    ∀ first rest key, spliceSole args = first :: rest → sort args = .ok key →
      ((rest.filterMap direction?).length ≤ 1 → key.direction = rest.findSome? direction?) ∧
      ((rest.filterMap sortDatatype?).length ≤ 1 →
        key.datatype = (rest.findSome? sortDatatype?).map Datatype.name ∧
        key.collation = (rest.findSome? sortDatatype?).bind Datatype.collation) ∧
      (key.collation = (rest.filterMap sortDatatype?).getLast?.bind Datatype.collation ↔
        ¬StaleCollation rest) ∧
      ∀ c, key.collation = some c → ∃ d, .datatype d ∈ rest ∧ d.collation = some c := by
  refine ⟨fun key => sort_eq_ok_iff, fun first us a vs head => sort_refuses,
    fun first rest key hargs hkey => ?_⟩
  obtain ⟨first', rest', head, hargs', -, -, rfl⟩ := sort_eq_ok_iff.1 hkey
  cases hargs.symm.trans hargs'
  refine ⟨getLast?_of_length_le_one, fun hone => ?_,
    ⟨fun hsame hstale => hstale.collation_ne hsame, collation_eq_of_not_stale⟩, fun c hc => ?_⟩
  · have hstale : ¬StaleCollation rest := fun h => absurd h.two_le (by omega)
    have hlast := getLast?_of_length_le_one hone
    exact ⟨congrArg (Option.map Datatype.name) hlast, hlast ▸ collation_eq_of_not_stale hstale⟩
  · obtain ⟨d, hd, hcollation⟩ := Option.bind_eq_some_iff.1 hc
    obtain ⟨before, after, rfl, -⟩ := getLast?_datatype_iff.1 hd
    exact ⟨d, by simp, hcollation⟩

/-- A direction, and then a datatype with a collation. -/
theorem sort_reads_titles :
    let string : Datatype := ⟨"xs:string", some "http://marklogic.com/collation/"⟩
    let rest := [.text "descending", .datatype string]
    ∃ key, sort (.text "title" :: rest) = .ok key ∧ key.direction = some .descending ∧
      key.datatype = some string.name ∧ key.collation = string.collation ∧
      sort (.text "title" :: (rest ++ [.bool true])) = refuse "sort" (.bool true) := by
  intro string rest
  let head : SortKey := { index := IndexFields.of (property "title") }
  obtain ⟨hkey, -, hreads⟩ := sort_reads (.text "title" :: rest)
  obtain ⟨-, hrefuses, -⟩ := sort_reads (.text "title" :: (rest ++ [.bool true]))
  have htakes : ∀ a ∈ rest, head.takes a := by decide
  have hok := (hkey (head.said rest)).2 ⟨_, rest, head, rfl, rfl, htakes, rfl⟩
  obtain ⟨hdirection, hdatatype, -⟩ := hreads _ rest _ rfl hok
  obtain ⟨hname, hcollation⟩ := hdatatype (by decide)
  exact ⟨_, hok, hdirection (by decide), hname, hcollation,
    hrefuses _ rest _ [] head rfl rfl htakes (by decide)⟩

/-- A second direction is not refused but takes the place of the first, and so does a second
datatype, beside the collation of the first. -/
theorem not_claimed_once_sort :
    let string : Datatype := ⟨"xs:string", some "http://marklogic.com/collation/"⟩
    ∃ prices titles, sort [.text "price", .text "ascending", .text "descending"] = .ok prices ∧
      prices.direction = some .descending ∧
      sort [.text "title", .datatype string, .text "xs:int"] = .ok titles ∧
      titles.datatype = some "xs:int" ∧ titles.collation = string.collation ∧
      (Argument.text "xs:int").sortDatatype? = some ⟨"xs:int", none⟩ := by
  intro string
  exact ⟨_, _, rfl, rfl, rfl, rfl, rfl, rfl⟩

end Build

end SearchRequest
