import Mathlib.Data.List.Forall2
import SearchRequest.Build.Error

/-!
# Scans that file arguments in slots

A building function goes through its arguments once and files each of them in a slot.  Which slot
that is depends on the kind of the argument, not on its place.

* `Slot`, `Sheet` — the slots, and what is filed in them.
* `Takes` — a slot and the accessor of the arguments that it is for.
* `Scan` — a scan, with the slot of each kind of argument and what a sheet adds up to.
* `Scan.Lawful` — an argument with a slot is filed where there is room, one without a slot is
  refused.
* `Scan.Guarded`, `Scan.Strict` — an argument for which there is no room is refused as well.
* `Scan.Lawful.foldlM_cases`, `Scan.Guarded.foldlM_cases` — what a scan of a whole list adds up to.
* `Rearranged` — a list in another order, in which no slot can tell the difference.
* `Build.Alike`, `Scan.Lawful.alike`, `Scan.Strict.alike` — results that may differ in what is
  refused only, as those of rearranged lists do.
* `BuildError.Misfit`, `Build.Settles` — what is wrong when arguments do not fit, and results that
  lack only for that.
* `Build.unlessMisfit`, `foldlM_of_fits` — what a scan that has room for every argument that fits
  adds up to.
* `FirstMisfit`, `Build.Sifts`, `Build.Sifts.foldlM_cases` — what a scan adds up to where it depends
  on the arguments before whether one fits.
-/

namespace SearchRequest

/-- The slots in which arguments are filed. -/
inductive Slot where
  /-- Whether order matters, or what is below a directory matches. -/
  | mark
  /-- The weight. -/
  | weight
  /-- The distance. -/
  | distance
  /-- Documents or properties. -/
  | scope
  /-- Options. -/
  | options
  /-- The name that is bound. -/
  | name
  /-- Whether the index is to be the default of a search text. -/
  | default
  /-- The criteria inside a container. -/
  | criteria
  /-- The region. -/
  | region
  /-- The grid for counting places. -/
  | heatmap
  /-- The time. -/
  | time
  /-- The datatype. -/
  | datatype
  /-- The functions that compute a facet. -/
  | functions
  /-- The part at the start of names that is left out. -/
  | start
  /-- The search text. -/
  | searchText
  /-- Queries. -/
  | queries
  /-- Literals to be found. -/
  | texts
  /-- Addresses. -/
  | addresses
  /-- Buckets with fixed bounds. -/
  | buckets
  /-- Buckets with computed bounds. -/
  | computed
  deriving DecidableEq, Repr

/-- Whether a slot has room for one argument only. -/
def Slot.once : Slot → Bool
  | .queries => false
  | .texts => false
  | .addresses => false
  | .buckets => false
  | .computed => false
  | _ => true

/-- What is filed in each slot, in order. -/
abbrev Sheet := Slot → List Argument

/-- The sheet with one more argument in a slot. -/
def Sheet.file (f : Sheet) (k : Slot) (a : Argument) : Sheet :=
  fun k' => if k' = k then f k' ++ [a] else f k'

/-- The sheet of a list of arguments. -/
def sheetOf (slot : Argument → Option Slot) (args : List Argument) : Sheet :=
  fun k => args.filter fun a => slot a = some k

section Sheets

variable {f : Sheet} {k k' : Slot} {a : Argument} {slot : Argument → Option Slot}
  {args args' : List Argument}

@[simp] theorem Sheet.file_same : f.file k a k = f k ++ [a] := if_pos rfl

@[simp] theorem Sheet.file_of_ne (h : k' ≠ k) : f.file k a k' = f k' := if_neg h

theorem sheetOf_append :
    sheetOf slot (args ++ args') k = sheetOf slot args k ++ sheetOf slot args' k :=
  List.filter_append ..

theorem sheetOf_snoc (h : slot a = some k) :
    sheetOf slot (args ++ [a]) = (sheetOf slot args).file k a := by
  funext k'
  by_cases hk : k' = k
  · subst hk
    simp [sheetOf, h]
  · simp [sheetOf, h, hk, Ne.symm hk]

/-- What the arguments in one slot contribute is all, if those in other slots contribute nothing. -/
theorem flatMap_sheetOf {B : Type} {g : Argument → List B}
    (h : ∀ a k', slot a = some k' → k' ≠ k → g a = [])
    (hslots : ∀ a ∈ args, ∃ k, slot a = some k) :
    (sheetOf slot args k).flatMap g = args.flatMap g := by
  induction args with
  | nil => rfl
  | cons a rest ih =>
    obtain ⟨⟨k', hk'⟩, hrest⟩ := List.forall_mem_cons.1 hslots
    rw [sheetOf] at ih ⊢
    by_cases hk : k' = k
    · subst hk
      rw [List.filter_cons_of_pos (by simpa using hk'), List.flatMap_cons, List.flatMap_cons,
        ih hrest]
    · rw [List.filter_cons_of_neg (by simpa [hk'] using hk), List.flatMap_cons, h a k' hk' hk,
        List.nil_append, ih hrest]

/-- What the first argument in one slot contributes is what the first of all does, if those in other
slots contribute nothing. -/
theorem findSome?_sheetOf {B : Type} {g g' : Argument → Option B}
    (hslot : ∀ a, slot a = some k → g a = g' a) (hother : ∀ a, slot a ≠ some k → g' a = none)
    (args : List Argument) : (sheetOf slot args k).findSome? g = args.findSome? g' := by
  induction args with
  | nil => rfl
  | cons a rest ih =>
    rw [sheetOf] at ih ⊢
    by_cases ha : slot a = some k
    · rw [List.filter_cons_of_pos (by simpa using ha), List.findSome?_cons, List.findSome?_cons,
        hslot a ha, ih]
    · rw [List.filter_cons_of_neg (by simpa using ha), List.findSome?_cons, hother a ha, ih]

/-- A slot is for the arguments from which an accessor reads something, and for no others. -/
def Takes (slot : Argument → Option Slot) (k : Slot) {B : Type} (g : Argument → Option B) : Prop :=
  ∀ a, slot a = some k ↔ (g a).isSome

section Takes

variable {B : Type} {g : Argument → Option B}

/-- Which arguments a slot is for is decided kind by kind. -/
theorem takes_of_decide (h : ∀ a, decide (slot a = some k) = (g a).isSome) : Takes slot k g :=
  fun a => by rw [← h a, decide_eq_true_iff]

theorem Takes.eq_none (h : Takes slot k g) (ha : slot a ≠ some k) : g a = none :=
  Option.not_isSome_iff_eq_none.1 (mt (h a).2 ha)

/-- What a slot holds is first of its kind. -/
theorem Takes.findSome?_sheetOf (h : Takes slot k g) (args : List Argument) :
    (sheetOf slot args k).findSome? g = args.findSome? g :=
  SearchRequest.findSome?_sheetOf (fun _ _ => rfl) (fun _ => h.eq_none) args

/-- What reads more kinds than one finds in a slot what the accessor of the slot does. -/
theorem Takes.findSome?_sheetOf_of_agree {g' : Argument → Option B} (h : Takes slot k g)
    (hagree : ∀ a, (g a).isSome → g' a = g a) (args : List Argument) :
    (sheetOf slot args k).findSome? g' = args.findSome? g :=
  SearchRequest.findSome?_sheetOf (fun a ha => hagree a ((h a).1 ha)) (fun _ => h.eq_none) args

/-- What a slot holds is all of its kind. -/
theorem Takes.filterMap_sheetOf (h : Takes slot k g) (args : List Argument) :
    (sheetOf slot args k).filterMap g = args.filterMap g := by
  induction args with
  | nil => rfl
  | cons a rest ih =>
    rw [sheetOf] at ih ⊢
    by_cases ha : slot a = some k
    · rw [List.filter_cons_of_pos (by simpa using ha), List.filterMap_cons, List.filterMap_cons, ih]
    · rw [List.filter_cons_of_neg (by simpa using ha), List.filterMap_cons_none (h.eq_none ha), ih]

/-- A slot holds as many arguments as there are of its kind. -/
theorem Takes.length_sheetOf (h : Takes slot k g) (args : List Argument) :
    (sheetOf slot args k).length = (args.filterMap g).length := by
  rw [← h.filterMap_sheetOf, List.length_filterMap_eq_countP, eq_comm, List.countP_eq_length]
  exact fun a ha => (h a).1 (of_decide_eq_true (List.mem_filter.1 ha).2)

end Takes

end Sheets

/-! ## Scans -/

/-- A scan of arguments. -/
structure Scan (P : Type) where
  /-- The name of the function that scans. -/
  combinator : String
  /-- What no arguments add up to. -/
  start : P
  /-- What one more argument adds. -/
  add : P → Argument → Build P
  /-- The slot of an argument, if it has one. -/
  slot : Argument → Option Slot
  /-- What a sheet adds up to. -/
  read : Sheet → P

namespace Scan

variable {P : Type} (s : Scan P)

/-- Every argument has a slot. -/
def Filed (args : List Argument) : Prop := ∀ a ∈ args, ∃ k, s.slot a = some k

/-- There is room for every argument that has a slot. -/
def Roomy (slot : Argument → Option Slot) (args : List Argument) : Prop :=
  ∀ k, k.once → (sheetOf slot args k).length ≤ 1

/-- The result of an argument that is refused. -/
def Refuses {α : Type} (r : Build α) : Prop := ∃ o, r = .error (.unrecognized s.combinator o)

/-- A scan files an argument with a slot where there is room for it, and refuses one without. -/
structure Lawful : Prop where
  /-- An empty sheet adds up to nothing. -/
  read_blank : s.read (fun _ => []) = s.start
  /-- An argument without a slot is refused. -/
  refuses : ∀ p a, s.slot a = none → s.Refuses (s.add p a)
  /-- An argument with a slot is filed where there is room for it. -/
  files : ∀ f a k, s.slot a = some k → (k.once → f k = []) →
    s.add (s.read f) a = .ok (s.read (f.file k a))

/-- A scan that files an argument only where it has a slot with room for it. -/
structure Guarded : Prop where
  /-- An empty sheet adds up to nothing. -/
  read_blank : s.read (fun _ => []) = s.start
  /-- An argument without a slot is refused. -/
  refuses : ∀ p a, s.slot a = none → s.Refuses (s.add p a)
  /-- An argument for which there is room is filed, if it is not refused for another reason. -/
  mayFile : ∀ f a k, s.slot a = some k → (k.once → f k = []) →
    s.add (s.read f) a = .ok (s.read (f.file k a)) ∨ s.Refuses (s.add (s.read f) a)
  /-- An argument for which there is no room is refused. -/
  full : ∀ f a b k, s.slot a = some k → s.slot b = some k → k.once → f k = [b] →
    s.Refuses (s.add (s.read f) a)

/-- A scan that files an argument exactly where it has a slot with room for it. -/
structure Strict : Prop extends s.Lawful where
  /-- An argument for which there is no room is refused. -/
  full : ∀ f a b k, s.slot a = some k → s.slot b = some k → k.once → f k = [b] →
    s.Refuses (s.add (s.read f) a)

variable {s} {args u : List Argument}

theorem Refuses.bind {α β : Type} {r : Build α} (h : s.Refuses r) (k : α → Build β) :
    s.Refuses (r >>= k) := by
  obtain ⟨o, rfl⟩ := h
  exact ⟨o, rfl⟩

theorem Roomy.of_append {slot : Argument → Option Slot} (h : Roomy slot (u ++ args)) :
    Roomy slot u := by
  intro k hk
  have hlength := h k hk
  rw [sheetOf_append, List.length_append] at hlength
  omega

/-- Where there is room for an argument after others, its slot is still empty. -/
theorem Roomy.eq_nil {slot : Argument → Option Slot} {a : Argument} {k : Slot}
    (h : Roomy slot (u ++ [a])) (hslot : slot a = some k) (hk : k.once) :
    sheetOf slot u k = [] := by
  have hlength := h k hk
  rw [sheetOf_snoc hslot, Sheet.file_same, List.length_append, List.length_singleton] at hlength
  exact List.eq_nil_of_length_eq_zero (by omega)

theorem Roomy.snoc {slot : Argument → Option Slot} {a : Argument} {k : Slot} (h : Roomy slot u)
    (hslot : slot a = some k) (hroom : k.once → sheetOf slot u k = []) : Roomy slot (u ++ [a]) := by
  intro k' hk'
  rw [sheetOf_snoc hslot]
  by_cases hk : k' = k
  · subst hk
    rw [Sheet.file_same, hroom hk']
    exact Nat.le_refl 1
  · rw [Sheet.file_of_ne hk]
    exact h k' hk'

theorem Roomy.of_perm {slot : Argument → Option Slot} (h : Roomy slot u) (hperm : u.Perm args) :
    Roomy slot args := fun k hk => (hperm.filter _).length_eq ▸ h k hk

/-- A slot with room for one argument does not tell in which order they come. -/
theorem Roomy.sheetOf_eq {slot : Argument → Option Slot} {k : Slot} (h : Roomy slot u)
    (hperm : u.Perm args) (hk : k.once) : sheetOf slot u k = sheetOf slot args k := by
  have hfiled : (sheetOf slot u k).Perm (sheetOf slot args k) := hperm.filter _
  have hlength := h k hk
  match hu : sheetOf slot u k, hfiled, hlength with
  | [], hfiled, _ => exact hfiled.nil_eq
  | [a], hfiled, _ => exact hfiled.singleton_eq

theorem filed_cons {a : Argument} :
    s.Filed (a :: args) ↔ (∃ k, s.slot a = some k) ∧ s.Filed args := List.forall_mem_cons

/-- A scan that goes on after some arguments: with room for all that follow it files them all, or
refuses one that has no slot. -/
theorem Lawful.foldlM_from (h : s.Lawful) (hroomy : Roomy s.slot (u ++ args)) :
    s.Filed args ∧
        args.foldlM s.add (s.read (sheetOf s.slot u)) = .ok (s.read (sheetOf s.slot (u ++ args))) ∨
      ¬s.Filed args ∧ s.Refuses (args.foldlM s.add (s.read (sheetOf s.slot u))) := by
  induction args generalizing u with
  | nil =>
    left
    rw [List.append_nil]
    exact ⟨nofun, rfl⟩
  | cons a rest ih =>
    rw [List.foldlM_cons, filed_cons]
    cases hslot : s.slot a with
    | none =>
      right
      exact ⟨fun hfiled => (nomatch hfiled.1), (h.refuses _ a hslot).bind _⟩
    | some k =>
      rw [← List.singleton_append, ← List.append_assoc] at hroomy ⊢
      have hadd := h.files (sheetOf s.slot u) a k hslot fun hk =>
        hroomy.of_append.eq_nil hslot hk
      rw [hadd, ← sheetOf_snoc hslot]
      refine (ih hroomy).imp (fun hok => ⟨⟨⟨k, rfl⟩, hok.1⟩, hok.2⟩) fun hrefused => ?_
      exact ⟨fun hfiled => hrefused.1 hfiled.2, hrefused.2⟩

/-- A scan of arguments for all of which there is room adds up to their sheet, or refuses one that
has no slot. -/
theorem Lawful.foldlM_cases (h : s.Lawful) (hroomy : Roomy s.slot args) :
    s.Filed args ∧ args.foldlM s.add s.start = .ok (s.read (sheetOf s.slot args)) ∨
      ¬s.Filed args ∧ s.Refuses (args.foldlM s.add s.start) := by
  rw [← h.read_blank]
  exact h.foldlM_from (u := []) hroomy

theorem Guarded.foldlM_from (h : s.Guarded) (hroomy : Roomy s.slot u) :
    s.Filed args ∧ Roomy s.slot (u ++ args) ∧
        args.foldlM s.add (s.read (sheetOf s.slot u)) = .ok (s.read (sheetOf s.slot (u ++ args))) ∨
      s.Refuses (args.foldlM s.add (s.read (sheetOf s.slot u))) := by
  induction args generalizing u with
  | nil =>
    left
    rw [List.append_nil]
    exact ⟨nofun, hroomy, rfl⟩
  | cons a rest ih =>
    rw [List.foldlM_cons, filed_cons]
    cases hslot : s.slot a with
    | none =>
      right
      exact (h.refuses _ a hslot).bind _
    | some k =>
      by_cases hroom : k.once → sheetOf s.slot u k = []
      · obtain hadd | hrefused := h.mayFile (sheetOf s.slot u) a k hslot hroom
        · rw [← List.singleton_append, ← List.append_assoc, hadd, ← sheetOf_snoc hslot]
          exact (ih (hroomy.snoc hslot hroom)).imp_left fun hok => ⟨⟨⟨k, rfl⟩, hok.1⟩, hok.2⟩
        · exact .inr (hrefused.bind _)
      · right
        obtain ⟨hk, hne⟩ := Classical.not_imp.1 hroom
        obtain ⟨b, hb⟩ : ∃ b, sheetOf s.slot u k = [b] :=
          List.length_eq_one_iff.1 (Nat.le_antisymm (hroomy k hk) (List.length_pos_iff.2 hne))
        have hslotb : s.slot b = some k := by
          have hmem : b ∈ sheetOf s.slot u k := hb ▸ List.mem_singleton_self b
          exact of_decide_eq_true (List.mem_filter.1 hmem).2
        exact (h.full _ a b k hslot hslotb hk hb).bind _

/-- A guarded scan adds up to the sheet of its arguments, there being a slot and room for each, or
it refuses one of them. -/
theorem Guarded.foldlM_cases (h : s.Guarded) (args : List Argument) :
    s.Filed args ∧ Roomy s.slot args ∧
        args.foldlM s.add s.start = .ok (s.read (sheetOf s.slot args)) ∨
      s.Refuses (args.foldlM s.add s.start) := by
  rw [← h.read_blank]
  exact h.foldlM_from (u := []) fun _ _ => Nat.zero_le 1

theorem Guarded.eq_read (h : s.Guarded) {p : P} (hfold : args.foldlM s.add s.start = .ok p) :
    s.Filed args ∧ Roomy s.slot args ∧ p = s.read (sheetOf s.slot args) := by
  obtain ⟨hfiled, hroomy, hok⟩ | ⟨o, hrefused⟩ := h.foldlM_cases args
  · exact ⟨hfiled, hroomy, Except.ok.inj (hfold.symm.trans hok)⟩
  · rw [hfold] at hrefused
    nomatch hrefused

theorem Strict.guarded (h : s.Strict) : s.Guarded where
  read_blank := h.read_blank
  refuses := h.refuses
  mayFile f a k hslot hroom := .inl (h.files f a k hslot hroom)
  full := h.full

end Scan

/-! ## Arguments in another order -/

/-- A list has the arguments of another one in an order in which no slot can tell the difference:
of those for a slot with room for one there is no more than one, and those for any other slot come
in the same order. -/
structure Rearranged (slot : Argument → Option Slot) (args args' : List Argument) : Prop where
  /-- The arguments are the same. -/
  perm : args.Perm args'
  /-- No more than one argument is for a slot with room for one. -/
  roomy : Scan.Roomy slot args
  /-- The arguments for any other slot come in the same order. -/
  inOrder : ∀ k, ¬k.once → sheetOf slot args k = sheetOf slot args' k

namespace Rearranged

variable {slot : Argument → Option Slot} {args args' : List Argument}

theorem symm (h : Rearranged slot args args') : Rearranged slot args' args where
  perm := h.perm.symm
  roomy := h.roomy.of_perm h.perm
  inOrder k hk := (h.inOrder k hk).symm

theorem sheetOf_eq (h : Rearranged slot args args') : sheetOf slot args = sheetOf slot args' := by
  funext k
  by_cases hk : k.once
  · exact h.roomy.sheetOf_eq h.perm hk
  · exact h.inOrder k hk

end Rearranged

/-- Two results that differ in what is refused, if they differ at all. -/
inductive Build.Alike {α : Type} : Build α → Build α → Prop where
  /-- The same result. -/
  | same (r : Build α) : Alike r r
  /-- Both refuse an argument. -/
  | refused (combinator combinator' : String) (o o' : Offender) :
      Alike (.error (.unrecognized combinator o)) (.error (.unrecognized combinator' o'))

namespace Build.Alike

variable {α β : Type} {r r' : Build α}

theorem bind (h : Alike r r') {k k' : α → Build β} (hk : ∀ a, Alike (k a) (k' a)) :
    Alike (r >>= k) (r' >>= k') := by
  cases h with
  | same r =>
    cases r with
    | error e => exact .same _
    | ok a => exact hk a
  | refused => exact .refused _ _ _ _

theorem of_eq (h : r = r') : Alike r r' := h ▸ .same r

theorem symm (h : Alike r r') : Alike r' r := by
  cases h with
  | same r => exact .same r
  | refused => exact .refused _ _ _ _

theorem trans {r'' : Build α} (h : Alike r r') (h' : Alike r' r'') : Alike r r'' := by
  cases h with
  | same r => exact h'
  | refused =>
    cases h' with
    | same => exact .refused _ _ _ _
    | refused => exact .refused _ _ _ _

/-- Alike results are equal to the same results, but for those that refuse an argument. -/
theorem eq_iff (h : Alike r r') {s : Build α} (hs : ∀ c o, s ≠ .error (.unrecognized c o)) :
    r = s ↔ r' = s := by
  cases h with
  | same r => exact Iff.rfl
  | refused c c' o o' => exact iff_of_false (hs c o).symm (hs c' o').symm

theorem of_refuses {P : Type} {s s' : Scan P} (h : s.Refuses r) (h' : s'.Refuses r') :
    Alike r r' := by
  obtain ⟨o, rfl⟩ := h
  obtain ⟨o', rfl⟩ := h'
  exact .refused _ _ _ _

/-- Scans of two lists have alike results if the scan takes each two arguments alike. -/
theorem foldlM {P : Type} {add : P → Argument → Build P} {same : Argument → Argument → Prop}
    (hadd : ∀ p a a', same a a' → Alike (add p a) (add p a')) {args args' : List Argument}
    (h : List.Forall₂ same args args') (p : P) :
    Alike (args.foldlM add p) (args'.foldlM add p) := by
  induction h generalizing p with
  | nil => exact .same _
  | cons ha _ ih =>
    rw [List.foldlM_cons, List.foldlM_cons]
    exact (hadd p _ _ ha).bind ih

end Build.Alike

namespace Scan

variable {P : Type} {s : Scan P} {args args' : List Argument}

/-- The scans of rearranged lists have alike results. -/
theorem Lawful.alike (h : s.Lawful) (harranged : Rearranged s.slot args args') :
    Build.Alike (args.foldlM s.add s.start) (args'.foldlM s.add s.start) := by
  have hfiled : s.Filed args ↔ s.Filed args' :=
    forall_congr' fun a => imp_congr_left harranged.perm.mem_iff
  obtain ⟨hargs, hok⟩ | ⟨hargs, hrefused⟩ := h.foldlM_cases harranged.roomy
  · obtain ⟨-, hok'⟩ | ⟨hargs', -⟩ := h.foldlM_cases harranged.symm.roomy
    · rw [hok, hok', harranged.sheetOf_eq]
      exact .same _
    · exact absurd (hfiled.1 hargs) hargs'
  · obtain ⟨hargs', -⟩ | ⟨-, hrefused'⟩ := h.foldlM_cases harranged.symm.roomy
    · exact absurd (hfiled.2 hargs') hargs
    · exact .of_refuses hrefused hrefused'

/-- A strict scan does not even need room: without it both lists are refused. -/
theorem Strict.alike (h : s.Strict) (hperm : args.Perm args')
    (hinOrder : ∀ k, ¬k.once → sheetOf s.slot args k = sheetOf s.slot args' k) :
    Build.Alike (args.foldlM s.add s.start) (args'.foldlM s.add s.start) := by
  by_cases hroomy : Roomy s.slot args
  · exact h.toLawful.alike ⟨hperm, hroomy, hinOrder⟩
  · have hroomy' : ¬Roomy s.slot args' := fun hr => hroomy (hr.of_perm hperm.symm)
    obtain ⟨-, hr, -⟩ | hrefused := h.guarded.foldlM_cases args
    · exact absurd hr hroomy
    obtain ⟨-, hr', -⟩ | hrefused' := h.guarded.foldlM_cases args'
    · exact absurd hr' hroomy'
    exact .of_refuses hrefused hrefused'

end Scan

/-! ## Arguments that do not fit -/

/-- There are too few or too many arguments, or one of them has no place. -/
def BuildError.Misfit (e : BuildError) : Prop := e.kind = "Arity" ∨ e.kind = "UnrecognizedArgument"

/-- A result with a property, or none because the arguments do not fit. -/
inductive Build.Settles {α : Type} (p : α → Prop) : Build α → Prop where
  /-- A result with the property. -/
  | ok (a : α) (h : p a) : Settles p (.ok a)
  /-- The arguments do not fit. -/
  | misfit (e : BuildError) (h : e.Misfit) : Settles p (.error e)

namespace Build.Settles

variable {α β : Type} {p : α → Prop} {q : β → Prop} {r : Build α}

theorem arity (combinator explanation : String) :
    Settles p (.error (.arity combinator explanation)) := .misfit _ (.inl rfl)

theorem unrecognized (combinator : String) (o : Offender) :
    Settles p (.error (.unrecognized combinator o)) := .misfit _ (.inr rfl)

theorem bind (h : Settles p r) {k : α → Build β} (hk : ∀ a, p a → Settles q (k a)) :
    Settles q (r >>= k) := by
  cases h with
  | ok a h => exact hk a h
  | misfit e h => exact .misfit e h

theorem map (h : Settles p r) {f : α → β} (hf : ∀ a, p a → q (f a)) : Settles q (r.map f) := by
  cases h with
  | ok a h => exact .ok _ (hf a h)
  | misfit e h => exact .misfit e h

/-- Where all arguments fit there is a result, and it goes on from there. -/
theorem exists_ok (h : Settles p r) {k : α → Build β}
    (hfits : ∀ e, r >>= k = .error e → ¬e.Misfit) : ∃ a, p a ∧ r = .ok a ∧ r >>= k = k a := by
  cases h with
  | ok a h => exact ⟨a, h, rfl, rfl⟩
  | misfit e h => exact absurd h (hfits e rfl)

end Build.Settles

theorem Scan.Guarded.settles {P : Type} {s : Scan P} (h : s.Guarded) (args : List Argument) :
    Build.Settles (fun p => s.Filed args ∧ Roomy s.slot args ∧ p = s.read (sheetOf s.slot args))
      (args.foldlM s.add s.start) := by
  obtain ⟨hfiled, hroomy, hok⟩ | ⟨o, hrefused⟩ := h.foldlM_cases args
  · rw [hok]
    exact .ok _ ⟨hfiled, hroomy, rfl⟩
  · rw [hrefused]
    exact .unrecognized _ _

/-! ## Scans that have room for everything -/

/-- The result where all arguments fit, or else the error of the first one that does not. -/
def Build.unlessMisfit {P : Type} (fits : Argument → Bool) (error : Argument → BuildError)
    (args : List Argument) (p : P) : Build P :=
  match args.find? fun a => !fits a with
  | some a => .error (error a)
  | none => .ok p

section Fitting

variable {P : Type} {fits : Argument → Bool} {error : Argument → BuildError}
  {args us vs : List Argument} {a : Argument} {p q : P}

theorem unlessMisfit_of_fits (h : ∀ a ∈ args, fits a) :
    Build.unlessMisfit fits error args p = .ok p := by
  have hnone : args.find? (fun a => !fits a) = none :=
    List.find?_eq_none.2 fun a ha => by simp [h a ha]
  rw [Build.unlessMisfit, hnone]

theorem unlessMisfit_of_misfit (hus : ∀ b ∈ us, fits b) (ha : ¬fits a) :
    Build.unlessMisfit fits error (us ++ a :: vs) p = .error (error a) := by
  have hnone : us.find? (fun b => !fits b) = none :=
    List.find?_eq_none.2 fun b hb => by simp [hus b hb]
  rw [Build.unlessMisfit, List.find?_append, hnone, List.find?_cons_of_pos (by simpa using ha)]
  rfl

theorem unlessMisfit_eq_ok_iff :
    Build.unlessMisfit fits error args p = .ok q ↔ (∀ a ∈ args, fits a) ∧ p = q := by
  constructor
  · intro h
    unfold Build.unlessMisfit at h
    split at h
    · cases h
    · rename_i hnone
      cases h
      exact ⟨fun a ha => by simpa using List.find?_eq_none.1 hnone a ha, rfl⟩
  · rintro ⟨h, rfl⟩
    exact unlessMisfit_of_fits h

theorem unlessMisfit_insert (us vs : List Argument) (ha : fits a) :
    Build.unlessMisfit fits error (us ++ a :: vs) p =
      Build.unlessMisfit fits error (us ++ vs) p := by
  simp [Build.unlessMisfit, List.find?_append, ha]

/-- A scan that takes each argument that fits, whatever came before, takes all of them or ends at
the first one that does not fit. -/
theorem foldlM_of_fits {add : P → Argument → Build P} {made : List Argument → P}
    (hadd : ∀ before a, add (made before) a =
      if fits a then .ok (made (before ++ [a])) else .error (error a))
    (before rest : List Argument) :
    rest.foldlM add (made before) =
      Build.unlessMisfit fits error rest (made (before ++ rest)) := by
  induction rest generalizing before with
  | nil =>
    rw [List.append_nil]
    rfl
  | cons a rest ih =>
    rw [List.foldlM_cons, hadd, Build.unlessMisfit, List.find?_cons]
    cases fits a with
    | false => rfl
    | true =>
      rw [List.append_cons before a rest]
      exact ih (before ++ [a])

end Fitting

/-! ## Scans whose room depends on what came before -/

/-- An argument is the first that does not fit after those before it. -/
structure FirstMisfit (fits : List Argument → Prop) (args before : List Argument) (a : Argument) :
    Prop where
  /-- The argument comes after those before it, and perhaps there are more. -/
  starts : before ++ [a] <+: args
  /-- Those before it fit. -/
  fitting : fits before
  /-- It does not fit after them. -/
  misfit : ¬fits (before ++ [a])

/-- A scan takes an argument that still fits after those before it, and refuses it otherwise. -/
structure Build.Sifts {P : Type} (fits : List Argument → Prop) (made : List Argument → P)
    (error : List Argument → Argument → BuildError) (add : P → Argument → Build P) : Prop where
  /-- No arguments fit. -/
  fits_nil : fits []
  /-- Of arguments that fit those at the start do. -/
  fits_of_append : ∀ {us vs}, fits (us ++ vs) → fits us
  /-- An argument that fits is taken. -/
  takes : ∀ {us a}, fits (us ++ [a]) → add (made us) a = .ok (made (us ++ [a]))
  /-- An argument that does not fit is refused. -/
  refuses : ∀ {us a}, fits us → ¬fits (us ++ [a]) → add (made us) a = .error (error us a)

namespace Build.Sifts

variable {P : Type} {fits : List Argument → Prop} {made : List Argument → P}
  {error : List Argument → Argument → BuildError} {add : P → Argument → Build P}
  {args before rest : List Argument}

/-- A scan that goes on after arguments that fit. -/
theorem foldlM_from (h : Sifts fits made error add) (hbefore : fits before) :
    fits (before ++ rest) ∧ rest.foldlM add (made before) = .ok (made (before ++ rest)) ∨
      ∃ us a, FirstMisfit fits (before ++ rest) us a ∧
        rest.foldlM add (made before) = .error (error us a) := by
  induction rest generalizing before with
  | nil =>
    left
    rw [List.append_nil]
    exact ⟨hbefore, rfl⟩
  | cons a rest ih =>
    rw [List.foldlM_cons, List.append_cons]
    by_cases ha : fits (before ++ [a])
    · rw [h.takes ha]
      exact ih ha
    · right
      refine ⟨before, a, ⟨List.prefix_append _ _, hbefore, ha⟩, ?_⟩
      rw [h.refuses hbefore ha]
      rfl

/-- Arguments that fit are all taken, or the first one that does not fit is refused. -/
theorem foldlM_cases (h : Sifts fits made error add) (args : List Argument) :
    fits args ∧ args.foldlM add (made []) = .ok (made args) ∨
      ¬fits args ∧ ∃ before a, FirstMisfit fits args before a ∧
        args.foldlM add (made []) = .error (error before a) := by
  refine (h.foldlM_from h.fits_nil).imp id fun hrefused => ⟨fun hfits => ?_, hrefused⟩
  obtain ⟨before, a, ⟨⟨more, hargs⟩, -, hmisfit⟩, -⟩ := hrefused
  exact hmisfit (h.fits_of_append (hargs ▸ hfits))

/-- Arguments that fit, and only those, add up to something. -/
theorem foldlM_eq_ok_iff (h : Sifts fits made error add) (args : List Argument) {p : P} :
    args.foldlM add (made []) = .ok p ↔ fits args ∧ p = made args := by
  obtain ⟨hfits, hok⟩ | ⟨hmisfit, us, a, -, herror⟩ := h.foldlM_cases args
  · rw [hok, Except.ok.injEq, eq_comm, and_iff_right hfits]
  · rw [herror]
    exact iff_of_false nofun fun hfits => hmisfit hfits.1

end Build.Sifts

end SearchRequest
