import SearchRequest.Proofs.Json.Floats
import SearchRequest.Proofs.Json.Strings

/-!
# Trees in JSON text

* `Json.Faithful` — every number of a tree is of a kind that texts are read as.
* `Json.floats` — the floating-point numbers of a tree, which a reader may read back or not.
* `Json.draftWithin` — what a text holds when no more than so many arrays and objects may be nested
  in one another; `Json.draftWithin_of_depth_le`: nothing is lost of a tree that is not deeper.
* `Reading.ofText_compact` — the text of a faithful tree of which the floating-point numbers are
  read back holds the tree, cut at the nesting limit.
* `Json.Numeral.ofText_chars` — a text that has only blanks beside a numeral holds the literal that
  is meant.
-/

namespace SearchRequest

namespace Json

/-! ## Faithful trees -/

mutual
/-- Every number of a tree is of a kind that texts are read as. -/
def Faithful : Json → Prop
  | .number n => n.Faithful
  | .array items => FaithfulItems items
  | .object entries => FaithfulEntries entries
  | _ => True
/-- Every item is faithful. -/
def FaithfulItems : List Json → Prop
  | [] => True
  | j :: rest => Faithful j ∧ FaithfulItems rest
/-- Every entry is faithful. -/
def FaithfulEntries : List (String × Json) → Prop
  | [] => True
  | (_, j) :: rest => Faithful j ∧ FaithfulEntries rest
end

theorem faithfulItems_iff {items : List Json} :
    FaithfulItems items ↔ ∀ j ∈ items, Faithful j := by
  induction items with
  | nil => simp [FaithfulItems]
  | cons j rest ih => simp [FaithfulItems, ih]

theorem faithfulEntries_iff {entries : List (String × Json)} :
    FaithfulEntries entries ↔ ∀ e ∈ entries, Faithful e.2 := by
  induction entries with
  | nil => simp [FaithfulEntries]
  | cons e rest ih => simp [FaithfulEntries, ih]

/-! ## Floating-point numbers -/

mutual
/-- The floating-point numbers of a tree. -/
def floats : Json → List Binary64
  | .number (.float x) => [x]
  | .array items => floatsOfItems items
  | .object entries => floatsOfEntries entries
  | _ => []
/-- The floating-point numbers of the items. -/
def floatsOfItems : List Json → List Binary64
  | [] => []
  | j :: rest => floats j ++ floatsOfItems rest
/-- The floating-point numbers of the entries. -/
def floatsOfEntries : List (String × Json) → List Binary64
  | [] => []
  | (_, j) :: rest => floats j ++ floatsOfEntries rest
end

theorem floatsOfEntries_append (es fs : List (String × Json)) :
    floatsOfEntries (es ++ fs) = floatsOfEntries es ++ floatsOfEntries fs := by
  induction es with
  | nil => rfl
  | cons e rest ih => rw [List.cons_append, floatsOfEntries, ih, floatsOfEntries, List.append_assoc]

theorem mem_floatsOfEntries {entries : List (String × Json)} {x : Binary64} :
    x ∈ floatsOfEntries entries ↔ ∃ e ∈ entries, x ∈ floats e.2 := by
  induction entries with
  | nil => simp [floatsOfEntries]
  | cons e rest ih => simp [floatsOfEntries, ih]

mutual
/-- The floating-point numbers of a faithful tree are finite. -/
theorem Faithful.isFinite_of_mem : ∀ {j : Json}, j.Faithful → ∀ x ∈ j.floats, x.isFinite = true
  | .number (.float _), h => List.forall_mem_singleton.2 h.1
  | .number (.signed _), _ => nofun
  | .number (.unsigned _), _ => nofun
  | .array _, h => FaithfulItems.isFinite_of_mem h
  | .object _, h => FaithfulEntries.isFinite_of_mem h
  | .null, _ => nofun
  | .bool _, _ => nofun
  | .string _, _ => nofun
theorem FaithfulItems.isFinite_of_mem : ∀ {items : List Json}, FaithfulItems items →
    ∀ x ∈ floatsOfItems items, x.isFinite = true
  | [], _ => nofun
  | _ :: _, h => List.forall_mem_append.2 ⟨h.1.isFinite_of_mem, FaithfulItems.isFinite_of_mem h.2⟩
theorem FaithfulEntries.isFinite_of_mem : ∀ {entries : List (String × Json)},
    FaithfulEntries entries → ∀ x ∈ floatsOfEntries entries, x.isFinite = true
  | [], _ => nofun
  | (_, _) :: _, h =>
    List.forall_mem_append.2 ⟨h.1.isFinite_of_mem, FaithfulEntries.isFinite_of_mem h.2⟩
end

/-- The exact reader reads all numbers of a faithful tree back. -/
theorem Faithful.restoresAll_exact {j : Json} (h : j.Faithful) :
    FloatReader.exact.RestoresAll j.floats :=
  fun x hx => FloatReader.restores_exact (h.isFinite_of_mem x hx)

/-! ## Trees cut at a depth -/

/-- What stands for an array or object that is nested too deeply. -/
def tooDeep : Draft := .flawed ⟨.malformed, none, .malformed⟩

mutual
/-- What a text holds when no more than `room` arrays and objects may be nested in one another. -/
def draftWithin : Nat → Json → Draft
  | _, .null => .null
  | _, .bool b => .bool b
  | _, .number n => .number n
  | _, .string s => .string s
  | 0, .array _ => tooDeep
  | room + 1, .array items => .array (draftItemsWithin room items) .closed
  | 0, .object _ => tooDeep
  | room + 1, .object entries => .object (draftEntriesWithin room entries) .closed
/-- The items of an array, each cut at a depth. -/
def draftItemsWithin : Nat → List Json → List Draft
  | _, [] => []
  | room, j :: rest => draftWithin room j :: draftItemsWithin room rest
/-- The entries of an object, each cut at a depth. -/
def draftEntriesWithin : Nat → List (String × Json) → List (Draft × Draft)
  | _, [] => []
  | room, (k, j) :: rest => (.string k, draftWithin room j) :: draftEntriesWithin room rest
end

mutual
/-- Nothing is lost of a tree that is not too deep. -/
theorem draftWithin_of_depth_le : ∀ {room : Nat} {j : Json}, j.depth ≤ room →
    j.draftWithin room = j.draft
  | _, .null, _ => rfl
  | _, .bool _, _ => rfl
  | _, .number _, _ => rfl
  | _, .string _, _ => rfl
  | 0, .array items, h => by simp [depth] at h
  | room + 1, .array items, h => by
    rw [draftWithin, draft, draftItemsWithin_of_depth_le (by simpa [depth] using h)]
  | 0, .object entries, h => by simp [depth] at h
  | room + 1, .object entries, h => by
    rw [draftWithin, draft, draftEntriesWithin_of_depth_le (by simpa [depth] using h)]
theorem draftItemsWithin_of_depth_le : ∀ {room : Nat} {items : List Json},
    depthOfItems items ≤ room → draftItemsWithin room items = draftItems items
  | _, [], _ => rfl
  | _, j :: rest, h => by
    obtain ⟨hj, hrest⟩ := max_le_iff.1 h
    rw [draftItemsWithin, draftItems, draftWithin_of_depth_le hj,
      draftItemsWithin_of_depth_le hrest]
theorem draftEntriesWithin_of_depth_le : ∀ {room : Nat} {entries : List (String × Json)},
    depthOfEntries entries ≤ room → draftEntriesWithin room entries = draftEntries entries
  | _, [], _ => rfl
  | _, (k, j) :: rest, h => by
    obtain ⟨hj, hrest⟩ := max_le_iff.1 h
    rw [draftEntriesWithin, draftEntries, draftWithin_of_depth_le hj,
      draftEntriesWithin_of_depth_le hrest]
end

mutual
/-- A part that is nested too deeply can still be skipped. -/
theorem skipFault_draftWithin : ∀ (room : Nat) (j : Json), (j.draftWithin room).skipFault = none
  | _, .null => rfl
  | _, .bool _ => rfl
  | _, .number _ => rfl
  | _, .string _ => rfl
  | 0, .array _ => rfl
  | room + 1, .array items => skipItems_draftItemsWithin room items
  | 0, .object _ => rfl
  | room + 1, .object entries => skipEntries_draftEntriesWithin room entries
theorem skipItems_draftItemsWithin : ∀ (room : Nat) (items : List Json),
    Draft.skipItems (draftItemsWithin room items) .closed = none
  | _, [] => rfl
  | room, j :: rest => by
    rw [draftItemsWithin, Draft.skipItems, skipFault_draftWithin room j,
      skipItems_draftItemsWithin room rest]
    rfl
theorem skipEntries_draftEntriesWithin : ∀ (room : Nat) (entries : List (String × Json)),
    Draft.skipEntries (draftEntriesWithin room entries) .closed = none
  | _, [] => rfl
  | room, (k, j) :: rest => by
    rw [draftEntriesWithin, Draft.skipEntries, skipFault_draftWithin room j,
      skipEntries_draftEntriesWithin room rest]
    rfl
end

end Json

namespace Json.Parser

variable {ρ : FloatReader}

/-! ## Leaves -/

theorem literal_append (value : Draft) (word rest : List Char) :
    literal value word (word ++ rest) = (value, some rest) := by
  induction word with
  | nil => cases rest <;> rfl
  | cons c cs ih => simp [literal, ih]

/-- What can be read on after a leaf starts with none of the characters that have another meaning
before a value. -/
theorem head_of_leaf {cs rest : List Char} {d : Draft} (h : leaf ρ cs = (d, some rest)) :
    ∃ c cs', cs = c :: cs' ∧ isBlank c = false ∧ c ≠ '[' ∧ c ≠ ']' ∧ c ≠ '\x7b' := by
  cases cs with
  | nil => cases h
  | cons c cs' =>
    have hne : ∀ x : Char, leaf ρ (x :: cs') = (malformed, none) → c ≠ x := by
      rintro x hx rfl
      rw [hx] at h
      cases h
    refine ⟨c, cs', rfl, ?_, hne '[' rfl, hne ']' rfl, hne '\x7b' rfl⟩
    simp [isBlank, hne ' ' rfl, hne '\n' rfl, hne '\t' rfl, hne '\r' rfl]

theorem skipBlanks_cons {c : Char} (h : isBlank c = false) (cs : List Char) :
    skipBlanks (c :: cs) = c :: cs := by
  simp [skipBlanks, h]

theorem value_of_leaf {fuel room : Nat} {cs rest : List Char} {d : Draft}
    (h : leaf ρ cs = (d, some rest)) : value ρ (fuel + 1) room cs = (d, some rest) := by
  obtain ⟨c, cs', rfl, hblank, hbracket, -, hbrace⟩ := head_of_leaf h
  rw [value, skipBlanks_cons hblank]
  split
  · next hc => exact absurd (List.cons.inj hc).1 hbracket
  · next hc => exact absurd (List.cons.inj hc).1 hbrace
  · exact h

theorem leaf_boolChars (b : Bool) (rest : List Char) :
    leaf ρ (boolChars b ++ rest) = (.bool b, some rest) := by
  cases b
  · exact literal_append (.bool false) ['a', 'l', 's', 'e'] rest
  · exact literal_append (.bool true) ['r', 'u', 'e'] rest

theorem leaf_null (rest : List Char) : leaf ρ ("null".toList ++ rest) = (.null, some rest) :=
  literal_append .null ['u', 'l', 'l'] rest

theorem leaf_stringChars (s : String) (rest : List Char) :
    leaf ρ (stringChars s ++ rest) = (.string s, some rest) := by
  rw [stringChars, List.cons_append, List.append_assoc]
  exact string_stringChars s rest

/-! ## Arrays and objects -/

theorem value_array {fuel room : Nat} {cs rest : List Char} {items : List Json}
    (h : firstItem ρ fuel (room - 1) cs = (draftItemsWithin (room - 1) items, .closed, some rest)) :
    value ρ (fuel + 1) room ('[' :: cs) = (draftWithin room (.array items), some rest) := by
  rw [value, skipBlanks_cons rfl]
  simp only [h]
  cases room with
  | zero =>
    rw [if_pos rfl, Parser.tooDeep, Draft.skipFault, skipItems_draftItemsWithin]
    rfl
  | succ room => rfl

theorem value_object {fuel room : Nat} {cs rest : List Char} {entries : List (String × Json)}
    (h : firstEntry ρ fuel (room - 1) cs =
      (draftEntriesWithin (room - 1) entries, .closed, some rest)) :
    value ρ (fuel + 1) room ('\x7b' :: cs) = (draftWithin room (.object entries), some rest) := by
  rw [value, skipBlanks_cons rfl]
  simp only [h]
  cases room with
  | zero =>
    rw [if_pos rfl, Parser.tooDeep, Draft.skipFault, skipEntries_draftEntriesWithin]
    rfl
  | succ room => rfl

/-- A value is no closing bracket, so an array that starts with one is not empty. -/
theorem firstItem_of_ne {fuel room : Nat} {c : Char} {cs : List Char} (hblank : isBlank c = false)
    (hc : c ≠ ']') : firstItem ρ (fuel + 1) room (c :: cs) = item ρ fuel room (c :: cs) := by
  rw [firstItem, skipBlanks_cons hblank]
  split
  · next h => cases h
  · next h => exact absurd (List.cons.inj h).1 hc
  · rfl

theorem item_last {fuel room : Nat} {cs rest : List Char} {d : Draft}
    (h : value ρ fuel room cs = (d, some (']' :: rest))) :
    item ρ (fuel + 1) room cs = ([d], .closed, some rest) := by
  simp only [item, h, skipBlanks_cons (c := ']') rfl]

theorem item_comma {fuel room : Nat} {cs rest : List Char} {d : Draft}
    (h : value ρ fuel room cs = (d, some (',' :: rest))) :
    item ρ (fuel + 1) room cs =
      (d :: (item ρ fuel room rest).1, (item ρ fuel room rest).2.1, (item ρ fuel room rest).2.2) := by
  simp only [item, h, skipBlanks_cons (c := ',') rfl]

theorem entry_last {fuel room : Nat} {k : String} {cs rest : List Char} {d : Draft}
    (h : value ρ fuel room cs = (d, some ('\x7d' :: rest))) :
    entry ρ (fuel + 1) room (stringChars k ++ ':' :: cs) =
      ([(.string k, d)], .closed, some rest) := by
  rw [stringChars, List.cons_append, List.append_assoc, entry, skipBlanks_cons rfl]
  simp only [List.cons_append, List.nil_append, string_stringChars,
    skipBlanks_cons (c := ':') rfl, h, skipBlanks_cons (c := '\x7d') rfl]

theorem entry_comma {fuel room : Nat} {k : String} {cs rest : List Char} {d : Draft}
    (h : value ρ fuel room cs = (d, some (',' :: rest))) :
    entry ρ (fuel + 1) room (stringChars k ++ ':' :: cs) =
      ((.string k, d) :: (entry ρ fuel room rest).1, (entry ρ fuel room rest).2.1,
        (entry ρ fuel room rest).2.2) := by
  rw [stringChars, List.cons_append, List.append_assoc, entry, skipBlanks_cons rfl]
  simp only [List.cons_append, List.nil_append, string_stringChars,
    skipBlanks_cons (c := ':') rfl, h, skipBlanks_cons (c := ',') rfl]

theorem firstEntry_stringChars {fuel room : Nat} {k : String} {cs : List Char} :
    firstEntry ρ (fuel + 1) room (stringChars k ++ cs) = entry ρ fuel room (stringChars k ++ cs) := by
  rw [stringChars, List.cons_append, firstEntry, skipBlanks_cons rfl]
  rfl

/-! ## Whole trees -/

/-- The text of a leaf is read as the leaf. -/
theorem leaf_compactChars {j : Json} (h : j.Faithful) (hfloats : ρ.RestoresAll j.floats)
    (hleaf : j.depth = 0) {rest : List Char} (hr : Delimited rest) (room : Nat) :
    leaf ρ (compactChars j ++ rest) = (draftWithin room j, some rest) := by
  cases j with
  | null => exact (leaf_null rest).trans (by cases room <;> rfl)
  | bool b => exact (leaf_boolChars b rest).trans (by cases room <;> rfl)
  | number n =>
    have hread : leaf ρ (numberChars n ++ rest) = (.number n, some rest) := by
      refine leaf_numberChars h ?_ hr.endsNumber
      rintro x rfl
      exact hfloats x (List.mem_singleton_self x)
    exact hread.trans (by cases room <;> rfl)
  | string s => exact (leaf_stringChars s rest).trans (by cases room <;> rfl)
  | array items => simp [depth] at hleaf
  | object entries => simp [depth] at hleaf

/-- The text of a faithful tree starts with a character that starts a value. -/
theorem head_compactChars {j : Json} (h : j.Faithful) :
    ∃ c cs, compactChars j = c :: cs ∧ isBlank c = false ∧ c ≠ ']' := by
  by_cases hleaf : j.depth = 0
  · -- Any reader tells where a value starts, so the exact one, which reads every number, does.
    have hread := @leaf_compactChars .exact j h h.restoresAll_exact hleaf [] (by simp [Delimited]) 0
    rw [List.append_nil] at hread
    obtain ⟨c, cs, hcs, hblank, -, hc, -⟩ := head_of_leaf hread
    exact ⟨c, cs, hcs, hblank, hc⟩
  · cases j with
    | array items => cases items <;> exact ⟨'[', _, rfl, rfl, by decide⟩
    | object entries => cases entries <;> exact ⟨'\x7b', _, rfl, rfl, by decide⟩
    | _ => exact absurd rfl hleaf

theorem length_compactChars_pos {j : Json} (h : j.Faithful) : 0 < (compactChars j).length := by
  obtain ⟨c, cs, hcs, -, -⟩ := head_compactChars h
  simp [hcs]

mutual
/-- The text of a faithful tree is read as the tree, cut at a depth.  Each of the three readers
that a nested part passes through takes one unit of fuel, and each character of the text pays for
three. -/
theorem value_compactChars : ∀ (j : Json) (fuel room : Nat) (rest : List Char), j.Faithful →
    ρ.RestoresAll j.floats → Delimited rest → 3 * (compactChars j).length ≤ fuel →
      value ρ fuel room (compactChars j ++ rest) = (draftWithin room j, some rest)
  | .array [], fuel, room, rest, _, _, _, hfuel => by
    obtain ⟨f, rfl⟩ : ∃ f, fuel = f + 2 := ⟨fuel - 2, by simp [compactChars] at hfuel; omega⟩
    exact @value_array ρ _ room _ rest [] rfl
  | .array (j :: items), fuel, room, rest, h, hfloats, _, hfuel => by
    simp only [compactChars, List.length_cons, List.length_append] at hfuel
    have hpos : 0 < fuel := by omega
    obtain ⟨c, cs, hcs, hblank, hc⟩ := head_compactChars h.1
    have hitem := item_compactItems j items (fuel - 2) (room - 1) rest h hfloats (by simp; omega)
    obtain ⟨f, rfl⟩ : ∃ f, fuel = f + 2 := ⟨fuel - 2, by omega⟩
    rw [hcs, List.cons_append] at hitem
    rw [compactChars, List.cons_append, List.append_assoc, hcs, List.cons_append]
    exact value_array ((firstItem_of_ne hblank hc).trans hitem)
  | .object [], fuel, room, rest, _, _, _, hfuel => by
    obtain ⟨f, rfl⟩ : ∃ f, fuel = f + 2 := ⟨fuel - 2, by simp [compactChars] at hfuel; omega⟩
    exact @value_object ρ _ room _ rest [] rfl
  | .object ((k, j) :: entries), fuel, room, rest, h, hfloats, _, hfuel => by
    simp only [compactChars, List.length_cons, List.length_append] at hfuel
    have hpos : 0 < fuel := by omega
    have hentry := entry_compactEntries k j entries (fuel - 2) (room - 1) rest h hfloats
      (by simp; omega)
    obtain ⟨f, rfl⟩ : ∃ f, fuel = f + 2 := ⟨fuel - 2, by omega⟩
    rw [compactChars, List.cons_append, List.append_assoc, List.cons_append, List.append_assoc]
    exact value_object (firstEntry_stringChars.trans hentry)
  | .null, fuel, room, rest, h, hfloats, hr, hfuel => by
    obtain ⟨f, rfl⟩ : ∃ f, fuel = f + 1 := ⟨fuel - 1, by simp [compactChars] at hfuel; omega⟩
    exact value_of_leaf (leaf_compactChars h hfloats rfl hr room)
  | .bool b, fuel, room, rest, h, hfloats, hr, hfuel => by
    have hpos := length_compactChars_pos h
    obtain ⟨f, rfl⟩ : ∃ f, fuel = f + 1 := ⟨fuel - 1, by omega⟩
    exact value_of_leaf (leaf_compactChars h hfloats rfl hr room)
  | .number n, fuel, room, rest, h, hfloats, hr, hfuel => by
    have hpos := length_compactChars_pos h
    obtain ⟨f, rfl⟩ : ∃ f, fuel = f + 1 := ⟨fuel - 1, by omega⟩
    exact value_of_leaf (leaf_compactChars h hfloats rfl hr room)
  | .string s, fuel, room, rest, h, hfloats, hr, hfuel => by
    have hpos := length_compactChars_pos h
    obtain ⟨f, rfl⟩ : ∃ f, fuel = f + 1 := ⟨fuel - 1, by omega⟩
    exact value_of_leaf (leaf_compactChars h hfloats rfl hr room)
termination_by _ fuel => fuel
theorem item_compactItems : ∀ (j : Json) (items : List Json) (fuel room : Nat) (rest : List Char),
    FaithfulItems (j :: items) → ρ.RestoresAll (floatsOfItems (j :: items)) →
      3 * (compactChars j ++ compactItems items).length ≤ fuel + 1 →
        item ρ fuel room (compactChars j ++ (compactItems items ++ rest)) =
          (draftItemsWithin room (j :: items), .closed, some rest)
  | j, [], fuel, room, rest, h, hfloats, hfuel => by
    simp only [compactItems, List.length_append, List.length_singleton] at hfuel
    have hchars := length_compactChars_pos h.1
    have hpos : 0 < fuel := by omega
    have hj := value_compactChars j (fuel - 1) room (']' :: rest) h.1
      (List.forall_mem_append.1 hfloats).1 (by simp [Delimited]) (by omega)
    obtain ⟨f, rfl⟩ : ∃ f, fuel = f + 1 := ⟨fuel - 1, by omega⟩
    exact item_last hj
  | j, i :: items, fuel, room, rest, h, hfloats, hfuel => by
    simp only [compactItems, List.length_append, List.length_cons] at hfuel
    have hpos : 0 < fuel := by omega
    obtain ⟨hone, hmore⟩ := List.forall_mem_append.1 hfloats
    have hj := value_compactChars j (fuel - 1) room
      (',' :: (compactChars i ++ (compactItems items ++ rest))) h.1 hone (by simp [Delimited])
      (by omega)
    have hitems := item_compactItems i items (fuel - 1) room rest h.2 hmore (by simp; omega)
    obtain ⟨f, rfl⟩ : ∃ f, fuel = f + 1 := ⟨fuel - 1, by omega⟩
    rw [Nat.add_sub_cancel] at hj hitems
    rw [compactItems, List.cons_append, List.append_assoc, item_comma hj, hitems]
    rfl
termination_by _ _ fuel => fuel
theorem entry_compactEntries : ∀ (k : String) (j : Json) (entries : List (String × Json))
    (fuel room : Nat) (rest : List Char), FaithfulEntries ((k, j) :: entries) →
      ρ.RestoresAll (floatsOfEntries ((k, j) :: entries)) →
      3 * (stringChars k ++ ':' :: (compactChars j ++ compactEntries entries)).length ≤ fuel + 1 →
        entry ρ fuel room
            (stringChars k ++ ':' :: (compactChars j ++ (compactEntries entries ++ rest))) =
          (draftEntriesWithin room ((k, j) :: entries), .closed, some rest)
  | k, j, [], fuel, room, rest, h, hfloats, hfuel => by
    simp only [compactEntries, List.length_append, List.length_cons] at hfuel
    have hpos : 0 < fuel := by omega
    have hj := value_compactChars j (fuel - 1) room ('\x7d' :: rest) h.1
      (List.forall_mem_append.1 hfloats).1 (by simp [Delimited]) (by omega)
    obtain ⟨f, rfl⟩ : ∃ f, fuel = f + 1 := ⟨fuel - 1, by omega⟩
    exact entry_last hj
  | k, j, (l, i) :: entries, fuel, room, rest, h, hfloats, hfuel => by
    simp only [compactEntries, List.length_append, List.length_cons] at hfuel
    have hpos : 0 < fuel := by omega
    obtain ⟨hone, hmore⟩ := List.forall_mem_append.1 hfloats
    have hj := value_compactChars j (fuel - 1) room
      (',' :: (stringChars l ++ ':' :: (compactChars i ++ (compactEntries entries ++ rest)))) h.1
      hone (by simp [Delimited]) (by omega)
    have hentries := entry_compactEntries l i entries (fuel - 1) room rest h.2 hmore
      (by simp; omega)
    obtain ⟨f, rfl⟩ : ∃ f, fuel = f + 1 := ⟨fuel - 1, by omega⟩
    rw [Nat.add_sub_cancel] at hj hentries
    rw [compactEntries, List.cons_append, List.append_assoc, List.cons_append, List.append_assoc,
      entry_comma hj, hentries]
    rfl
termination_by _ _ _ fuel => fuel
end

end Json.Parser

/-- The text of a faithful tree, of which the floating-point numbers are read back, holds the tree,
cut at the nesting limit, and nothing more. -/
theorem Reading.ofText_compact {ρ : FloatReader} {j : Json} (h : j.Faithful)
    (hfloats : ρ.RestoresAll j.floats) :
    Reading.ofText ρ j.compact = ⟨j.draftWithin Json.Parser.nestingLimit, false⟩ := by
  have hread := Json.Parser.value_compactChars j (3 * (Json.compactChars j).length + 3)
    Json.Parser.nestingLimit [] h hfloats (by simp [Json.Parser.Delimited]) (by omega)
  rw [List.append_nil] at hread
  simp only [Reading.ofText, Json.compact, String.toList_ofList, hread]
  rfl

/-! ## Texts of one leaf -/

namespace Json.Parser

variable {ρ : FloatReader} {before after cs : List Char} {d : Draft}

/-- Characters are blanks. -/
def Blank (cs : List Char) : Prop := ∀ c ∈ cs, isBlank c = true

theorem blank_nil : Blank [] := List.forall_mem_nil _

theorem Blank.skipBlanks (h : Blank cs) : Parser.skipBlanks cs = [] :=
  List.dropWhile_eq_nil_iff.2 h

theorem Blank.endsNumber (h : Blank cs) : EndsNumber cs := by
  intro c hc
  have hblank := h c (List.mem_of_mem_head? hc)
  simp only [isBlank, Bool.or_eq_true, decide_eq_true_eq] at hblank
  rcases hblank with ((rfl | rfl) | rfl) | rfl <;> decide

/-- A text that has only blanks beside a leaf holds the leaf. -/
theorem ofText_of_leaf (hbefore : Blank before) (hafter : Blank after)
    (h : leaf ρ (cs ++ after) = (d, some after)) :
    Reading.ofText ρ (String.ofList (before ++ (cs ++ after))) = ⟨d, false⟩ := by
  have hvalue : ∀ fuel room, value ρ (fuel + 1) room (before ++ (cs ++ after)) = (d, some after) := by
    intro fuel room
    have hskip : Parser.skipBlanks (before ++ (cs ++ after)) = Parser.skipBlanks (cs ++ after) :=
      List.dropWhile_append_of_pos hbefore
    rw [value, hskip, ← value]
    exact value_of_leaf h
  simp only [Reading.ofText, String.toList_ofList, hvalue, hafter.skipBlanks]
  rfl

end Json.Parser

/-- A text that has only blanks beside a numeral holds the literal that is meant. -/
theorem Json.Numeral.ofText_chars {ρ : FloatReader} (m : Numeral) {before after : List Char}
    (hbefore : Parser.Blank before) (hafter : Parser.Blank after) :
    Reading.ofText ρ (String.ofList (before ++ (m.chars ++ after))) = ⟨m.draft ρ, false⟩ :=
  Parser.ofText_of_leaf hbefore hafter (m.leaf_chars hafter.endsNumber)

end SearchRequest
