import SearchRequest.Proofs.Json.Texts

/-!
# How deep a text goes

* `Draft.Within` — a draft nests no more than so many arrays and objects, and has only
  numbers of the kinds that texts are read as.
* `Reading.within_ofText` — what a text holds is within the nesting limit.
* `Draft.within_of_settle` — so is what a part of it settles to.
-/

namespace SearchRequest

namespace Draft

/-! ## Drafts within a depth -/

mutual
/-- No more than so many arrays and objects are nested in one another, and every number is of a
kind that texts are read as. -/
def Within : Nat → Draft → Prop
  | _, .number n => n.Faithful
  | room, .array items _ => 0 < room ∧ WithinItems (room - 1) items
  | room, .object entries _ => 0 < room ∧ WithinEntries (room - 1) entries
  | _, _ => True
/-- Every item is within a depth. -/
def WithinItems : Nat → List Draft → Prop
  | _, [] => True
  | room, d :: rest => Within room d ∧ WithinItems room rest
/-- Every entry is within a depth. -/
def WithinEntries : Nat → List (Draft × Draft) → Prop
  | _, [] => True
  | room, (_, d) :: rest => Within room d ∧ WithinEntries room rest
end

theorem withinItems_iff {room : Nat} {items : List Draft} :
    WithinItems room items ↔ ∀ d ∈ items, Within room d := by
  induction items with
  | nil => simp [WithinItems]
  | cons d rest ih => simp [WithinItems, ih]

theorem withinItems_singleton {room : Nat} {d : Draft} (h : Within room d) :
    WithinItems room [d] := ⟨h, trivial⟩

theorem withinEntries_singleton {room : Nat} {k d : Draft} (h : Within room d) :
    WithinEntries room [(k, d)] := ⟨h, trivial⟩

/-! ## Settled parts -/

mutual
/-- A part settles to a tree within the same depth. -/
theorem within_of_settle : ∀ {room : Nat} {d : Draft} {j : Json}, d.Within room →
    d.settle = .ok j → j.Faithful ∧ j.depth ≤ room
  | room, .null, _, _, h => by
    cases h
    exact ⟨trivial, Nat.zero_le room⟩
  | room, .bool _, _, _, h => by
    cases h
    exact ⟨trivial, Nat.zero_le room⟩
  | room, .number _, _, hd, h => by
    cases h
    exact ⟨hd, Nat.zero_le room⟩
  | room, .string _, _, _, h => by
    cases h
    exact ⟨trivial, Nat.zero_le room⟩
  | room, .array items ending, _, hd, h => by
    obtain ⟨hpos, hitems⟩ := hd
    rw [settle] at h
    cases hjs : settleItems items with
    | error e =>
      rw [hjs] at h
      cases h
    | ok js =>
      obtain ⟨hfaithful, hdepth⟩ := withinItems_of_settleItems hitems hjs
      rw [hjs] at h
      cases ending with
      | broken f => cases h
      | closed =>
        cases h
        exact ⟨hfaithful, show Json.depthOfItems js + 1 ≤ room by omega⟩
  | room, .object entries ending, _, hd, h => by
    obtain ⟨hpos, hentries⟩ := hd
    rw [settle] at h
    cases hjs : settleEntries entries with
    | error e =>
      rw [hjs] at h
      cases h
    | ok js =>
      obtain ⟨hfaithful, hdepth⟩ := withinEntries_of_settleEntries hentries hjs
      rw [hjs] at h
      cases ending with
      | broken f => cases h
      | closed =>
        cases h
        exact ⟨hfaithful, show Json.depthOfEntries js + 1 ≤ room by omega⟩
  | _, .flawed _, _, _, h => by cases h
theorem withinItems_of_settleItems : ∀ {room : Nat} {items : List Draft} {js : List Json},
    WithinItems room items → settleItems items = .ok js →
      Json.FaithfulItems js ∧ Json.depthOfItems js ≤ room
  | room, [], _, _, h => by
    cases h
    exact ⟨trivial, Nat.zero_le room⟩
  | room, d :: rest, _, hd, h => by
    rw [settleItems] at h
    cases hj : settle d with
    | error e =>
      rw [hj] at h
      cases h
    | ok j =>
      cases hjs : settleItems rest with
      | error e =>
        rw [hj, hjs] at h
        cases h
      | ok js =>
        rw [hj, hjs] at h
        cases h
        have hone := within_of_settle hd.1 hj
        have hrest := withinItems_of_settleItems hd.2 hjs
        exact ⟨⟨hone.1, hrest.1⟩, max_le hone.2 hrest.2⟩
theorem withinEntries_of_settleEntries : ∀ {room : Nat} {entries : List (Draft × Draft)}
    {js : List (String × Json)}, WithinEntries room entries → settleEntries entries = .ok js →
      Json.FaithfulEntries js ∧ Json.depthOfEntries js ≤ room
  | room, [], _, _, h => by
    cases h
    exact ⟨trivial, Nat.zero_le room⟩
  | room, (k, d) :: rest, _, hd, h => by
    rw [settleEntries] at h
    cases hk : k.key with
    | error e =>
      rw [hk] at h
      cases h
    | ok name =>
      cases hj : settle d with
      | error e =>
        rw [hk, hj] at h
        cases h
      | ok j =>
        cases hjs : settleEntries rest with
        | error e =>
          rw [hk, hj, hjs] at h
          cases h
        | ok js =>
          rw [hk, hj, hjs] at h
          cases h
          have hone := within_of_settle hd.1 hj
          have hrest := withinEntries_of_settleEntries hd.2 hjs
          exact ⟨⟨hone.1, hrest.1⟩, max_le hone.2 hrest.2⟩
end

mutual
/-- A tree within a depth is a draft within the same depth. -/
theorem within_draft : ∀ {room : Nat} {j : Json}, j.Faithful → j.depth ≤ room →
    j.draft.Within room
  | _, .null, _, _ => trivial
  | _, .bool _, _, _ => trivial
  | _, .number _, h, _ => h
  | _, .string _, _, _ => trivial
  | room, .array items, h, hdepth => by
    rw [Json.depth] at hdepth
    exact ⟨by omega, withinItems_draftItems h (by omega)⟩
  | room, .object entries, h, hdepth => by
    rw [Json.depth] at hdepth
    exact ⟨by omega, withinEntries_draftEntries h (by omega)⟩
theorem withinItems_draftItems : ∀ {room : Nat} {js : List Json}, Json.FaithfulItems js →
    Json.depthOfItems js ≤ room → WithinItems room (Json.draftItems js)
  | _, [], _, _ => trivial
  | _, _ :: _, h, hdepth =>
    ⟨within_draft h.1 (max_le_iff.1 hdepth).1, withinItems_draftItems h.2 (max_le_iff.1 hdepth).2⟩
theorem withinEntries_draftEntries : ∀ {room : Nat} {js : List (String × Json)},
    Json.FaithfulEntries js → Json.depthOfEntries js ≤ room →
      WithinEntries room (Json.draftEntries js)
  | _, [], _, _ => trivial
  | _, (_, _) :: _, h, hdepth =>
    ⟨within_draft h.1 (max_le_iff.1 hdepth).1,
      withinEntries_draftEntries h.2 (max_le_iff.1 hdepth).2⟩
end

end Draft

namespace Json.Parser

/-! ## Leaves -/

variable {ρ : FloatReader} {room : Nat}

theorem within_literal {value : Draft} (h : value.Within room) (word cs : List Char) :
    (literal value word cs).1.Within room := by
  induction word generalizing cs with
  | nil => exact h
  | cons w ws ih =>
    cases cs with
    | nil => exact trivial
    | cons c cs =>
      rw [literal]
      split
      · exact ih cs
      · exact trivial

theorem within_floating (x : Binary64) (rest : List Char) :
    (floating x rest).1.Within room := by
  cases x with
  | finite => exact Number.faithful_float rfl
  | _ => exact trivial

theorem within_fractional (negative : Bool) (whole fraction : List Char) (power : Int)
    (rest : List Char) : (fractional ρ negative whole fraction power rest).1.Within room :=
  within_floating _ rest

/-- An integer literal that is no floating-point number is one of the kind that its text is read
as. -/
theorem faithful_ofInt {n : Int} (h : ∀ x, Number.ofInt n ≠ .float x) :
    (Number.ofInt n).Faithful := by
  rw [Number.ofInt] at h ⊢
  split
  · exact Number.faithful_signed _
  · next hsigned =>
    rw [if_neg hsigned] at h
    split
    · next hunsigned =>
      refine Number.faithful_unsigned ?_
      rw [UInt64.toNat_ofNat', Nat.mod_eq_of_lt (by omega)]
      omega
    · next hunsigned =>
      rw [if_neg hunsigned] at h
      exact absurd rfl (h _)

theorem within_integral (negative : Bool) (digits rest : List Char) :
    (integral ρ negative digits rest).1.Within room := by
  rw [integral]
  split
  · exact Number.faithful_float rfl
  · split
    · split
      · exact within_floating _ rest
      · next hint => exact faithful_ofInt hint
    · exact within_fractional _ _ _ _ _

theorem within_stopped (cs : List Char) : (stopped cs).1.Within room := by
  cases cs <;> exact trivial

theorem within_exponent (negative : Bool) (whole fraction cs : List Char) :
    (exponent ρ negative whole fraction cs).1.Within room := by
  simp only [exponent]
  -- The sign of the exponent decides only which exponent is meant.
  split <;> dsimp only <;> split
  all_goals first | exact within_stopped _ | exact within_fractional _ _ _ _ _

theorem within_afterWhole (negative : Bool) (whole cs : List Char) :
    (afterWhole ρ negative whole cs).1.Within room := by
  rw [afterWhole.eq_def]
  split
  · simp only
    split
    · exact within_stopped _
    · split
      · exact within_exponent _ _ _ _
      · exact within_exponent _ _ _ _
      · exact within_fractional _ _ _ _ _
  · exact within_exponent _ _ _ _
  · exact within_exponent _ _ _ _
  · exact within_integral _ _ _

theorem within_number (negative : Bool) (cs : List Char) :
    (number ρ negative cs).1.Within room := by
  simp only [number]
  split
  · exact within_stopped _
  · exact trivial
  · exact within_afterWhole _ _ _

theorem within_string (cs : List Char) : (string cs).1.Within room := by
  simp only [string]
  split <;> exact trivial

theorem within_leaf (cs : List Char) : (leaf ρ cs).1.Within room := by
  rw [leaf.eq_def]
  split
  · exact trivial
  · exact within_string _
  · exact within_literal (by exact trivial) _ _
  · exact within_literal (by exact trivial) _ _
  · exact within_literal (by exact trivial) _ _
  · exact within_number _ _
  · split
    · exact within_number _ _
    · exact trivial

/-! ## Values -/

mutual
theorem within_value : ∀ (fuel room : Nat) (cs : List Char), (value ρ fuel room cs).1.Within room
  | 0, _, _ => trivial
  | fuel + 1, room, cs => by
    rw [value]
    split
    · next r _ =>
      have hitems := within_firstItem fuel (room - 1) r
      by_cases hroom : room = 0
      · simp only [if_pos hroom]
        exact trivial
      · simp only [if_neg hroom]
        exact ⟨by omega, hitems⟩
    · next r _ =>
      have hentries := within_firstEntry fuel (room - 1) r
      by_cases hroom : room = 0
      · simp only [if_pos hroom]
        exact trivial
      · simp only [if_neg hroom]
        exact ⟨by omega, hentries⟩
    · exact within_leaf _
theorem within_firstItem : ∀ (fuel room : Nat) (cs : List Char),
    Draft.WithinItems room (firstItem ρ fuel room cs).1
  | 0, _, _ => trivial
  | fuel + 1, room, cs => by
    rw [firstItem]
    split
    · exact trivial
    · exact trivial
    · exact within_item fuel room _
theorem within_item : ∀ (fuel room : Nat) (cs : List Char),
    Draft.WithinItems room (item ρ fuel room cs).1
  | 0, _, _ => trivial
  | fuel + 1, room, cs => by
    have hvalue := within_value fuel room cs
    rw [item]
    split
    · next d heq =>
      rw [heq] at hvalue
      exact Draft.withinItems_singleton hvalue
    · next d r heq =>
      rw [heq] at hvalue
      split
      · exact Draft.withinItems_singleton hvalue
      · exact Draft.withinItems_singleton hvalue
      · exact ⟨hvalue, within_item fuel room _⟩
      · exact Draft.withinItems_singleton hvalue
theorem within_firstEntry : ∀ (fuel room : Nat) (cs : List Char),
    Draft.WithinEntries room (firstEntry ρ fuel room cs).1
  | 0, _, _ => trivial
  | fuel + 1, room, cs => by
    rw [firstEntry]
    split
    · exact trivial
    · exact trivial
    · exact within_entry fuel room _
theorem within_entry : ∀ (fuel room : Nat) (cs : List Char),
    Draft.WithinEntries room (entry ρ fuel room cs).1
  | 0, _, _ => trivial
  | fuel + 1, room, cs => by
    rw [entry]
    split
    · exact Draft.withinEntries_singleton trivial
    · split
      · exact Draft.withinEntries_singleton trivial
      · split
        · exact Draft.withinEntries_singleton trivial
        · next r' _ =>
          have hvalue := within_value fuel room r'
          split
          · next d heq =>
            rw [heq] at hvalue
            exact Draft.withinEntries_singleton hvalue
          · next d r'' heq =>
            rw [heq] at hvalue
            split
            · exact Draft.withinEntries_singleton hvalue
            · exact Draft.withinEntries_singleton hvalue
            · exact ⟨hvalue, within_entry fuel room _⟩
            · exact Draft.withinEntries_singleton hvalue
        · exact Draft.withinEntries_singleton trivial
    · exact Draft.withinEntries_singleton trivial
end

end Json.Parser

/-- What a text holds is within the nesting limit. -/
theorem Reading.within_ofText (ρ : FloatReader) (text : String) :
    (Reading.ofText ρ text).root.Within Json.Parser.nestingLimit := by
  have hvalue := Json.Parser.within_value (ρ := ρ) (3 * text.toList.length + 3)
    Json.Parser.nestingLimit text.toList
  rw [Reading.ofText]
  split
  · next d heq =>
    rw [heq] at hvalue
    exact hvalue
  · next d rest heq =>
    rw [heq] at hvalue
    exact hvalue

end SearchRequest
