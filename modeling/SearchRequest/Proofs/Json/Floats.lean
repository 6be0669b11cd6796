import SearchRequest.Json.Printer
import SearchRequest.Proofs.Json.Grammar

/-!
# Floating-point numbers in JSON text

A floating-point number is written as the shortest decimal that is nearest to it.  A reader that
finds the nearest number reads it back.  The quick reader may miss it, but not where the decimal is
brief.

* `Layout.Spells` — digits and an exponent that stand for a number.
* `Layout.Brief` — the shortest decimal has few digits, and the power of ten is not very small.
* `Json.Numeral.StandsFor` — a numeral that is written for a number.
* `FloatReader.Restores` — a reader reads a number back from its text.
* `FloatReader.restores_exact` — the exact reader reads every finite number back.
* `FloatReader.restores_quick` — the quick reader reads a number with a brief decimal back.
* `Json.Parser.leaf_numberChars` — the text of a literal is read as that literal.
-/

namespace SearchRequest

namespace Layout

/-! ## Floating-point numbers -/

/-- The digits and the exponent `t` stand for the number at a place as `0.d₁d₂… * 10 ^ t`. -/
structure Spells (ds : List Char) (t : Int) (k : Fin 9218868437227405312) : Prop where
  /-- They are digits. -/
  isDigit : ∀ c ∈ ds, c.isDigit = true
  /-- There are some. -/
  ne_nil : ds ≠ []
  /-- The first one is not a zero. -/
  head_ne_zero : ds.head? ≠ some '0'
  /-- The decimal is read as the number, of either sign. -/
  ofDecimal : ∀ s, Binary64.ofDecimal s (Decimal.value ds) (t - ds.length) = .finite s k

theorem eq_dropTrailingZeros_append (ds : List Char) :
    ∃ z, ds = dropTrailingZeros ds ++ List.replicate z '0' := by
  refine ⟨(ds.reverse.takeWhile (· == '0')).length, ?_⟩
  have hzeros : ds.reverse.takeWhile (· == '0') =
      List.replicate (ds.reverse.takeWhile (· == '0')).length '0' := by
    refine List.eq_replicate_iff.2 ⟨rfl, fun c hc => ?_⟩
    simpa using List.mem_takeWhile_imp hc
  have hsplit := List.takeWhile_append_dropWhile (p := (· == '0')) (l := ds.reverse)
  calc ds = (ds.reverse.takeWhile (· == '0') ++ ds.reverse.dropWhile (· == '0')).reverse := by
        rw [hsplit, List.reverse_reverse]
    _ = dropTrailingZeros ds ++ (ds.reverse.takeWhile (· == '0')).reverse := by
        rw [List.reverse_append, dropTrailingZeros]
    _ = _ := by
        rw [hzeros, List.reverse_replicate, List.length_replicate]

/-! ## The shortest decimal -/

/-- The digits that are written for the number at a place. -/
def shortestDigits (k : Fin 9218868437227405312) : List Char :=
  dropTrailingZeros (Decimal.digits (Shortest.ofPlace json.tie k).1)

/-- Where the point stands, counted from before the digits. -/
def shortestPoint (k : Fin 9218868437227405312) : Int :=
  (Decimal.digits (Shortest.ofPlace json.tie k).1).length + (Shortest.ofPlace json.tie k).2

/-- The shortest decimal for the number at a place has few digits and no very small power of ten. -/
def Brief (k : Fin 9218868437227405312) : Prop :=
  (Shortest.ofPlace json.tie k).1 * 10 ^ ((Shortest.ofPlace json.tie k).2.toNat + 1) < 2 ^ 53 ∧
    -22 ≤ (Shortest.ofPlace json.tie k).2

instance : DecidablePred Brief := fun _ => inferInstanceAs (Decidable (_ ∧ _))

variable {k : Fin 9218868437227405312}

theorem shortest_ne_zero (hk : k.val ≠ 0) : (Shortest.ofPlace json.tie k).1 ≠ 0 := by
  intro hzero
  have hread := Shortest.ofDecimal_ofPlace json.tie k false
  rw [hzero, Binary64.ofDecimal_zero] at hread
  cases hread
  exact hk rfl

/-- The zeros that are dropped behind the digits make up the difference to the power of ten. -/
theorem exists_zeros (k : Fin 9218868437227405312) :
    ∃ z : Nat, shortestPoint k - (shortestDigits k).length = (Shortest.ofPlace json.tie k).2 + z ∧
      (Decimal.digits (Shortest.ofPlace json.tie k).1) =
        shortestDigits k ++ List.replicate z '0' ∧
      (Shortest.ofPlace json.tie k).1 = Decimal.value (shortestDigits k) * 10 ^ z := by
  unfold shortestPoint shortestDigits
  generalize (Shortest.ofPlace json.tie k).1 = m
  obtain ⟨z, hz⟩ := eq_dropTrailingZeros_append (Decimal.digits m)
  generalize dropTrailingZeros (Decimal.digits m) = ds at hz ⊢
  refine ⟨z, ?_, hz, ?_⟩
  · rw [hz, List.length_append, List.length_replicate]
    push_cast
    ring
  · rw [← Decimal.value_digits m, hz, Decimal.value_append, Decimal.value_zeros,
      List.length_replicate, Nat.add_zero]

/-- The shortest digits, without the zeros at their end, spell the number. -/
theorem spells_shortest (hk : k.val ≠ 0) : Spells (shortestDigits k) (shortestPoint k) k := by
  obtain ⟨z, hpoint, hdigits, hvalue⟩ := exists_zeros k
  have hm := shortest_ne_zero hk
  have hne : shortestDigits k ≠ [] := by
    intro hnil
    rw [hnil] at hvalue
    exact hm (by simpa [Decimal.value] using hvalue)
  constructor
  · intro c hc
    refine Decimal.isDigit_of_mem_digits (n := (Shortest.ofPlace json.tie k).1) ?_
    rw [hdigits]
    exact List.mem_append_left _ hc
  · exact hne
  · have hhead := Decimal.head_digits_ne_zero hm
    rwa [hdigits, List.head?_append_of_ne_nil _ hne] at hhead
  · intro s
    rw [hpoint, ← Binary64.ofDecimal_mul_pow, ← hvalue]
    exact Shortest.ofDecimal_ofPlace json.tie k s

/-- Few digits are written for a brief decimal, with the zeros up to one place beyond the point. -/
theorem value_shortestDigits_lt (h : Brief k) :
    Decimal.value (shortestDigits k) *
      10 ^ (shortestPoint k - (shortestDigits k).length + 1).toNat < 2 ^ 53 := by
  obtain ⟨z, hpoint, -, hvalue⟩ := exists_zeros k
  refine lt_of_le_of_lt ?_ h.1
  rw [hpoint, hvalue, Nat.mul_assoc, ← pow_add]
  exact Nat.mul_le_mul_left _ (Nat.pow_le_pow_right (by norm_num) (by omega))

theorem le_shortestPoint (h : Brief k) : -22 ≤ shortestPoint k - (shortestDigits k).length := by
  obtain ⟨z, hpoint, -⟩ := exists_zeros k
  have hlow := h.2
  omega

theorem shortestPoint_le (h : Brief k) (hk : k.val ≠ 0) :
    shortestPoint k - (shortestDigits k).length ≤ 22 := by
  have hlt := value_shortestDigits_lt h
  have hpos : 0 < Decimal.value (shortestDigits k) := by
    obtain ⟨z, -, -, hvalue⟩ := exists_zeros k
    have hshortest := Nat.pos_of_ne_zero (shortest_ne_zero hk)
    rw [hvalue] at hshortest
    exact Nat.pos_of_mul_pos_right hshortest
  have hpow : 10 ^ (shortestPoint k - (shortestDigits k).length + 1).toNat < 10 ^ 16 :=
    calc _ ≤ _ := Nat.le_mul_of_pos_left _ hpos
      _ < 2 ^ 53 := hlt
      _ < 10 ^ 16 := by norm_num
  have hexp := (Nat.pow_lt_pow_iff_right (by norm_num)).1 hpow
  omega

theorem length_shortestDigits_le (h : Brief k) : (shortestDigits k).length ≤ 16 := by
  obtain ⟨z, -, hdigits, -⟩ := exists_zeros k
  have hlt : (Shortest.ofPlace json.tie k).1 < 10 ^ 16 :=
    calc _ ≤ _ := Nat.le_mul_of_pos_right _ (by positivity)
      _ < 2 ^ 53 := h.1
      _ < 10 ^ 16 := by norm_num
  have hlength := Decimal.length_digits_le (by norm_num) hlt
  rw [hdigits, List.length_append] at hlength
  omega

end Layout

/-! ## Numerals of floating-point numbers -/

namespace Json.Numeral

open Layout

variable {m : Numeral} {cs ds whole fraction : List Char} {t : Int} {s : Bool}
  {k : Fin 9218868437227405312}

/-- A numeral that is no integer is written as a sign and some characters, and denotes
`0.d₁d₂… * 10 ^ t`. -/
structure StandsFor (m : Numeral) (s : Bool) (cs ds : List Char) (t : Int) : Prop where
  /-- It is written so. -/
  chars_eq : m.chars = (if s then ['-'] else []) ++ cs
  /-- Its sign. -/
  negative_eq : m.negative = s
  /-- It is no integer. -/
  not_isInteger : ¬m.IsInteger
  /-- The power of ten, if one is written, puts the point behind the first digit. -/
  exponent_eq : m.exponent = 0 ∨ m.exponent = t - 1
  /-- The zeros behind the digits reach at most one place beyond the point. -/
  scaled : ∃ z : Nat, z ≤ (t - ds.length + 1).toNat ∧
    Decimal.value (m.whole ++ m.fraction) = Decimal.value ds * 10 ^ z ∧
    m.exponent - m.fraction.length = t - ds.length - z

namespace StandsFor

/-- The numeral for the digits of a number is nearest to that number. -/
theorem nearest_eq (h : m.StandsFor s cs ds t) (hspells : Spells ds t k) :
    m.nearest = .finite s k := by
  obtain ⟨z, -, hvalue, hscale⟩ := h.scaled
  rw [nearest, h.negative_eq, hvalue, hscale, Binary64.ofDecimal_mul_pow, sub_add_cancel]
  exact hspells.ofDecimal s

/-- With few digits and a small power of ten, the quick reader finds the nearest number. -/
theorem float_quick (h : m.StandsFor s cs ds t)
    (hvalue : Decimal.value ds * 10 ^ (t - ds.length + 1).toNat < 2 ^ 53)
    (hlow : -22 ≤ t - ds.length) (hhigh : t - ds.length ≤ 22) (hlength : ds.length ≤ 16) :
    m.float .quick = m.nearest := by
  obtain ⟨z, hz, hdigits, hscale⟩ := h.scaled
  refine Numeral.float_quick ?_ (by omega) ?_
  · rw [hdigits]
    exact lt_of_le_of_lt (Nat.mul_le_mul_left _ (Nat.pow_le_pow_right (by norm_num) hz)) hvalue
  · have hexponent := h.exponent_eq
    omega

end StandsFor

theorem isDigit_append_zeros (hd : ∀ c ∈ ds, c.isDigit = true) (n : Nat) :
    ∀ c ∈ ds ++ List.replicate n '0', c.isDigit = true := by
  intro c hc
  rcases List.mem_append.1 hc with hc | hc
  · exact hd c hc
  · rw [List.eq_of_mem_replicate hc]
    rfl

theorem isDigit_zeros_append (hd : ∀ c ∈ ds, c.isDigit = true) (n : Nat) :
    ∀ c ∈ List.replicate n '0' ++ ds, c.isDigit = true := by
  intro c hc
  rcases List.mem_append.1 hc with hc | hc
  · rw [List.eq_of_mem_replicate hc]
    rfl
  · exact hd c hc

/-- Digits on both sides of a point. -/
theorem exists_standsFor_pointed (hwhole : ∀ c ∈ whole, c.isDigit = true) (hne : whole ≠ [])
    (hzero : whole.head? = some '0' → whole = ['0'])
    (hfraction : ∀ c ∈ fraction, c.isDigit = true) (hfne : fraction ≠ [])
    (hscaled : ∃ z : Nat, z ≤ (t - ds.length + 1).toNat ∧
      Decimal.value (whole ++ fraction) = Decimal.value ds * 10 ^ z ∧
      -(fraction.length : Int) = t - ds.length - z) (s : Bool) :
    ∃ m : Numeral, m.StandsFor s (whole ++ '.' :: fraction) ds t := by
  refine ⟨⟨s, whole, fraction, none, hwhole, hne, hzero, hfraction⟩, ?_, rfl, fun h => hfne h.1,
    .inl rfl, ?_⟩
  · simp [Numeral.chars, tail, hfne]
  · simpa [exponent] using hscaled

theorem exists_standsFor_positionalText (h : Spells ds t k) (s : Bool) :
    ∃ m : Numeral, m.StandsFor s (positionalText true ds t) ds t := by
  unfold positionalText
  simp only [if_true]
  split_ifs with hsmall hwhole
  · -- a zero, the point, more zeros, and the digits
    have hvalue : Decimal.value (['0'] ++ (List.replicate (-t).toNat '0' ++ ds)) =
        Decimal.value ds * 10 ^ 0 := by
      rw [← List.append_assoc, Decimal.value_append, ← List.replicate_one,
        List.replicate_append_replicate, Decimal.value_zeros, Nat.zero_mul, Nat.zero_add, pow_zero,
        Nat.mul_one]
    have hscale : -((List.replicate (-t).toNat '0' ++ ds).length : Int) =
        t - ds.length - (0 : Nat) := by
      rw [List.length_append, List.length_replicate]
      push_cast
      omega
    have hwritten := exists_standsFor_pointed (by simp) (by simp) (fun _ => rfl)
      (isDigit_zeros_append h.isDigit (-t).toNat) (by simp [h.ne_nil])
      ⟨0, Nat.zero_le _, hvalue, hscale⟩ s
    simpa using hwritten
  · -- the digits, zeros up to the point, and a zero after it
    have hpos : 0 < ds.length := List.length_pos_iff.2 h.ne_nil
    have hhead : (ds ++ List.replicate (t.toNat - ds.length) '0').head? ≠ some '0' := by
      rw [List.head?_append_of_ne_nil _ h.ne_nil]
      exact h.head_ne_zero
    have hvalue : Decimal.value (ds ++ List.replicate (t.toNat - ds.length) '0' ++ ['0']) =
        Decimal.value ds * 10 ^ (t.toNat - ds.length + 1) := by
      rw [List.append_assoc, ← List.replicate_succ', Decimal.value_append, Decimal.value_zeros,
        List.length_replicate, Nat.add_zero]
    have hscale : -((['0'] : List Char).length : Int) =
        t - ds.length - (t.toNat - ds.length + 1 : Nat) := by
      rw [List.length_singleton]
      omega
    have hwritten := exists_standsFor_pointed (isDigit_append_zeros h.isDigit (t.toNat - ds.length))
      (by simp [h.ne_nil]) (fun hc => absurd hc hhead) (by simp) (by simp)
      ⟨_, by omega, hvalue, hscale⟩ s
    simpa using hwritten
  · -- the point stands among the digits
    have htake : ∀ c ∈ ds.take t.toNat, c.isDigit = true := fun c hc =>
      h.isDigit c (List.mem_of_mem_take hc)
    have hdrop : ∀ c ∈ ds.drop t.toNat, c.isDigit = true := fun c hc =>
      h.isDigit c (List.mem_of_mem_drop hc)
    have hhead : (ds.take t.toNat).head? ≠ some '0' := by
      rw [List.head?_take, if_neg (by omega)]
      exact h.head_ne_zero
    have hvalue : Decimal.value (ds.take t.toNat ++ ds.drop t.toNat) =
        Decimal.value ds * 10 ^ 0 := by
      rw [List.take_append_drop, pow_zero, Nat.mul_one]
    have hscale : -((ds.drop t.toNat).length : Int) = t - ds.length - (0 : Nat) := by
      rw [List.length_drop]
      omega
    exact exists_standsFor_pointed htake (by simp [h.ne_nil]; omega) (fun hc => absurd hc hhead)
      hdrop (by simp; omega) ⟨0, Nat.zero_le _, hvalue, hscale⟩ s

/-- The power of ten for an exponent, with a plus sign if it is positive. -/
def powerOf (e : Int) : Power where
  capital := false
  mark := if e < 0 then .minus else if 0 < e then .plus else .none
  digits := Decimal.digits e.natAbs
  isDigit _ hc := Decimal.isDigit_of_mem_digits hc
  ne_nil := Decimal.digits_ne_nil _

theorem value_powerOf (e : Int) : (powerOf e).value = e := by
  have hmark : (powerOf e).mark = .minus ↔ e < 0 := by
    simp only [powerOf]
    split_ifs with h <;> simp [h]
  have hdigits : Decimal.value (powerOf e).digits = e.natAbs := Decimal.value_digits e.natAbs
  simp only [Power.value, hmark, hdigits]
  split <;> omega

theorem chars_powerOf (e : Int) :
    (powerOf e).chars = 'e' :: ((if 0 < e then ['+'] else []) ++ Decimal.integer e) := by
  rcases lt_trichotomy e 0 with h | h | h
  · simp [Power.chars, Power.letter, powerOf, PowerMark.chars, Decimal.integer, h, h.not_gt]
  · simp [Power.chars, Power.letter, powerOf, PowerMark.chars, Decimal.integer, h]
  · simp [Power.chars, Power.letter, powerOf, PowerMark.chars, Decimal.integer, h, h.not_gt]

theorem exists_standsFor_exponentText (h : Spells ds t k) (s : Bool) :
    ∃ m : Numeral, m.StandsFor s (exponentText true ds t) ds t := by
  obtain ⟨d, fraction, rfl⟩ : ∃ d fraction, ds = d :: fraction :=
    List.exists_cons_of_ne_nil h.ne_nil
  have hd : ∀ c ∈ [d], c.isDigit = true := fun c hc => h.isDigit c (by simp_all)
  have hhead : [d].head? ≠ some '0' := h.head_ne_zero
  have hfraction : ∀ c ∈ fraction, c.isDigit = true :=
    fun c hc => h.isDigit c (List.mem_cons_of_mem _ hc)
  have hexponent : ∀ hpower, (⟨s, [d], fraction, some (powerOf (t - 1)), hd, by simp, hpower,
      hfraction⟩ : Numeral).exponent = t - 1 := fun _ => value_powerOf (t - 1)
  refine ⟨⟨s, [d], fraction, some (powerOf (t - 1)), hd, by simp, fun hc => absurd hc hhead,
    hfraction⟩, ?_, rfl, by simp [IsInteger], .inr (hexponent _), 0, Nat.zero_le _, ?_, ?_⟩
  · cases fraction <;> simp [Numeral.chars, tail, chars_powerOf, exponentText]
  · rw [pow_zero, Nat.mul_one]
    rfl
  · rw [hexponent, List.length_cons]
    push_cast
    ring

theorem exists_standsFor_positiveText (hk : k.val ≠ 0) (s : Bool) :
    ∃ m : Numeral, m.StandsFor s (Layout.json.positiveText k) (shortestDigits k)
      (shortestPoint k) := by
  have hspells := spells_shortest hk
  have hpoint : Layout.json.keepsPoint = true := rfl
  have hplus : Layout.json.marksPlus = true := rfl
  rw [positiveText, hpoint, hplus]
  unfold shortestDigits shortestPoint at hspells ⊢
  generalize Shortest.ofPlace Layout.json.tie k = decimal at hspells ⊢
  obtain ⟨d, e⟩ := decimal
  dsimp only
  split
  · exact exists_standsFor_positionalText hspells s
  · exact exists_standsFor_exponentText hspells s

theorem exists_standsFor_zero (s : Bool) :
    ∃ m : Numeral, m.StandsFor s ['0', '.', '0'] [] 0 := by
  have hdigit : ∀ c ∈ ['0'], c.isDigit = true := by simp
  exact exists_standsFor_pointed hdigit (by simp) (fun _ => rfl) hdigit (by simp)
    ⟨1, by simp, rfl, rfl⟩ s

/-- A finite number is written as a numeral to which it is nearest, and which the quick reader takes
for it if its decimal is brief. -/
theorem exists_chars_eq_text (s : Bool) (k : Fin 9218868437227405312) :
    ∃ m : Numeral, m.chars = Layout.json.text (.finite s k) ∧ ¬m.IsInteger ∧
      m.nearest = .finite s k ∧ (Brief k → m.float .quick = m.nearest) := by
  have hpoint : Layout.json.keepsPoint = true := rfl
  have htext : Layout.json.text (.finite s k) = (if s then ['-'] else []) ++
      if k.val = 0 then ['0', '.', '0'] else Layout.json.positiveText k := by
    cases s <;> simp [Layout.text, hpoint]
  by_cases hk : k.val = 0
  · obtain ⟨m, hm⟩ := exists_standsFor_zero s
    have hquick : m.float .quick = m.nearest :=
      hm.float_quick (by norm_num [Decimal.value]) (by simp) (by simp) (by simp)
    rw [htext, if_pos hk]
    refine ⟨m, hm.chars_eq, hm.not_isInteger, ?_, fun _ => hquick⟩
    obtain ⟨z, -, hvalue, -⟩ := hm.scaled
    have hzero : Decimal.value (m.whole ++ m.fraction) = 0 := by simpa [Decimal.value] using hvalue
    rw [nearest, hzero, Binary64.ofDecimal_zero, hm.negative_eq, show k = 0 from Fin.ext hk]
    rfl
  · obtain ⟨m, hm⟩ := exists_standsFor_positiveText hk s
    rw [htext, if_neg hk]
    exact ⟨m, hm.chars_eq, hm.not_isInteger, hm.nearest_eq (spells_shortest hk), fun h =>
      hm.float_quick (value_shortestDigits_lt h) (le_shortestPoint h) (shortestPoint_le h hk)
        (length_shortestDigits_le h)⟩

end Json.Numeral

/-! ## Reading back -/

namespace FloatReader

open Json.Parser

variable {ρ : FloatReader} {x : Binary64}

/-- A number is read back from its text. -/
def Restores (ρ : FloatReader) (x : Binary64) : Prop :=
  leaf ρ (Layout.json.text x) = (.number (.float x), some [])

/-- Each of the numbers is read back from its text. -/
def RestoresAll (ρ : FloatReader) (xs : List Binary64) : Prop := ∀ x ∈ xs, ρ.Restores x

theorem restoresAll_nil : ρ.RestoresAll [] := List.forall_mem_nil _

theorem restoresAll_singleton (h : ρ.Restores x) : ρ.RestoresAll [x] :=
  List.forall_mem_singleton.2 h

/-- Only a finite number has a text that a number is read from. -/
theorem Restores.isFinite (h : ρ.Restores x) : x.isFinite = true := by
  cases x with
  | finite s k => rfl
  | infinite s => cases s <;> cases h
  | nan => cases h

/-- A finite number is read back exactly if the reader takes the numeral that is written for it as
that number. -/
theorem restores_iff {m : Json.Numeral} (hchars : m.chars = Layout.json.text x)
    (hinteger : ¬m.IsInteger) : ρ.Restores x ↔ (m.float ρ).isFinite = true ∧ m.float ρ = x := by
  have hread := m.leaf_chars (ρ := ρ) endsNumber_nil
  rw [List.append_nil, hchars, Json.Numeral.draft_of_not_fitsWord fun h => hinteger h.1] at hread
  rw [Restores, hread]
  split
  · next hfinite => simp [hfinite]
  · next hfinite => simp [hfinite]

/-- The exact reader reads every finite number back. -/
theorem restores_exact (h : x.isFinite = true) : exact.Restores x := by
  cases x with
  | finite s k =>
    obtain ⟨m, hchars, hinteger, hnearest, -⟩ := Json.Numeral.exists_chars_eq_text s k
    rw [restores_iff hchars hinteger, m.float_exact, hnearest]
    exact ⟨rfl, rfl⟩
  | _ => cases h

/-- The quick reader reads a number back whose decimal is brief. -/
theorem restores_quick {s : Bool} {k : Fin 9218868437227405312} (h : Layout.Brief k) :
    quick.Restores (.finite s k) := by
  obtain ⟨m, hchars, hinteger, hnearest, hquick⟩ := Json.Numeral.exists_chars_eq_text s k
  rw [restores_iff hchars hinteger, hquick h, hnearest]
  exact ⟨rfl, rfl⟩

/-- A half has a brief decimal. -/
theorem restoresAll_quick_half : quick.RestoresAll [.finite false ⟨1022 * 2 ^ 52, by decide⟩] :=
  restoresAll_singleton (restores_quick (by decide +kernel))

/-- A number that is read back is read wherever its text ends. -/
theorem Restores.leaf_append (h : ρ.Restores x) {rest : List Char} (hr : EndsNumber rest) :
    leaf ρ (Layout.json.text x ++ rest) = (.number (.float x), some rest) := by
  cases x with
  | finite s k =>
    obtain ⟨m, hchars, hinteger, -⟩ := Json.Numeral.exists_chars_eq_text s k
    obtain ⟨hfinite, heq⟩ := (restores_iff hchars hinteger).1 h
    rw [heq] at hfinite
    rw [← hchars, m.leaf_chars hr, Json.Numeral.draft_of_not_fitsWord fun h => hinteger h.1, heq,
      if_pos hfinite]
  | _ => cases h.isFinite

end FloatReader

namespace Json

/-! ## All literals -/

theorem Parser.ofInt_toInt (n : Int64) : Number.ofInt n.toInt = .signed n := by
  have hlow := Int64.le_toInt n
  have hhigh := Int64.toInt_lt n
  rw [Number.ofInt, if_pos ⟨by omega, by omega⟩, Int64.ofInt_toInt]

theorem Parser.ofInt_toNat {n : UInt64} (h : 9223372036854775808 ≤ n.toNat) :
    Number.ofInt n.toNat = .unsigned n := by
  have hn := UInt64.toNat_lt n
  rw [Number.ofInt, if_neg (by omega), if_pos (by omega), Int.toNat_natCast, UInt64.ofNat_toNat]

/-- The numeral of an integer. -/
def Numeral.ofInteger (n : Int) : Numeral where
  negative := n < 0
  whole := Decimal.digits n.natAbs
  fraction := []
  power := none
  isDigit_whole _ hc := Decimal.isDigit_of_mem_digits hc
  whole_ne_nil := Decimal.digits_ne_nil _
  whole_zero hc := by
    by_cases hn : n.natAbs = 0
    · rw [hn, Decimal.digits_of_lt (by norm_num)]
      rfl
    · exact absurd hc (Decimal.head_digits_ne_zero hn)
  isDigit_fraction := nofun

theorem Numeral.chars_ofInteger (n : Int) : (ofInteger n).chars = Decimal.integer n := by
  by_cases hn : n < 0 <;> simp [chars, tail, ofInteger, Decimal.integer, hn]

theorem Numeral.integer_ofInteger (n : Int) : (ofInteger n).integer = n := by
  simp only [integer, ofInteger, Decimal.value_digits, decide_eq_true_eq]
  split <;> omega

namespace Parser

variable {ρ : FloatReader} {rest : List Char}

/-- An integer for which 64 bits are enough is read as it is. -/
theorem leaf_integer {n : Int} (hlow : -9223372036854775808 ≤ n)
    (hhigh : n < 18446744073709551616) (hr : EndsNumber rest) :
    leaf ρ (Decimal.integer n ++ rest) = (.number (.ofInt n), some rest) := by
  have hword : (Numeral.ofInteger n).FitsWord := by
    refine ⟨⟨rfl, rfl⟩, ?_⟩
    rw [Numeral.integer_ofInteger]
    exact ⟨hlow, hhigh, by simp [Numeral.ofInteger]; omega⟩
  have hread := (Numeral.ofInteger n).leaf_chars (ρ := ρ) hr
  rwa [Numeral.chars_ofInteger, Numeral.draft_of_fitsWord hword, Numeral.integer_ofInteger] at hread

/-- The text of a literal is read as that literal, if it is of a kind that texts are read as and a
floating-point number is read back. -/
theorem leaf_numberChars {n : Number} (h : n.Faithful) (hfloat : ∀ x, n = .float x → ρ.Restores x)
    (hr : EndsNumber rest) : leaf ρ (numberChars n ++ rest) = (.number n, some rest) := by
  rw [numberChars, if_pos h.isFinite]
  cases n with
  | signed n =>
    have hlow := Int64.le_toInt n
    have hhigh := Int64.toInt_lt n
    have hread := leaf_integer (ρ := ρ) (n := n.toInt) (by omega) (by omega) hr
    rwa [ofInt_toInt] at hread
  | unsigned n =>
    have htext : (Number.unsigned n).text .json = Decimal.integer (n.toNat : Int) := by
      simp [Number.text, Decimal.integer]
    have hlt := n.toNat_lt
    have hread := leaf_integer (ρ := ρ) (n := n.toNat) (by omega) (by omega) hr
    rwa [htext, ← ofInt_toNat (h.2 n rfl)]
  | float x => exact (hfloat x rfl).leaf_append hr

end Parser

end Json

end SearchRequest
