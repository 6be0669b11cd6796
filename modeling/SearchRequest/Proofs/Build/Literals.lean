import SearchRequest.Proofs.Build.BucketRestoration

/-!
# The ways to a literal

A literal comes from a machine integer, from a JSON value that is an argument, or from a text or a
JSON value that is read.  All these ways agree if the floating-point numbers of texts are read
exactly.

* `Number.firstKind`, `Argument.ofKinds`, `Decoder.numberInTurn`, `Scalar.inTurn` — the kinds of
  numbers and of literals, tried one after the other.
* `Value.MeansLiteral`, `Value.MeansNoLiteral` — all ways from a JSON value lead to one literal, or
  none does.
* `Number.Arises` — the numbers that come from any of these ways.
* `Scalar.literals_agree` — all ways to a literal agree, with the exact reader.
-/

namespace SearchRequest

/-! ## Kinds of numbers, one after the other -/

namespace Number

/-- A number as a signed integer, if it is one. -/
def int64? : Number → Option Int64
  | .signed n => some n
  | .unsigned n => if n.toNat < 9223372036854775808 then some (Int64.ofInt n.toNat) else none
  | .float _ => none

/-- A number as an unsigned integer, if it is one. -/
def uint64? : Number → Option UInt64
  | .signed n => if 0 ≤ n.toInt then some (UInt64.ofNat n.toInt.toNat) else none
  | .unsigned n => some n
  | .float _ => none

/-- A number as a floating-point number, the nearest one if it is an integer. -/
def binary64 : Number → Binary64
  | .signed n => Binary64.ofDecimal (n.toInt < 0) n.toInt.natAbs 0
  | .unsigned n => Binary64.ofDecimal false n.toNat 0
  | .float x => x

/-- A number of the first kind that it has. -/
def firstKind (n : Number) : Number :=
  match n.int64?, n.uint64? with
  | some i, _ => .signed i
  | none, some u => .unsigned u
  | none, none => .float n.binary64

/-- The first kind of a number is the one that a JSON value keeps. -/
theorem firstKind_eq_held (n : Number) : n.firstKind = n.held := by
  cases n with
  | signed i => rfl
  | float x => rfl
  | unsigned u =>
    have hu := UInt64.toNat_lt u
    by_cases h : u.toNat < 9223372036854775808
    · rw [held_unsigned, ofInt_of_lt (by omega) (by omega)]
      simp [firstKind, int64?, h]
    · rw [held_unsigned, ofInt_of_le (by omega) (by omega)]
      simp [firstKind, int64?, uint64?, h]

theorem firstKind_eq_self {n : Number} (h : n.Faithful) : n.firstKind = n := by
  rw [firstKind_eq_held, held_eq_self h]

end Number

/-- The argument for a JSON value, by the kinds of its number. -/
def Argument.ofKinds (v : Value) : Argument :=
  match v.tree with
  | .null => .null
  | .bool b => .bool b
  | .string s => .text s
  | .number n => .number n.firstKind
  | _ => .json v

namespace Decoder

/-- A number of a kind. -/
def numberAs (kind? : Number → Option Number) : Decoder Number := fun _ d => do
  match ← settled d with
  | .number n =>
    match kind? n with
    | some m => .ok m
    | none => .error .mismatch
  | _ => .error .mismatch

/-- A number of the first kind that it has. -/
def numberInTurn : Decoder Number :=
  firstOf [numberAs fun n => n.int64?.map .signed, numberAs fun n => n.uint64?.map .unsigned,
    numberAs fun n => some (.float n.binary64)]

end Decoder

/-- A literal of the first kind that there is. -/
def Scalar.inTurn : Decoder Scalar :=
  Decoder.firstOf [Decoder.null.as fun _ => .null, Decoder.bool.as .bool,
    Decoder.numberInTurn.as .number, Decoder.string.as .text]

theorem Decoder.settled_draft (j : Json) : settled j.draft = .ok j := by
  rw [Json.draft_eq_draftWithin]
  exact (Json.settled_draftWithin j.depth j).1 (Nat.le_refl _)

/-- The number of a JSON tree. -/
def Json.number? : Json → Option Number
  | .number n => some n
  | _ => none

namespace Decoder

variable {o : Origin} {d : Draft} {j : Json}

theorem firstOf_of_settled {α : Type} {shapes : List (Decoder α)} (h : settled d = .ok j) :
    firstOf shapes o d =
      match shapes.findSome? (fun shape => (shape .held j.draft).toOption) with
      | some a => .ok a
      | none => .error .mismatch := by
  rw [firstOf, h]
  rfl

theorem numberAs_draft {kind? : Number → Option Number} (j : Json) :
    (numberAs kind? o j.draft).toOption = j.number?.bind kind? := by
  rw [numberAs, settled_draft]
  cases j with
  | number n =>
    show (match kind? n with
      | some m => Except.ok m
      | none => .error ReadError.mismatch).toOption = kind? n
    cases kind? n <;> rfl
  | _ => rfl

/-- A number that is tried in turn is read as one of its first kind. -/
theorem numberInTurn_of_settled (h : settled d = .ok j) :
    numberInTurn o d = match j.number? with
      | some n => .ok n.firstKind
      | none => .error .mismatch := by
  rw [numberInTurn, firstOf_of_settled h]
  simp only [List.findSome?, numberAs_draft]
  cases j with
  | number n =>
    simp only [Json.number?, Number.firstKind, Option.bind_some]
    cases n.int64? with
    | some i => rfl
    | none => cases n.uint64? <;> rfl
  | _ => rfl

theorem numberInTurn_eq (h : ∀ j, settled d = .ok j → j.Faithful) :
    numberInTurn o d = number o d := by
  cases hj : settled d with
  | error e =>
    rw [numberInTurn, firstOf, number, hj]
    rfl
  | ok j =>
    rw [numberInTurn_of_settled hj, number, hj]
    cases j with
    | number n =>
      have hkind := Number.firstKind_eq_self (h _ hj)
      simp only [Json.number?, hkind]
      rfl
    | _ => rfl

end Decoder

theorem Scalar.inTurn_eq (o : Origin) {d : Draft}
    (h : ∀ j, Decoder.settled d = .ok j → j.Faithful) : inTurn o d = decoder o d := by
  cases hj : Decoder.settled d with
  | error e =>
    rw [inTurn, Decoder.firstOf, decoder, hj]
    rfl
  | ok j =>
    have hnumber : Decoder.numberInTurn .held j.draft = match j.number? with
        | some n => .ok n.firstKind
        | none => .error .mismatch := Decoder.numberInTurn_of_settled (Decoder.settled_draft j)
    rw [inTurn, Decoder.firstOf_of_settled hj, decoder, hj]
    simp only [List.findSome?, Decoder.as, hnumber]
    cases j with
    | number n =>
      have hkind := Number.firstKind_eq_self (h _ hj)
      simp only [Json.number?, hkind]
      rfl
    | _ => rfl

/-- The kinds of a number lead to the same argument as the number itself. -/
theorem Argument.ofKinds_eq {v : Value} (h : v.tree.Faithful) : ofKinds v = ofJson v := by
  obtain ⟨j, hj⟩ := v
  cases j with
  | number n =>
    have hkind := Number.firstKind_eq_self h
    simp only [ofKinds, hkind]
    rfl
  | _ => rfl

/-! ## Texts and trees -/

namespace Decoder

variable {α : Type} {decoder : Decoder α} {ρ : FloatReader} {t : String}

theorem readText_of_not_trailing (h : (Reading.ofText ρ t).trailing = false) :
    decoder.readText ρ t = decoder .text (Reading.ofText ρ t).root := by
  rw [readText]
  simp only [h]
  cases decoder .text (Reading.ofText ρ t).root <;> rfl

theorem readText_eq_ok_iff {a : α} :
    decoder.readText ρ t = .ok a ↔
      decoder .text (Reading.ofText ρ t).root = .ok a ∧ (Reading.ofText ρ t).trailing = false := by
  constructor
  · intro h
    obtain ⟨a', ha, hrest⟩ := bind_eq_ok h
    split at hrest
    · cases hrest
    · next htrailing =>
      cases hrest
      exact ⟨ha, by simpa using htrailing⟩
  · rintro ⟨ha, htrailing⟩
    rw [readText_of_not_trailing htrailing, ha]

end Decoder

/-! ## Ways from a JSON value -/

namespace Value

/-- All ways from a JSON value lead to a literal: as an argument, when it is read, and when a text
that holds it is. -/
structure MeansLiteral (ρ : FloatReader) (v : Value) (s : Scalar) : Prop where
  /-- The argument is the literal. -/
  argument : ∀ combinator, (Argument.ofJson v).asScalar combinator = .ok s
  /-- The value is read as the literal. -/
  held : Scalar.decoder.readJson v.tree = .ok s
  /-- So is its text. -/
  written : Scalar.decoder.readText ρ v.tree.compact = .ok s
  /-- So is any text that holds it. -/
  text : ∀ t, Decoder.value.readText ρ t = .ok v → Scalar.decoder.readText ρ t = .ok s

/-- No way from a JSON value leads to a literal. -/
structure MeansNoLiteral (ρ : FloatReader) (v : Value) : Prop where
  /-- The argument is refused. -/
  argument : ∀ combinator, (Argument.ofJson v).asScalar combinator =
    .error (.unrecognized combinator (.argument (.json v)))
  /-- The value is not read. -/
  held : Scalar.decoder.readJson v.tree = .error .mismatch
  /-- Nor is its text. -/
  written : ∀ s, Scalar.decoder.readText ρ v.tree.compact ≠ .ok s
  /-- Nor is any text that holds it. -/
  text : ∀ t, Decoder.value.readText ρ t = .ok v → Scalar.decoder.readText ρ t = .error .mismatch

end Value

namespace Scalar

variable {ρ : FloatReader}

theorem asScalar_ofScalar (combinator : String) (s : Scalar) :
    (Argument.ofScalar s).asScalar combinator = .ok s := by
  cases s <;> rfl

theorem ofJson?_canonical (j : Json) : ofJson? (Value.ofJson j).tree = ofJson? j := by
  cases j <;> rfl

/-- A tree that stands for a literal is what the literal is written as, and is not nested. -/
theorem toJson_of_ofJson? {j : Json} {s : Scalar} (h : j.Faithful) (hs : ofJson? j = some s) :
    s.node.toJson = j ∧ j.depth = 0 := by
  cases j with
  | number n =>
    cases hs
    exact ⟨Decoder.Reads.toJson_number h, rfl⟩
  | array _ | object _ => cases hs
  | _ =>
    cases hs
    exact ⟨rfl, rfl⟩

theorem decoder_of_settled {o : Origin} {d : Draft} {j : Json} (h : Decoder.settled d = .ok j) :
    decoder o d = match ofJson? j with
      | some s => .ok s
      | none => .error .mismatch := by
  rw [decoder, h]
  rfl

theorem readJson_eq (j : Json) :
    decoder.readJson j = match ofJson? j with
      | some s => .ok s
      | none => .error .mismatch :=
  decoder_of_settled (Decoder.settled_draft j)

/-- A text that holds a value is read as the value is. -/
theorem readText_of_value {t : String} {v : Value} (h : Decoder.value.readText ρ t = .ok v) :
    decoder.readText ρ t = decoder.readJson v.tree := by
  obtain ⟨hvalue, htrailing⟩ := Decoder.readText_eq_ok_iff.1 h
  obtain ⟨j, hj, rfl⟩ := map_eq_ok hvalue
  rw [Decoder.readText_of_not_trailing htrailing, decoder_of_settled hj, readJson_eq,
    ofJson?_canonical]

/-- Only a text that holds a value is read as a literal. -/
theorem value_of_readText {t : String} {s : Scalar} (h : decoder.readText ρ t = .ok s) :
    ∃ v, Decoder.value.readText ρ t = .ok v := by
  obtain ⟨hs, htrailing⟩ := Decoder.readText_eq_ok_iff.1 h
  obtain ⟨j, hj, -⟩ := bind_eq_ok hs
  refine ⟨Value.ofJson j, Decoder.readText_eq_ok_iff.2 ⟨?_, htrailing⟩⟩
  rw [Decoder.value, hj]
  rfl

end Scalar

namespace Value

variable {ρ : FloatReader} {v : Value}

/-- The text of a value holds the value if its floating-point numbers are read back, unless it is
nested too deeply. -/
theorem okWhen_compact (h : v.tree.Faithful) (hfloats : ρ.RestoresAll v.tree.floats) :
    OkWhen (v.tree.depth ≤ Json.Parser.nestingLimit) (Decoder.value.readText ρ v.tree.compact)
      v := by
  have hnode := Json.faithful_node h
  have htree : v.tree.node.toJson = v.tree := Node.toJson_node hnode
  have hread := (Decoder.Reads.value v).readText hnode (htree.symm ▸ hfloats)
  rwa [htree] at hread

/-- A value that a text holds has a text that holds it. -/
theorem faithful_of_readText {t : String} (h : Decoder.value.readText ρ t = .ok v) :
    v.tree.Faithful := by
  have hnode : v.tree.node.Faithful := (Decoder.YieldsFitting.value.of_readText h).1
  have htree := hnode.toJson
  rwa [Node.toJson_node hnode] at htree

theorem MeansLiteral.of_ofJson? {s : Scalar} (hv : v.tree.Faithful)
    (hfloats : ρ.RestoresAll v.tree.floats) (hs : Scalar.ofJson? v.tree = some s) :
    v.MeansLiteral ρ s := by
  have hheld : Scalar.decoder.readJson v.tree = .ok s := by rw [Scalar.readJson_eq, hs]
  have htext : ∀ t, Decoder.value.readText ρ t = .ok v → Scalar.decoder.readText ρ t = .ok s :=
    fun t ht => (Scalar.readText_of_value ht).trans hheld
  have hdepth : v.tree.depth ≤ Json.Parser.nestingLimit := by
    rw [(Scalar.toJson_of_ofJson? hv hs).2]
    exact Nat.zero_le _
  refine ⟨fun combinator => ?_, hheld, htext _ ((okWhen_compact hv hfloats).1 hdepth), htext⟩
  rw [Argument.ofJson, hs]
  exact Scalar.asScalar_ofScalar combinator s

theorem MeansNoLiteral.of_ofJson? (hv : v.tree.Faithful) (hfloats : ρ.RestoresAll v.tree.floats)
    (hs : Scalar.ofJson? v.tree = none) : v.MeansNoLiteral ρ := by
  have hheld : Scalar.decoder.readJson v.tree = .error .mismatch := by rw [Scalar.readJson_eq, hs]
  have htext : ∀ t, Decoder.value.readText ρ t = .ok v →
      Scalar.decoder.readText ρ t = .error .mismatch :=
    fun t ht => (Scalar.readText_of_value ht).trans hheld
  refine ⟨fun combinator => ?_, hheld, fun s h => ?_, htext⟩
  · rw [Argument.ofJson, hs]
    rfl
  · obtain ⟨w, hw⟩ := Scalar.value_of_readText h
    obtain ⟨-, rfl⟩ := (okWhen_compact hv hfloats).eq_ok_iff.1 hw
    rw [htext _ hw] at h
    cases h

end Value

/-- A faithful number is kept as it is. -/
theorem Value.number_eq {n : Number} (h : n.Faithful) :
    Value.number n = ⟨.number n, trivial⟩ := by
  rw [Value.number, if_pos h.isFinite, Number.held_eq_self h]

/-- What is read where a numeral stands: an integer if it is written as one that fits, and else the
nearest floating-point number, if it is finite. -/
def Json.Numeral.read (m : Json.Numeral) : Except ReadError Number :=
  if m.FitsWord then .ok (.ofInt m.integer)
  else if m.nearest.isFinite then .ok (.float m.nearest)
  else .error .malformed

/-! ## Numbers that arise -/

namespace Number

/-- The numbers that come from any way to a literal. -/
inductive Arises : Number → Prop
  /-- From a machine integer. -/
  | word (w : Word) : Arises (ofWord w)
  /-- From a JSON value that is an argument. -/
  | argument {v : Value} {combinator : String} {n : Number} (hv : v.tree.Faithful)
      (h : (Argument.ofJson v).asScalar combinator = .ok (.number n)) : Arises n
  /-- From a JSON value that is read. -/
  | held {j : Json} {n : Number} (hj : j.Faithful)
      (h : Scalar.decoder.readJson j = .ok (.number n)) : Arises n
  /-- From a text. -/
  | text {t : String} {n : Number} (h : Scalar.decoder.readText .exact t = .ok (.number n)) :
    Arises n

theorem faithful_ofInt_of_fits {n : Int} (hlow : -9223372036854775808 ≤ n)
    (hhigh : n < 18446744073709551616) : (ofInt n).Faithful :=
  Json.Parser.faithful_ofInt (ofInt_ne_float hlow hhigh)

theorem faithful_of_readJson {j : Json} {n : Number} (hj : j.Faithful)
    (h : Scalar.decoder.readJson j = .ok (.number n)) : n.Faithful := by
  rw [Scalar.readJson_eq] at h
  cases j with
  | number m =>
    cases h
    exact hj
  | _ => cases h

/-- Every number that arises is one of the kind that its text is read as. -/
theorem Arises.faithful {n : Number} (h : n.Arises) : n.Faithful := by
  cases h with
  | word w =>
    obtain ⟨hlow, hhigh⟩ := w.holds.bounds
    rw [ofWord_eq_ofInt]
    exact faithful_ofInt_of_fits hlow hhigh
  | @argument v combinator n hv h =>
    cases hs : Scalar.ofJson? v.tree with
    | some s =>
      have hmeans := Value.MeansLiteral.of_ofJson? hv hv.restoresAll_exact hs
      obtain rfl := Except.ok.inj ((hmeans.argument combinator).symm.trans h)
      exact faithful_of_readJson hv hmeans.held
    | none =>
      rw [(Value.MeansNoLiteral.of_ofJson? hv hv.restoresAll_exact hs).argument] at h
      cases h
  | held hj h => exact faithful_of_readJson hj h
  | text h =>
    obtain ⟨v, hv⟩ := Scalar.value_of_readText h
    rw [Scalar.readText_of_value hv] at h
    exact faithful_of_readJson (Value.faithful_of_readText hv) h

/-- A number with a text that is read as the same number leads back to it on all ways. -/
theorem Faithful.restored {n : Number} (h : n.Faithful) :
    Decoder.number.readText .exact n.node.toJson.compact = .ok n ∧
      Decoder.value.readText .exact n.node.toJson.compact = .ok (.number n) ∧
      (Value.number n).MeansLiteral .exact (.number n) := by
  have hfits : n.node.Fits Json.Parser.nestingLimit := Node.fits_number h
  have htree : (Value.number n).tree = n.node.toJson := by
    rw [Value.number_eq h]
    exact (Decoder.Reads.toJson_number h).symm
  have hfaithful : (Value.number n).tree.Faithful := htree ▸ hfits.1.toJson
  have hfloats := hfaithful.restoresAll_exact
  refine ⟨((Decoder.Reads.number n).readText hfits.1 (htree ▸ hfloats)).1 hfits.2, ?_, ?_⟩
  · rw [← htree]
    exact (Value.okWhen_compact hfaithful hfloats).1 (htree ▸ hfits.2)
  · exact .of_ofJson? hfaithful hfloats (by rw [Value.number_eq h]; rfl)

end Number

namespace Scalar

theorem decoded_number {n : Number} (h : n.Faithful) :
    Decoder.number .text (.number n) = .ok n ∧ decoder .text (.number n) = .ok (.number n) ∧
      Decoder.value .text (.number n) = .ok (.number n) := by
  rw [Value.number_eq h]
  exact ⟨rfl, rfl, rfl⟩

/-- A text with a numeral is read as the literal that is meant, whatever is to be read. -/
theorem readText_numeral (m : Json.Numeral) {before after : List Char}
    (hbefore : Json.Parser.Blank before) (hafter : Json.Parser.Blank after) :
    let text := String.ofList (before ++ (m.chars ++ after))
    Decoder.number.readText .exact text = m.read ∧
      decoder.readText .exact text = m.read.map .number ∧
      Decoder.value.readText .exact text = m.read.map Value.number := by
  intro text
  have hreading : Reading.ofText .exact text = ⟨m.draft .exact, false⟩ :=
    m.ofText_chars hbefore hafter
  have htrailing : (Reading.ofText .exact text).trailing = false := by rw [hreading]
  simp only [Decoder.readText_of_not_trailing htrailing, hreading, Json.Numeral.draft,
    Json.Numeral.float_exact, Json.Numeral.read]
  split
  · next hword => exact decoded_number (Number.faithful_ofInt_of_fits hword.2.1 hword.2.2.1)
  · split
    · next hfinite => exact decoded_number (Number.faithful_float hfinite)
    · exact ⟨rfl, rfl, rfl⟩

theorem readText_integer {n : Int} (hlow : -9223372036854775808 ≤ n)
    (hhigh : n < 18446744073709551616) :
    Decoder.value.readText ρ (String.ofList (Decimal.integer n)) = .ok (.number (.ofInt n)) := by
  have hleaf : Json.Parser.leaf ρ (Decimal.integer n ++ []) = (.number (.ofInt n), some []) :=
    Json.Parser.leaf_integer hlow hhigh Json.Parser.endsNumber_nil
  have hreading : Reading.ofText ρ (String.ofList ([] ++ (Decimal.integer n ++ []))) =
      ⟨.number (.ofInt n), false⟩ :=
    Json.Parser.ofText_of_leaf Json.Parser.blank_nil Json.Parser.blank_nil hleaf
  rw [List.nil_append, List.append_nil] at hreading
  rw [Decoder.readText_of_not_trailing (by rw [hreading]), hreading,
    Value.number_eq (Number.faithful_ofInt_of_fits hlow hhigh)]
  rfl

/-- All ways to a literal agree, if the floating-point numbers of texts are read exactly.

* A JSON value that is neither an array nor an object leads to one literal, whether it is an
  argument, or is read as it is or from a text.  An array or an object leads to none.
* The kinds of literals and of numbers could as well be tried one after the other.
* An integer for which 64 bits are enough leads to one number, whatever its type: a signed one below
  two to the 63, and else an unsigned one.
* A number in a text is an integer if it is written as one that fits, other than minus zero.
  Otherwise it is the nearest floating-point number, and not read if there is none.
* A number that comes from any of these ways is read back from its text as it is. -/
theorem literals_agree :
    (∀ v : Value, v.tree.Faithful → match v.tree with
      | .array _ => v.MeansNoLiteral .exact
      | .object _ => v.MeansNoLiteral .exact
      | j => ∃ s : Scalar, s.node.toJson = j ∧ v.MeansLiteral .exact s) ∧
    (∀ t s, decoder.readText .exact t = .ok s → ∃ v, Decoder.value.readText .exact t = .ok v) ∧
    (∀ s combinator, (Argument.ofScalar s).asScalar combinator = .ok s) ∧
    (∀ v : Value, v.tree.Faithful →
      Argument.ofJson v = Argument.ofKinds v ∧
      decoder.readJson v.tree = inTurn.readJson v.tree) ∧
    (∀ t, decoder.readText .exact t = inTurn.readText .exact t ∧
      Decoder.number.readText .exact t = Decoder.numberInTurn.readText .exact t) ∧
    (∀ n : Int, -2 ^ 63 ≤ n → n < 2 ^ 64 →
      (Number.ofInt n).rational? = some (n : ℚ) ∧
      (n < 2 ^ 63 → ∃ i, Number.ofInt n = .signed i) ∧
      (2 ^ 63 ≤ n → ∃ u, Number.ofInt n = .unsigned u) ∧
      (∃ w : Word, w.value = n) ∧ (∀ w : Word, w.value = n → Number.ofWord w = .ofInt n) ∧
      Decoder.value.readText .exact (String.ofList (Decimal.integer n)) = .ok (.number (.ofInt n)) ∧
      Argument.ofJson (.number (.ofInt n)) = .number (.ofInt n) ∧
      (Value.number (.ofInt n)).MeansLiteral .exact (.number (.ofInt n))) ∧
    (∀ (m : Json.Numeral) before after, Json.Parser.Blank before → Json.Parser.Blank after →
      let text := String.ofList (before ++ (m.chars ++ after))
      Decoder.number.readText .exact text = m.read ∧
        decoder.readText .exact text = m.read.map .number ∧
        Decoder.value.readText .exact text = m.read.map Value.number) ∧
    (∀ n : Number, n.Arises →
      Decoder.number.readText .exact n.node.toJson.compact = .ok n ∧
      Decoder.value.readText .exact n.node.toJson.compact = .ok (.number n) ∧
      (Value.number n).MeansLiteral .exact (.number n)) := by
  refine ⟨fun v hv => ?_, fun t s h => value_of_readText h,
    fun s combinator => asScalar_ofScalar combinator s, fun v hv => ?_, fun t => ?_,
    fun n hlow hhigh => ?_, fun m before after hbefore hafter => readText_numeral m hbefore hafter,
    fun n h => h.faithful.restored⟩
  · obtain ⟨j, hj⟩ := v
    cases j with
    | array _ | object _ => exact .of_ofJson? hv hv.restoresAll_exact rfl
    | number n =>
      exact ⟨.number n, (toJson_of_ofJson? hv rfl).1, .of_ofJson? hv hv.restoresAll_exact rfl⟩
    | null => exact ⟨.null, rfl, .of_ofJson? hv hv.restoresAll_exact rfl⟩
    | bool b => exact ⟨.bool b, rfl, .of_ofJson? hv hv.restoresAll_exact rfl⟩
    | string s => exact ⟨.text s, rfl, .of_ofJson? hv hv.restoresAll_exact rfl⟩
  · refine ⟨(Argument.ofKinds_eq hv).symm, (inTurn_eq .held fun j hj => ?_).symm⟩
    obtain rfl := Except.ok.inj ((Decoder.settled_draft v.tree).symm.trans hj)
    exact hv
  · have hroot : ∀ j, Decoder.settled (Reading.ofText .exact t).root = .ok j → j.Faithful :=
      fun j hj => (Decoder.within_of_settled (Reading.within_ofText .exact t) hj).1
    simp only [Decoder.readText, inTurn_eq .text hroot, Decoder.numberInTurn_eq hroot, and_self]
  · have hfaithful := Number.faithful_ofInt_of_fits hlow hhigh
    obtain ⟨-, -, hmeans⟩ := hfaithful.restored
    refine ⟨Number.rational?_ofInt hlow hhigh, fun hlt => ⟨_, Number.ofInt_of_lt hlow hlt⟩,
      fun hle => ⟨_, Number.ofInt_of_le hle hhigh⟩, ?_, ?_, readText_integer hlow hhigh, ?_, hmeans⟩
    · exact Word.exists_value_eq hlow hhigh
    · rintro w rfl
      exact Number.ofWord_eq_ofInt w
    · rw [Value.number_eq hfaithful]
      rfl

/-- The least number that is unsigned, an empty array, and a number with a point after a blank. -/
theorem literals_agree_two_to_the_63 :
    let large : Number := .unsigned 9223372036854775808
    let word : Word := ⟨⟨false, .double⟩, 2 ^ 63, by decide⟩
    let point : Json.Numeral :=
      ⟨false, ['1'], ['5'], none, by simp, by simp, by simp, by simp⟩
    (Value.number large).MeansLiteral .exact (.number large) ∧
    (Value.array []).MeansNoLiteral .exact ∧
    Number.ofWord word = large ∧
    Decoder.value.readText .exact "9223372036854775808" = .ok (.number large) ∧
    decoder.readText .exact " 1.5" = .ok (.number (.float point.nearest)) ∧
    Decoder.number.readText .exact large.node.toJson.compact = .ok large := by
  intro large word point
  obtain ⟨hvalue, -, -, -, -, hinteger, hnumeral, hrestored⟩ := literals_agree
  obtain ⟨-, -, -, -, hword, hread, -, hmeans⟩ := hinteger (2 ^ 63) (by decide) (by decide)
  obtain ⟨-, hpoint, -⟩ := hnumeral point [' '] [] (by simp [Json.Parser.Blank]; rfl)
    Json.Parser.blank_nil
  have hlarge : Number.ofInt (2 ^ 63) = large := by decide
  have htext : String.ofList (Decimal.integer (2 ^ 63)) = "9223372036854775808" := by
    decide +kernel
  have hfloat : point.read = .ok (.float point.nearest) := by
    rw [Json.Numeral.read, if_neg (by decide), if_pos (by decide +kernel)]
  rw [hlarge] at hword hread hmeans
  rw [htext] at hread
  have harises : large.Arises := hword word rfl ▸ .word word
  rw [hfloat] at hpoint
  exact ⟨hmeans, hvalue (Value.array []) trivial, hword word rfl, hread, hpoint,
    (hrestored large harises).1⟩

/-- A number beyond all finite ones is not read, and zero with a minus sign is not read as an
integer. -/
theorem not_float_beyond_finite :
    decoder.readText .exact "1e400" = .error .malformed ∧
      decoder.readText .exact "-0" = .ok (.number (.float (Binary64.zero true))) ∧
      Number.ofInt 0 = .signed 0 := by
  decide +kernel

end Scalar

end SearchRequest
