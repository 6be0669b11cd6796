import SearchRequest.Proofs.Build.BucketReading
import SearchRequest.Proofs.Document.Requests

/-!
# Reading back the buckets that are built

A bound that is the literal `null` is written as `null`, and `null` is read as no bound.

* `Scalar.held`, `Bucket.held` — literals, and the bounds of a bucket, as their texts keep them.
* `Bucket.readText_compact` — what is read from the text of any bucket.
* `Build.bucket_restored` — a bucket is read back from its text as it is, exactly if no bound of it
  is `null` or a number that is not read as it is written.
-/

namespace SearchRequest

open Argument

/-! ## Literals in texts -/

theorem Number.held_unsigned (m : UInt64) : (unsigned m).held = ofInt m.toNat := rfl

theorem Number.faithful_held {n : Number} (h : n.isFinite) : n.held.Faithful := by
  cases n with
  | signed m => exact faithful_signed m
  | unsigned m =>
    rw [held_unsigned]
    exact faithful_ofInt (UInt64.toNat_lt m)
  | float x => exact faithful_float h

theorem Number.held_eq_self {n : Number} (h : n.Faithful) : n.held = n := by
  cases n with
  | unsigned m =>
    rw [held_unsigned]
    exact Json.Parser.ofInt_toNat (h.2 m rfl)
  | _ => rfl

/-- A literal has the text that it has as a JSON value keeps it. -/
theorem Json.numberChars_held (n : Number) : numberChars n.held = numberChars n := by
  cases n with
  | unsigned m =>
    obtain ⟨k, hk, hint⟩ | ⟨k, hk, hnat, -⟩ := Number.ofInt_natCast (UInt64.toNat_lt m)
    · rw [Number.held_unsigned, hk]
      simp [numberChars, Number.isFinite, Number.text, hint, Decimal.integer]
    · rw [Number.held_unsigned, hk]
      simp [numberChars, Number.isFinite, Number.text, hnat]
  | _ => rfl

theorem Json.floats_number_held (n : Number) :
    (Json.number n.held).floats = (Json.number n).floats := by
  cases n with
  | unsigned m =>
    obtain ⟨k, hk, -⟩ | ⟨k, hk, -⟩ := Number.ofInt_natCast (UInt64.toNat_lt m) <;>
      rw [Number.held_unsigned, hk] <;> rfl
  | _ => rfl

namespace Scalar

/-- The literal as its text keeps it: a number that is not finite is the literal `null`. -/
def held : Scalar → Scalar
  | .number n => if n.isFinite then .number n.held else .null
  | s => s

theorem fits_held (s : Scalar) (room : Nat) : s.held.node.Fits room := by
  cases s with
  | null => exact Node.fits_null
  | bool b => exact Node.fits_bool b
  | text t => exact Node.fits_string t
  | number n =>
    by_cases h : n.isFinite
    · rw [held, if_pos h]
      exact Node.fits_number (Number.faithful_held h)
    · rw [held, if_neg h]
      exact Node.fits_null

theorem held_eq_self_iff {s : Scalar} : s.held = s ↔ s.node.Faithful := by
  refine ⟨fun h => h ▸ (s.fits_held 0).1, fun h => ?_⟩
  cases s with
  | number n =>
    have hn : n.Faithful := h
    rw [held, if_pos hn.isFinite, Number.held_eq_self hn]
  | _ => rfl

theorem compactChars_held (s : Scalar) :
    Json.compactChars s.held.node.toJson = Json.compactChars s.node.toJson := by
  cases s with
  | number n =>
    by_cases h : n.isFinite
    · have hheld : n.held.isFinite := (Number.faithful_held h).isFinite
      simp only [held, if_pos h, node, Node.toJson, if_pos hheld, Json.compactChars]
      exact Json.numberChars_held n
    · simp only [held, if_neg h, node, Node.toJson]
  | _ => rfl

theorem floats_held (s : Scalar) : s.held.node.toJson.floats = s.node.toJson.floats := by
  cases s with
  | number n =>
    by_cases h : n.isFinite
    · have hheld : n.held.isFinite := (Number.faithful_held h).isFinite
      simp only [held, if_pos h, node, Node.toJson, if_pos hheld]
      exact Json.floats_number_held n
    · simp only [held, if_neg h, node, Node.toJson]
  | _ => rfl

end Scalar

/-- Entries with the same keys and texts are written alike. -/
theorem Json.compactEntries_congr {es fs : List (String × Json)}
    (h : es.map (fun e => (e.1, compactChars e.2)) = fs.map fun e => (e.1, compactChars e.2)) :
    compactEntries es = compactEntries fs ∧
      compactChars (.object es) = compactChars (.object fs) := by
  have hpairs : List.Forall₂
      (fun e f => (e.1, compactChars e.2) = (f.1, compactChars f.2)) es fs := by
    rwa [← List.forall₂_eq_eq_eq, List.forall₂_map_left_iff, List.forall₂_map_right_iff] at h
  clear h
  induction hpairs with
  | nil => exact ⟨rfl, rfl⟩
  | cons hhead _ ih =>
    obtain ⟨hkey, htext⟩ := Prod.mk.inj hhead
    obtain ⟨hrest, -⟩ := ih
    constructor
    · rw [compactEntries, compactEntries, hkey, htext, hrest]
    · rw [compactChars, compactChars, hkey, htext, hrest]

/-! ## Buckets in texts -/

namespace Bucket

/-- The bucket with its bounds as their texts keep them. -/
def held (b : Bucket) : Bucket := { b with ge := b.ge.map Scalar.held, lt := b.lt.map Scalar.held }

theorem fits_held (b : Bucket) : b.held.node.Fits 1 := by
  have hbound : ∀ (name : String) (v : Option Scalar),
      Node.FitsEntries 0 (Node.optional name Scalar.node (v.map Scalar.held)) := by
    intro name v
    refine Node.fitsEntries_optional fun s hs => ?_
    obtain ⟨s, -, rfl⟩ := Option.map_eq_some_iff.1 hs
    exact s.fits_held 0
  have hanchor : ∀ (name : String) (v : Option String),
      Node.FitsEntries 0 (Node.optional name .string v) :=
    fun name v => Node.fitsEntries_optional fun s _ => Node.fits_string s
  have hnames : Node.FitsEntries 0 (Node.member "name" (.string b.name) ++
      Node.member "label" (.string b.label)) :=
    (Node.fitsEntries_member (Node.fits_string _)).append
      (Node.fitsEntries_member (Node.fits_string _))
  exact Node.fits_record Nat.one_pos (((((hnames.append (hanchor _ _)).append (hbound _ _)).append
    (hanchor _ _)).append (hbound _ _)).append (hanchor _ _))

theorem compact_held (b : Bucket) : b.held.node.toJson.compact = b.node.toJson.compact := by
  have hbound : ∀ (name : String) (v : Option Scalar),
      (Node.entriesToJson (Node.optional name Scalar.node (v.map Scalar.held))).map
        (fun e => (e.1, Json.compactChars e.2)) =
      (Node.entriesToJson (Node.optional name Scalar.node v)).map
        fun e => (e.1, Json.compactChars e.2) := by
    intro name v
    cases v with
    | none => rfl
    | some s =>
      have htext := s.compactChars_held
      simp only [Option.map_some, Node.optional, Node.entriesToJson, List.map_cons, htext,
        List.map_nil]
  refine congrArg String.ofList (Json.compactEntries_congr ?_).2
  simp only [Node.entriesToJson_append, List.map_append, held, hbound]

theorem floats_held (b : Bucket) : b.held.node.toJson.floats = b.node.toJson.floats := by
  have hbound : ∀ (name : String) (v : Option Scalar),
      Json.floatsOfEntries
        (Node.entriesToJson (Node.optional name Scalar.node (v.map Scalar.held))) =
      Json.floatsOfEntries (Node.entriesToJson (Node.optional name Scalar.node v)) := by
    intro name v
    cases v with
    | none => rfl
    | some s => exact congrArg (· ++ []) s.floats_held
  simp only [node, Node.toJson, Json.floats, Node.entriesToJson_append,
    Json.floatsOfEntries_append, held, hbound]

/-- Every bucket is read back from its text, but without the bounds that are written as `null`, if
its floating-point bounds are read back. -/
theorem readText_compact {ρ : FloatReader} {b : Bucket}
    (hfloats : ρ.RestoresAll b.node.toJson.floats) :
    decoder.readText ρ b.node.toJson.compact = .ok b.held.nonnull := by
  rw [← floats_held] at hfloats
  rw [← compact_held]
  exact (b.held.nonnull_reads.readText b.fits_held.1 hfloats).1
    (Nat.le_trans b.fits_held.2 (by decide))

/-- A bucket stays as it is if no bound of it is written as `null` or as another number. -/
theorem nonnull_held_eq_self_iff {b : Bucket} : b.held.nonnull = b ↔
    ∀ s, b.ge = some s ∨ b.lt = some s → s ≠ .null ∧ s.node.Faithful := by
  have hbound : ∀ v : Option Scalar, (v.map Scalar.held).filter (· ≠ .null) = v ↔
      ∀ s, v = some s → s ≠ .null ∧ s.node.Faithful := by
    intro v
    cases v with
    | none => simp
    | some s =>
      rw [Option.filter_eq_some_iff, Option.map_some, Option.some_inj, Scalar.held_eq_self_iff,
        decide_eq_true_iff, and_comm]
      simp
  have hparts : b.held.nonnull = b ↔ (b.ge.map Scalar.held).filter (· ≠ .null) = b.ge ∧
      (b.lt.map Scalar.held).filter (· ≠ .null) = b.lt := by
    obtain ⟨name, label, anchor, ge, geAnchor, lt, ltAnchor⟩ := b
    simp [held, nonnull]
  rw [hparts, hbound, hbound]
  constructor
  · rintro ⟨hge, hlt⟩ s (hs | hs)
    · exact hge s hs
    · exact hlt s hs
  · intro h
    exact ⟨fun s hs => h s (.inl hs), fun s hs => h s (.inr hs)⟩

end Bucket

/-! ## Bounds and arguments -/

/-- The literals of which an argument may make a bound. -/
def Argument.boundValues : Argument → List Scalar
  | .anchor p => p.value
  | a => a.scalar?.toList

theorem Argument.mem_boundValues {a : Argument} {v : Scalar} (h : a.scalar? = some v) :
    v ∈ a.boundValues := by
  cases a with
  | anchor => cases h
  | _ => simp [boundValues, h]

theorem Argument.IsBound.mem_boundValues {a : Argument} {x : Build.Bound} (h : a.IsBound x) :
    x.value ∈ a.boundValues := by
  cases h with
  | literal h => exact Argument.mem_boundValues h
  | anchored h => simp [boundValues, h]

namespace Build

variable {args rest : List Argument} {built : BuiltBucket}

theorem mem_of_oneBound {b c : Bucket} {v w s : Scalar} (hge : b.ge = none) (hlt : b.lt = none)
    (h : oneBound b v w = some c) (hs : c.ge = some s ∨ c.lt = some s) : s = v ∨ s = w := by
  obtain ⟨t, ht, rfl | rfl⟩ := oneBound_cases h
  · obtain rfl : t = s := by simpa [hlt] using hs
    exact ht
  · obtain rfl : t = s := by simpa [hge] using hs
    exact ht

theorem mem_of_twoBounds {b c : Bucket} {x y : Bound} {t s : Scalar}
    (h : twoBounds b x t y = some c) (hs : c.ge = some s ∨ c.lt = some s) :
    s = x.value ∨ s = y.value := by
  obtain ⟨lower, upper, horder, rfl⟩ := twoBounds_cases h
  obtain ⟨rfl, rfl⟩ | ⟨rfl, rfl⟩ := horder
  · exact hs.imp (fun h => (Option.some.inj h).symm) fun h => (Option.some.inj h).symm
  · exact hs.symm.imp (fun h => (Option.some.inj h).symm) fun h => (Option.some.inj h).symm

/-- Every bound comes from an argument. -/
theorem BucketForm.mem_boundValues {name : String} {s : Scalar}
    (h : BucketForm (.named name) rest built)
    (hs : built.content.ge = some s ∨ built.content.lt = some s) :
    ∃ a ∈ rest, s ∈ a.boundValues := by
  cases h with
  | @oneOfLiterals a a' v w c ha ha' h =>
    obtain rfl | rfl := mem_of_oneBound rfl rfl h hs
    · exact ⟨a, by simp, mem_boundValues ha⟩
    · exact ⟨a', by simp, mem_boundValues ha'⟩
  | @twoOfBounds a t a' x y w c ha ht ha' h =>
    rw [BuiltBucket.content_ite] at hs
    obtain rfl | rfl := mem_of_twoBounds h hs
    · exact ⟨a, by simp, ha.mem_boundValues⟩
    · exact ⟨a', by simp, ha'.mem_boundValues⟩
  | @oneOfValues p v w c hp h =>
    refine ⟨.anchor p, by simp, ?_⟩
    obtain rfl | rfl := mem_of_oneBound rfl rfl h hs <;> simp [boundValues, hp]
  | @twoOfValues p v t w more c hp h =>
    refine ⟨.anchor p, by simp, ?_⟩
    obtain rfl | rfl := mem_of_twoBounds h hs <;> simp [boundValues, hp]

/-- A bucket of which the floating-point bounds are read back is read back from its text with the
bounds that are written as something else than `null`, so as the same bucket exactly if no bound is
`null` or a number of a kind that texts are not read as, and always if there is none such among the
arguments. -/
theorem bucket_restored {ρ : FloatReader} (h : bucket args = .ok built)
    (hfloats : ρ.RestoresAll built.content.node.toJson.floats) :
    let b := built.content
    Bucket.decoder.readText ρ b.node.toJson.compact = .ok b.held.nonnull ∧
    (Bucket.decoder.readText ρ b.node.toJson.compact = .ok b ↔
      ∀ s, b.ge = some s ∨ b.lt = some s → s ≠ .null ∧ s.node.Faithful) ∧
    ((∀ a ∈ spliceSole args, ∀ s ∈ a.boundValues, s ≠ .null ∧ s.node.Faithful) →
      Bucket.decoder.readText ρ b.node.toJson.compact = .ok b) := by
  intro b
  have hread := Bucket.readText_compact hfloats
  have hsame : Bucket.decoder.readText ρ b.node.toJson.compact = .ok b ↔
      ∀ s, b.ge = some s ∨ b.lt = some s → s ≠ .null ∧ s.node.Faithful := by
    rw [hread, Except.ok.injEq, Bucket.nonnull_held_eq_self_iff]
  refine ⟨hread, hsame, fun hargs => hsame.2 fun s hs => ?_⟩
  obtain ⟨name, rest, hsplice, hform⟩ := bucket_eq_ok_iff.1 h
  obtain ⟨a, ha, hvalue⟩ := hform.mem_boundValues hs
  exact hargs a (hsplice ▸ List.mem_cons_of_mem _ ha) s hvalue

/-- A bound from a point of reference, and a half as the other bound. -/
theorem bucket_restored_anchored :
    let half : Binary64 := .finite false ⟨1022 * 2 ^ 52, by decide⟩
    let start : Anchor := ⟨"now", [.text "-P1D"]⟩
    let args := [.text "recent", .anchor start, .text "<", .number (.float half)]
    ∃ built, bucket args = .ok built ∧ built.content.ge = some (.text "-P1D") ∧
      built.content.lt = some (.number (.float half)) ∧
      FloatReader.quick.RestoresAll built.content.node.toJson.floats ∧
      Bucket.decoder.readText .quick built.content.node.toJson.compact = .ok built.content := by
  intro half start args
  have hbuilt : ∃ built, bucket args = .ok built ∧ built.content.ge = some (.text "-P1D") ∧
      built.content.lt = some (.number (.float half)) ∧
      built.content.node.toJson.floats = [half] := ⟨_, rfl, rfl, rfl, rfl⟩
  obtain ⟨built, h, hge, hlt, hhalf⟩ := hbuilt
  have hfloats : FloatReader.quick.RestoresAll built.content.node.toJson.floats :=
    hhalf ▸ FloatReader.restoresAll_quick_half
  obtain ⟨-, -, hrestored⟩ := bucket_restored h hfloats
  refine ⟨built, h, hge, hlt, hfloats, hrestored ?_⟩
  have htext : ∀ t : String, ∀ s ∈ (Argument.text t).boundValues, s ≠ .null ∧ s.node.Faithful :=
    fun t => List.forall_mem_singleton.2 ⟨nofun, trivial⟩
  have hstart : ∀ s ∈ (Argument.anchor start).boundValues, s ≠ .null ∧ s.node.Faithful :=
    List.forall_mem_singleton.2 ⟨nofun, trivial⟩
  have hnumber : ∀ s ∈ (Argument.number (.float half)).boundValues, s ≠ .null ∧ s.node.Faithful :=
    List.forall_mem_singleton.2 ⟨nofun, Number.faithful_float rfl⟩
  intro a ha
  simp only [args, spliceSole, List.mem_cons, List.not_mem_nil, or_false] at ha
  obtain rfl | rfl | rfl | rfl := ha
  · exact htext "recent"
  · exact hstart
  · exact htext "<"
  · exact hnumber

/-- A bound that is the literal `null` is written, and then read as no bound at all. -/
theorem not_restored_bucket_null :
    let b : Bucket := { Bucket.named "none" with lt := some .null }
    bucket [.text "none", .text "<", .null] = .ok (.literal b) ∧
      b.node.toJson =
        .object [("name", .string "none"), ("label", .string "none"), ("lt", .null)] ∧
      Bucket.decoder.readText .quick b.node.toJson.compact = .ok (.named "none") ∧
      Bucket.decoder.readText .quick b.node.toJson.compact ≠ .ok b := by
  intro b
  have hnone : b.node.toJson.floats = [] := rfl
  have hread : Bucket.decoder.readText .quick b.node.toJson.compact = .ok (.named "none") :=
    Bucket.readText_compact (hnone ▸ FloatReader.restoresAll_nil)
  refine ⟨rfl, rfl, hread, fun hsame => ?_⟩
  have hbucket : Bucket.named "none" = b := Except.ok.inj (hread.symm.trans hsame)
  have hlt : none = some Scalar.null := congrArg Bucket.lt hbucket
  cases hlt

end Build

end SearchRequest
