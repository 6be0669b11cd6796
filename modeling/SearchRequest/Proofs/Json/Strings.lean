import Mathlib.Tactic
import SearchRequest.Json.Parser
import SearchRequest.Json.Printer

/-!
# Strings in JSON text

* `Json.Parser.exists_pieces` — the escaped characters of a string are taken apart and put together
  again.
* `Json.Parser.string_stringChars` — the text of a string is read as that string.
-/

namespace SearchRequest.Json.Parser

/-! ## Pieces -/

theorem pieces_escape {c e : Char} {cs : List Char} (hu : e ≠ 'u') (h : simpleEscape? e = some c) :
    pieces ('\\' :: e :: cs) =
      (.char c :: (pieces cs).1, (pieces cs).2.1, (pieces cs).2.2) := by
  rw [pieces]
  · simp only [h]
  · exact hu

theorem pieces_unit {a b c d : Char} {n : Nat} {cs : List Char}
    (h : hexValue4? a b c d = some n) :
    pieces ('\\' :: 'u' :: a :: b :: c :: d :: cs) =
      (.unit n :: (pieces cs).1, (pieces cs).2.1, (pieces cs).2.2) := by
  simp only [pieces, h]

theorem pieces_plain {c : Char} {cs : List Char} (hquote : c ≠ '"') (hslash : c ≠ '\\')
    (h : ¬ c.toNat < 0x20) :
    pieces (c :: cs) = (.char c :: (pieces cs).1, (pieces cs).2.1, (pieces cs).2.2) := by
  rw [pieces]
  · simp only [h, if_false]
  all_goals simp_all

/-! ## Controls -/

theorem hexValue?_hexDigit {d : Nat} (h : d < 16) : hexValue? (Text.hexDigit d) = some d := by
  have hall : ∀ d : Fin 16, hexValue? (Text.hexDigit d) = some d.val := by decide
  exact hall ⟨d, h⟩

theorem hexValue4?_control {n : Nat} (h : n < 0x20) :
    hexValue4? '0' '0' (Text.hexDigit (n / 16)) (Text.hexDigit (n % 16)) = some n := by
  have hzero : hexValue? '0' = some 0 := rfl
  have hhigh := hexValue?_hexDigit (d := n / 16) (by omega)
  have hlow := hexValue?_hexDigit (d := n % 16) (by omega)
  simp only [hexValue4?, hzero, hhigh, hlow, Option.bind_eq_bind, Option.bind_some,
    Option.some.injEq]
  omega

theorem assemble_control {ps : List Piece} {cs : List Char} {c : Char} (h : c.toNat < 0x20)
    (hps : assemble .closed ps = .ok cs) :
    assemble .closed (.unit c.toNat :: ps) = .ok (c :: cs) := by
  have hlow : isLowHalf c.toNat = false := by
    simp only [isLowHalf, Bool.and_eq_false_iff, decide_eq_false_iff_not]
    omega
  have hhigh : isHighHalf c.toNat = false := by
    simp only [isHighHalf, Bool.and_eq_false_iff, decide_eq_false_iff_not]
    omega
  unfold assemble
  rw [if_neg (by simp [hlow]), if_neg (by simp [hhigh]), hps, Char.ofNat_toNat]
  rfl

theorem assemble_char {ps : List Piece} {cs : List Char} (c : Char)
    (hps : assemble .closed ps = .ok cs) :
    assemble .closed (.char c :: ps) = .ok (c :: cs) := by
  unfold assemble
  rw [hps]
  rfl

/-! ## Strings -/

/-- A character is escaped by a letter, by its number, or not at all. -/
theorem escapedChar_cases (c : Char) :
    (∃ e, e ≠ 'u' ∧ simpleEscape? e = some c ∧ escapedChar c = ['\\', e]) ∨
    (c.toNat < 0x20 ∧ escapedChar c =
      ['\\', 'u', '0', '0', Text.hexDigit (c.toNat / 16), Text.hexDigit (c.toNat % 16)]) ∨
    (c ≠ '"' ∧ c ≠ '\\' ∧ ¬ c.toNat < 0x20 ∧ escapedChar c = [c]) := by
  unfold escapedChar
  split_ifs with hquote hslash h₃ h₄ h₅ h₆ h₇ hcontrol
  · exact .inl ⟨'"', by decide, by rw [hquote]; rfl, rfl⟩
  · exact .inl ⟨'\\', by decide, by rw [hslash]; rfl, rfl⟩
  · exact .inl ⟨'n', by decide, by rw [h₃]; rfl, rfl⟩
  · exact .inl ⟨'r', by decide, by rw [h₄]; rfl, rfl⟩
  · exact .inl ⟨'t', by decide, by rw [h₅]; rfl, rfl⟩
  · exact .inl ⟨'b', by decide, by rw [h₆]; rfl, rfl⟩
  · exact .inl ⟨'f', by decide, by rw [h₇]; rfl, rfl⟩
  · exact .inr (.inl ⟨hcontrol, rfl⟩)
  · exact .inr (.inr ⟨hquote, hslash, hcontrol, rfl⟩)

/-- The escaped characters of a string are taken apart and put together again. -/
theorem exists_pieces (cs rest : List Char) :
    ∃ ps, pieces (cs.flatMap escapedChar ++ '"' :: rest) = (ps, .closed, rest) ∧
      assemble .closed ps = .ok cs := by
  induction cs with
  | nil => exact ⟨[], rfl, rfl⟩
  | cons c cs ih =>
    obtain ⟨ps, hps, hcs⟩ := ih
    rw [List.flatMap_cons, List.append_assoc]
    rcases escapedChar_cases c with ⟨e, hu, he, htext⟩ | ⟨hcontrol, htext⟩ | ⟨hq, hs, hc, htext⟩
    · refine ⟨.char c :: ps, ?_, assemble_char c hcs⟩
      rw [htext, List.cons_append, List.cons_append, List.nil_append, pieces_escape hu he, hps]
    · refine ⟨.unit c.toNat :: ps, ?_, assemble_control hcontrol hcs⟩
      rw [htext]
      simp only [List.cons_append, List.nil_append]
      rw [pieces_unit (hexValue4?_control hcontrol), hps]
    · refine ⟨.char c :: ps, ?_, assemble_char c hcs⟩
      rw [htext, List.cons_append, List.nil_append, pieces_plain hq hs hc, hps]

/-- The text of a string is read as that string. -/
theorem string_stringChars (s : String) (rest : List Char) :
    string (s.toList.flatMap escapedChar ++ '"' :: rest) = (.string s, some rest) := by
  obtain ⟨ps, hps, hcs⟩ := exists_pieces s.toList rest
  simp only [string, hps, hcs, String.ofList_toList]

end SearchRequest.Json.Parser
