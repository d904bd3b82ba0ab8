-- Strings of JSON documents read back. Each escape is one piece again, and the pieces join to the
-- characters that were escaped: no character is written as half of a surrogate pair.
import Predefined.Json.Printer
import Predefined.Json.Reader

namespace Predefined.Json

theorem unit?_lowerDigit :
    ∀ n < 0x20, unit? '0' '0' (Hex.lowerDigit (n / 16)) (Hex.lowerDigit (n % 16)) = some n := by
  decide

/-- A piece that stands for a character. -/
def Piece.StandsFor (p : Piece) (c : Char) : Prop :=
  ∀ ps cs, join ps = some cs → join (p :: ps) = some (c :: cs)

theorem standsFor_char (c : Char) : (Piece.char c).StandsFor c := by
  intro ps cs h
  rw [join, h]
  rfl

/-- A control character is no half of a surrogate pair. -/
theorem standsFor_unit {c : Char} (h : c.toNat < 0x20) : (Piece.unit c.toNat).StandsFor c := by
  intro ps cs hjoin
  have hhigh : isHighSurrogate c.toNat = false := by
    simp [isHighSurrogate]
    omega
  have hlow : isLowSurrogate c.toNat = false := by
    simp [isLowSurrogate]
    omega
  unfold join
  rw [hhigh, hlow, hjoin, if_neg Bool.false_ne_true, if_neg Bool.false_ne_true, Option.map_some,
    Char.ofNat_toNat]

/-- A character is escaped by a letter or by its number, or it stands for itself. -/
theorem escape_forms (c : Char) :
    (∃ e, e ≠ 'u' ∧ unescape? e = some c ∧ escape c = ['\\', e]) ∨
    (c.toNat < 0x20 ∧ escape c =
      ['\\', 'u', '0', '0', Hex.lowerDigit (c.toNat / 16), Hex.lowerDigit (c.toNat % 16)]) ∨
    (c ≠ '"' ∧ c ≠ '\\' ∧ ¬ c.toNat < 0x20 ∧ escape c = [c]) := by
  by_cases h : c ∈ ['"', '\\', '\x08', '\x0c', '\n', '\r', '\t']
  · left
    simp only [List.mem_cons, List.not_mem_nil, or_false] at h
    rcases h with rfl | rfl | rfl | rfl | rfl | rfl | rfl
    · exact ⟨'"', by decide, rfl, rfl⟩
    · exact ⟨'\\', by decide, rfl, rfl⟩
    · exact ⟨'b', by decide, rfl, rfl⟩
    · exact ⟨'f', by decide, rfl, rfl⟩
    · exact ⟨'n', by decide, rfl, rfl⟩
    · exact ⟨'r', by decide, rfl, rfl⟩
    · exact ⟨'t', by decide, rfl, rfl⟩
  · right
    simp only [List.mem_cons, List.not_mem_nil, or_false, not_or] at h
    obtain ⟨hquote, hbackslash, hb, hf, hn, hr, ht⟩ := h
    by_cases hcontrol : c.toNat < 0x20
    · left
      simp [escape, *]
    · right
      simp [escape, *]

/-- What a character is written as is one piece, which stands for the character. -/
theorem pieces_escape (c : Char) {s tail : List Char} {ps : List Piece}
    (h : pieces s = some (ps, tail)) :
    ∃ p : Piece, pieces (escape c ++ s) = some (p :: ps, tail) ∧ p.StandsFor c := by
  rcases escape_forms c with ⟨e, hu, he, hescape⟩ | ⟨hcontrol, hescape⟩ |
    ⟨hquote, hbackslash, hcontrol, hescape⟩
  · refine ⟨.char c, ?_, standsFor_char c⟩
    rw [hescape]
    simp [pieces, hu, he, h]
  · refine ⟨.unit c.toNat, ?_, standsFor_unit hcontrol⟩
    rw [hescape]
    simp [pieces, unit?_lowerDigit _ hcontrol, h]
  · refine ⟨.char c, ?_, standsFor_char c⟩
    rw [hescape]
    simp [pieces, hbackslash, hcontrol, h]

theorem pieces_escapes (s rest : List Char) :
    ∃ ps, pieces (s.flatMap escape ++ '"' :: rest) = some (ps, rest) ∧ join ps = some s := by
  induction s with
  | nil => exact ⟨[], by simp [pieces], rfl⟩
  | cons c s ih =>
    obtain ⟨ps, hpieces, hjoin⟩ := ih
    obtain ⟨p, hp, hstands⟩ := pieces_escape c hpieces
    refine ⟨p :: ps, ?_, hstands ps s hjoin⟩
    rw [List.flatMap_cons, List.append_assoc, hp]

/-- A string is read up to its closing quotation mark, be it one that stands for no text. -/
theorem readQuoted_chars (q : Quoted) :
    ∃ body, q.chars = '"' :: body ∧ ∀ rest, readQuoted (body ++ rest) = some (q, rest) := by
  cases q with
  | none =>
    refine ⟨['\\', 'u', 'd', '8', '0', '0', '"'], rfl, fun rest => ?_⟩
    rfl
  | some s =>
    refine ⟨s.toList.flatMap escape ++ ['"'], rfl, fun rest => ?_⟩
    obtain ⟨ps, hpieces, hjoin⟩ := pieces_escapes s.toList rest
    rw [List.append_assoc, List.singleton_append, readQuoted, hpieces]
    simp only [Option.map_some, hjoin, String.ofList_toList]

end Predefined.Json
