import PredictionMarket.Proofs.Text.Trimming
import PredictionMarket.Text.Word

/-!
# Digits, words and blanks

Decimal digits of any script are word characters, and none of them is blank. Two digits in a row
therefore never have the end of a word between them.
-/

namespace PredictionMarket.Text

/-- Whether each of the inner ranges lies in one of the outer ranges. -/
def covers (outer inner : List (Nat × Nat)) : Bool :=
  inner.all fun range => outer.any fun cover =>
    Nat.ble cover.1 range.1 && Nat.ble range.2 cover.2

/-- What lies in the inner ranges lies in the outer ranges that cover them. -/
theorem inRanges_of_covers {outer inner : List (Nat × Nat)} (covered : covers outer inner = true)
    {code : Nat} (inside : inRanges inner code = true) : inRanges outer code = true := by
  simp only [covers, List.all_eq_true, List.any_eq_true, Bool.and_eq_true, Nat.ble_eq] at covered
  simp only [inRanges, List.any_eq_true, Bool.and_eq_true, decide_eq_true_eq] at inside ⊢
  obtain ⟨range, member, lower, upper⟩ := inside
  obtain ⟨cover, isCover, below, above⟩ := covered range member
  exact ⟨cover, isCover, below.trans lower, upper.trans above⟩

/-- A decimal digit of any script is a word character. -/
theorem isWord_of_isNumeral {c : Char} (numeral : isNumeral c = true) : isWord c = true := by
  unfold isNumeral at numeral
  unfold isWord
  split
  · next ascii =>
    rw [if_pos ascii] at numeral
    simp [Char.isAlphanum, numeral]
  · next beyond =>
    rw [if_neg beyond] at numeral
    exact inRanges_of_covers (by decide +kernel : covers wordRanges numeralRanges = true) numeral

/-- The digits of ASCII are decimal digits. -/
theorem isNumeral_of_isDigit {c : Char} (digit : c.isDigit = true) : isNumeral c = true := by
  have upper : c.toNat ≤ 57 := (Char.isDigit_iff_toNat.1 digit).2
  rw [isNumeral, if_pos (by omega), digit]

/-- A blank character is no decimal digit. -/
theorem isNumeral_of_isBlank {c : Char} (blank : isBlank c = true) : isNumeral c = false := by
  simp only [isBlank, Bool.or_eq_true, Bool.and_eq_true, decide_eq_true_eq, beq_iff_eq] at blank
  have between : ∀ first last : Nat, (∀ code ∈ List.range' first (last + 1 - first),
      isNumeral (Char.ofNat code) = false) → first ≤ c.toNat → c.toNat ≤ last →
        isNumeral c = false := by
    intro first last none lower upper
    rw [← Char.ofNat_toNat c]
    exact none _ (List.mem_range'_1.2 ⟨lower, by omega⟩)
  rcases blank with (((((((((⟨lower, upper⟩ | rfl) | rfl) | rfl) | rfl) | ⟨lower, upper⟩) | rfl) |
    rfl) | rfl) | rfl) | rfl
  any_goals decide +kernel
  · exact between 9 13 (by decide +kernel) lower upper
  · exact between 0x2000 0x200a (by decide +kernel) lower upper

end PredictionMarket.Text
