import PredictionMarket.Json.Plain
import PredictionMarket.Proofs.Decimal.Canonical

/-!
# Two notations of one value

Running text and JSON both write the shortest decimal of a binary64 value, but JSON adds `.0` to
an integer, writes large and small values with a power of ten, and sends ties to the even
decimal. Those are all the differences (`plainText_eq_text_iff`).
-/

namespace PredictionMarket

open Decimal

namespace Decimal

/-- A point stands in the positional text of a decimal with places only. -/
theorem point_mem_positionalText_iff {n : Nat} {exponent : Int} :
    '.' ∈ positionalText (digits n) exponent ↔ exponent < 0 := by
  rcases positionalText_cases (digits_ne_nil n) exponent with
    ⟨zeros, rfl, written⟩ | ⟨zeros, before, behind, joined, -, -, nonempty, rfl, written⟩
  · have allDigits := (allDigits_digits n).append (.replicate_zero zeros)
    rw [written]
    constructor
    · intro point
      cases allDigits '.' point
    · omega
  · have places := List.length_pos_iff.2 nonempty
    rw [written]
    exact ⟨fun _ => by omega, fun _ => by simp⟩

namespace Double

variable {value : Double}

/-- No point stands in the text of an integer that is written exactly. -/
theorem point_not_mem_plainText
    (exact : (value.isIntegral && value.absLessThan exactIntegralBound) = true) :
    '.' ∉ value.plainText := by
  rw [plainText, if_pos exact, List.mem_append, not_or]
  constructor
  · cases value.negative <;> decide
  · intro point
    cases allDigits_digits _ '.' point

/-- Any other value is written in full and is not zero. -/
theorem plainText_of_inFull
    (inFull : ¬ (value.isIntegral && value.absLessThan exactIntegralBound) = true) :
    value.isZero = false ∧ value.plainText = (if value.negative then ['-'] else []) ++
      positionalText (digits (value.shortest .up).coefficient) (value.shortest .up).exponent := by
  have nonzero : value.isZero = false :=
    Bool.eq_false_iff.2 fun isZero => inFull (isIntegral_of_isZero isZero)
  rw [plainText, if_neg inFull, text_plainNumeral nonzero]
  exact ⟨nonzero, rfl⟩

/-- JSON writes an absolute value that is not zero with a power of ten, or as the positional text
of its shortest decimal, with a fraction. -/
theorem magnitude_numeral (value : Double) :
    'e' ∈ Json.numeral.magnitude value ∨
      Json.numeral.magnitude value =
        positionalText (digits (value.shortest .toEven).coefficient)
            (value.shortest .toEven).exponent ++
          if 0 ≤ (value.shortest .toEven).exponent then ['.', '0'] else [] := by
  unfold NumeralStyle.magnitude
  dsimp only [Json.numeral]
  split
  · exact .inr (by simp)
  · exact .inl (List.mem_append_right _ List.mem_cons_self)

/-- A JSON numeral without power of ten that does not end in `.0` is the positional text of a
decimal with places. -/
theorem text_numeral_of_places (noPower : 'e' ∉ Json.numeral.text value)
    (notPointed : ¬ ['.', '0'] <:+ Json.numeral.text value) :
    value.isZero = false ∧ (value.shortest .toEven).exponent < 0 ∧
      Json.numeral.text value = (if value.negative then ['-'] else []) ++
        positionalText (digits (value.shortest .toEven).coefficient)
          (value.shortest .toEven).exponent := by
  have nonzero : value.isZero = false := by
    refine Bool.eq_false_iff.2 fun isZero => notPointed ?_
    rw [NumeralStyle.text, isZero]
    cases value.negative
    · exact ⟨['0'], rfl⟩
    · exact ⟨['-', '0'], rfl⟩
  have signed : Json.numeral.text value =
      (if value.negative then ['-'] else []) ++ Json.numeral.magnitude value := by
    rw [NumeralStyle.text, nonzero]
    cases value.negative <;> rfl
  rw [signed] at noPower notPointed ⊢
  have positional := value.magnitude_numeral.resolve_left
    fun power => noPower (List.mem_append_right _ power)
  rw [positional] at notPointed ⊢
  have places : ¬ 0 ≤ (value.shortest .toEven).exponent := by
    intro whole
    rw [if_pos whole, ← List.append_assoc] at notPointed
    exact notPointed (List.suffix_append _ _)
  rw [if_neg places, List.append_nil]
  exact ⟨nonzero, not_le.1 places, rfl⟩

/-- The plain text of a value does not end in `.0`. -/
theorem not_pointed_plainText (value : Double) : ¬ ['.', '0'] <:+ value.plainText := by
  intro pointed
  have point := pointed.subset List.mem_cons_self
  by_cases exact : (value.isIntegral && value.absLessThan exactIntegralBound) = true
  · exact point_not_mem_plainText exact point
  · obtain ⟨nonzero, written⟩ := plainText_of_inFull exact
    rw [written] at point pointed
    have noSign : '.' ∉ if value.negative then ['-'] else [] := by
      cases value.negative <;> decide
    have inDecimal := (List.mem_append.1 point).resolve_left noSign
    have endsInZero := (List.suffix_append ['.'] ['0']).trans pointed
    refine (canonical_shortest nonzero .up).not_zero_suffix_positionalText
      (point_mem_positionalText_iff.1 inDecimal) ?_
    exact List.suffix_of_suffix_length_le endsInZero (List.suffix_append _ _)
      (List.length_pos_iff.2 (List.ne_nil_of_mem inDecimal))

/-- Running text and JSON write a value alike exactly when JSON uses no power of ten, does not
add `.0`, and either way of settling a tie gives the same shortest decimal. -/
theorem plainText_eq_text_iff (value : Double) :
    value.plainText = Json.numeral.text value ↔
      'e' ∉ Json.numeral.text value ∧ ¬ ['.', '0'] <:+ Json.numeral.text value ∧
        value.shortest .toEven = value.shortest .up := by
  constructor
  · intro same
    have noPower : 'e' ∉ Json.numeral.text value := by
      intro power
      rw [← same] at power
      obtain ⟨text, literal, shown, plain, read, -⟩ := value.exists_plainText
      obtain ⟨signedPlain, -⟩ := Literal.ofText?_sign_append value.negative plain read
      exact absurd (signedPlain 'e' (shown ▸ power)) (by decide)
    have notPointed : ¬ ['.', '0'] <:+ Json.numeral.text value :=
      same ▸ value.not_pointed_plainText
    obtain ⟨nonzero, places, written⟩ := text_numeral_of_places noPower notPointed
    have inFull : ¬ (value.isIntegral && value.absLessThan exactIntegralBound) = true := by
      intro exact
      refine point_not_mem_plainText exact ?_
      rw [same, written]
      exact List.mem_append_right _ (point_mem_positionalText_iff.2 places)
    rw [(plainText_of_inFull inFull).2, written] at same
    refine ⟨noPower, notPointed, Eq.symm ?_⟩
    exact (canonical_shortest nonzero .up).eq_of_positionalText_eq
      (canonical_shortest nonzero .toEven) (value.rounds_shortest .up).1
      (value.rounds_shortest .toEven).1 (List.append_cancel_left same)
  · rintro ⟨noPower, notPointed, sameDecimal⟩
    obtain ⟨nonzero, places, written⟩ := text_numeral_of_places noPower notPointed
    have inFull : ¬ (value.isIntegral && value.absLessThan exactIntegralBound) = true := by
      intro exact
      obtain ⟨integral, small⟩ := Bool.and_eq_true_iff.1 exact
      exact absurd (exponent_shortest_nonneg nonzero integral small .toEven) (not_le.2 places)
    rw [(plainText_of_inFull inFull).2, written, sameDecimal]

end Double

end Decimal

end PredictionMarket
