import PredictionMarket.Dict

/-!
# Pattern engines

The keys of a binding are looked for with one pattern, in which they are the alternatives. What the
pattern finds is settled by the keys alone (`Cut`), but whether it can be compiled is up to the
engine: it limits the size of a compiled pattern. The limit is wide enough for the keys that are
usual, and nothing else is known of it.
-/

namespace PredictionMarket

/-- The bytes that keys take as the alternatives of a pattern, each with a divider. -/
def alternationSize : List String → Nat
  | [] => 0
  | key :: keys => key.utf8ByteSize + 1 + alternationSize keys

section AlternationSize

variable {keys all : List String}

/-- Keys in another order take as many bytes. -/
theorem alternationSize_of_perm (perm : keys.Perm all) :
    alternationSize keys = alternationSize all := by
  induction perm with
  | nil => rfl
  | cons key _ inductionHypothesis => rw [alternationSize, alternationSize, inductionHypothesis]
  | swap key other keys =>
    simp only [alternationSize]
    omega
  | trans _ _ first second => exact first.trans second

/-- Leaving keys out takes no more bytes. -/
theorem alternationSize_le_of_sublist (sublist : keys.Sublist all) :
    alternationSize keys ≤ alternationSize all := by
  induction sublist with
  | slnil => exact Nat.le_refl _
  | cons key _ inductionHypothesis => exact Nat.le_add_left_of_le inductionHypothesis
  | cons_cons key _ inductionHypothesis => exact Nat.add_le_add_left inductionHypothesis _

end AlternationSize

/-- The size of alternatives that every engine admits. -/
def ampleSize : Nat := 4096

/-- What compiles patterns. -/
structure PatternEngine where
  /-- Whether the pattern with these keys as alternatives stays within the limit on its size. -/
  compiles : List String → Bool
  /-- The limit is not in the way of few and short keys. -/
  compiles_of_ample : ∀ keys, alternationSize keys ≤ ampleSize → compiles keys = true

namespace PatternEngine

/-- An engine that limits the size of the alternatives. -/
def ofLimit (limit : Nat) (ample : ampleSize ≤ limit) : PatternEngine where
  compiles keys := alternationSize keys ≤ limit
  compiles_of_ample _ fits := decide_eq_true (Nat.le_trans fits ample)

/-- The usual engine: ten mebibytes for a pattern, of which each byte of a key takes 32. -/
def standard : PatternEngine := ofLimit 327680 (by decide)

/-- Whether the keys of a dictionary can be looked for. Without keys there is no pattern. -/
def admits {α : Type} (engine : PatternEngine) (dict : Dict α) : Bool :=
  dict.isEmpty || engine.compiles dict.keys

end PatternEngine

end PredictionMarket
