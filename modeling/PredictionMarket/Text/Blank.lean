/-!
# Blank characters

The characters of the Unicode property `White_Space`, and texts without the blank
characters at their ends.
-/

namespace PredictionMarket.Text

/-- Whether a character has the Unicode property `White_Space`. -/
def isBlank (c : Char) : Bool :=
  ('\t' ≤ c && c ≤ '\r') || c == ' ' || c == '\u0085' || c == '\u00a0' || c == '\u1680' ||
    ('\u2000' ≤ c && c ≤ '\u200a') || c == '\u2028' || c == '\u2029' || c == '\u202f' ||
    c == '\u205f' || c == '\u3000'

/-- A list of characters from its first character that is not blank. -/
def trimStart (text : List Char) : List Char := text.dropWhile isBlank

/-- A list of characters up to its last character that is not blank. -/
def trimEnd (text : List Char) : List Char := (trimStart text.reverse).reverse

/-- A list of characters without the blank ones at either end. -/
def trim (text : List Char) : List Char := trimEnd (trimStart text)

end PredictionMarket.Text
