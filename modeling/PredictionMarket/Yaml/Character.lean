/-!
# Characters in YAML

The classes of characters that the YAML grammar speaks of: line breaks, blanks inside a
line, characters that a text may hold at all, and indicators.
-/

namespace PredictionMarket.Yaml

/-- Whether a character ends a line. A carriage return before a line feed ends it together
with the line feed. -/
def isBreak (c : Char) : Bool :=
  c == '\n' || c == '\r' || c == '\u0085' || c == '\u2028' || c == '\u2029'

/-- Whether a character is a space or a tab. -/
def isSpace (c : Char) : Bool := c == ' ' || c == '\t'

/-- Whether what follows is a space, a tab, a line break or the end of the text. -/
def endsWord : List Char → Bool
  | [] => true
  | c :: _ => isSpace c || isBreak c

/-- Whether a text may hold a character as it is. -/
def isAllowed (c : Char) : Bool :=
  c == '\t' || c == '\n' || c == '\r' || (' ' ≤ c && c ≤ '~') || c == '\u0085' ||
    ('\u00a0' ≤ c && c ≤ '\ufffd') || 0x10000 ≤ c.toNat

/-- The mark that may stand before the text of a line; elsewhere it is a character like
any other. -/
def byteOrderMark : Char := '\ufeff'

/-- Whether a character may stand in the name of an anchor. -/
def isNameCharacter (c : Char) : Bool := c.isAlphanum || c == '_' || c == '-'

/-- Whether a character opens or divides collections in flow style. -/
def isFlowIndicator (c : Char) : Bool :=
  c == ',' || c == '[' || c == ']' || c == '\x7b' || c == '\x7d'

/-- Whether a character has a meaning of its own at the start of a node. -/
def isIndicator (c : Char) : Bool :=
  c == '-' || c == '?' || c == ':' || isFlowIndicator c || c == '#' || c == '&' || c == '*' ||
    c == '!' || c == '|' || c == '>' || c == '\'' || c == '"' || c == '%' || c == '@' ||
    c == '\x60'

/-- How a line break is kept in a text: every break is a line feed, but for the separators
of lines and paragraphs. -/
def keptBreak (c : Char) : Char := if c == '\u2028' || c == '\u2029' then c else '\n'

/-- Whether a line begins a new document or ends one. -/
def isDocumentMark : List Char → Bool
  | '-' :: '-' :: '-' :: rest => endsWord rest
  | '.' :: '.' :: '.' :: rest => endsWord rest
  | _ => false

end PredictionMarket.Yaml
