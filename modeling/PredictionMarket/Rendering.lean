import PredictionMarket.Binding
import PredictionMarket.PatternEngine
import PredictionMarket.Placeholder

/-!
# Rendering

A template text is cut at the slots of a binding: the places where a key of the binding
stands between double braces. Of several keys that fit at one place the first in order
is taken, and the next slot is looked for behind the last one. The text is then joined
again with the values in the slots; what comes from a value is never looked at.

In strict mode a placeholder that is left in the text between slots is a failure. Before anything
is rendered the keys are compiled into a pattern, which fails when the pattern is too large.
-/

namespace PredictionMarket

/-- A text cut at its slots: the text before the first slot, and each slot with the text
that follows it. -/
structure Cut where
  lead : List Char
  slots : List (String × List Char)
deriving DecidableEq

namespace Cut

/-- The first of the keys that stands in a slot with which a text begins. -/
def slotAt? (keys : List String) (text : List Char) : Option String :=
  keys.find? fun key => (Placeholder.token key.toList).isPrefixOf text

/-- Cuts a text at the slots of keys, after as many characters as are to be skipped. -/
def afterSkip (keys : List String) : Nat → List Char → Cut
  | _, [] => ⟨[], []⟩
  | skip + 1, _ :: rest => afterSkip keys skip rest
  | 0, c :: rest =>
    match slotAt? keys (c :: rest) with
    | some key =>
      let later := afterSkip keys (key.length + 3) rest
      ⟨[], (key, later.lead) :: later.slots⟩
    | none =>
      let later := afterSkip keys 0 rest
      ⟨c :: later.lead, later.slots⟩

/-- Cuts a text at the slots of keys. -/
def ofText (keys : List String) (text : List Char) : Cut := afterSkip keys 0 text

/-- The stretches of text between the slots. -/
def stretches (cut : Cut) : List (List Char) := cut.lead :: cut.slots.map (·.2)

/-- The text with every slot replaced by the value of its key. -/
def fill (cut : Cut) (value : String → List Char) : List Char :=
  cut.lead ++ cut.slots.flatMap fun slot => value slot.1 ++ slot.2

/-- The name of the first placeholder that is left between the slots. -/
def unresolved? (cut : Cut) : Option (List Char) :=
  cut.stretches.findSome? fun stretch => (Placeholder.names stretch).head?

end Cut

/-- How template texts are rendered. -/
structure Renderer where
  binding : Binding
  /-- Whether a placeholder without a value is a failure. -/
  strict : Bool

namespace Renderer

/-- The renderer of a binding, if the pattern of its keys can be compiled. -/
def make (engine : PatternEngine) (binding : Binding) (strict : Bool) : Except Failure Renderer :=
  if engine.admits binding then .ok ⟨binding, strict⟩ else .error .patternTooLarge

/-- A template text cut at the slots of the binding. -/
def cut (renderer : Renderer) (text : String) : Cut :=
  .ofText renderer.binding.keys text.toList

/-- A template text with the values of the binding in its slots. -/
def apply (renderer : Renderer) (text : String) : String :=
  String.ofList <| (renderer.cut text).fill fun key =>
    ((renderer.binding.find? key).getD "").toList

/-- The text of a field. In strict mode a placeholder without a value is a failure, which
names the field. -/
def applyField (renderer : Renderer) (text field : String) : Except Failure String :=
  match (renderer.cut text).unresolved?, renderer.strict with
  | some name, true =>
    .error (.unresolvedPlaceholder (String.ofList (Placeholder.token name)) field)
  | _, _ => .ok (renderer.apply text)

end Renderer

/-- A single text with the values of a binding in its slots. -/
def substitute (engine : PatternEngine) (text : String) (binding : Binding) :
    Except Failure String := do
  let renderer ← Renderer.make engine binding false
  return renderer.apply text

end PredictionMarket
