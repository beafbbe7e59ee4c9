import DocLint.Decoration

/-!
# Finding the line of a block

A block knows the text of its first line, not its position. A `Locator` finds the position again;
it may keep a state between its answers. `Locator.forward` scans the lines of a document from a
given position on.
-/

namespace DocLint

/-- A way to find the line on which a text starts: `locate s needle hint` answers a position, if
any, and the state for the next question. -/
structure Locator (σ : Type) where
  locate : σ → (needle : Text) → (hint : Nat) → Option Nat × σ

namespace Locator

/-- Whether a line shows the words of a needle. A needle without words is shown by every line that
is not blank. -/
def shows (needle line : Text) : Bool :=
  let words := Decoration.strip needle
  if words.isEmpty then !Text.isBlank line else Text.occursIn words (Decoration.strip line)

/-- The position of the first line that shows the needle, where the first line of `lines` has
position `start`. -/
def firstFrom (needle : Text) (start : Nat) : List Text → Option Nat
  | [] => none
  | line :: lines => if shows needle line then some start else firstFrom needle (start + 1) lines

/-- The first position at or after `hint` whose line shows the needle. -/
def scan (index : LineIndex) (needle : Text) (hint : Nat) : Option Nat :=
  firstFrom needle hint (index.lines.drop hint)

/-- The forward scan over the lines of a document. -/
def forward (index : LineIndex) : Locator Unit where
  locate := fun s needle hint => (scan index needle hint, s)

/-- Answers a fixed list of positions one after another, and nothing when the list is used up. -/
def scripted : Locator (List (Option Nat)) where
  locate := fun answers _ _ =>
    match answers with
    | [] => (none, [])
    | answer :: answers => (answer, answers)

end Locator

end DocLint
