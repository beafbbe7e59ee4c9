import DocLint.Markdown.Start

/-!
# Tables

A table is a row of cells over a row of dashes, then any number of rows. The two first rows must have
the same number of cells. `cells` cuts a row into its cells.
-/

namespace DocLint.Markdown.Table

/-- Counts the cells of a head row. `inData` tells that the last character belongs to a cell,
`escaped` that it is a backslash, `fresh` that no cell has begun since the last bar; `marks` counts
bars and words, of which one alone makes no row. -/
def headLoop (inData escaped fresh : Bool) (cells marks : Nat) : Text → Option Nat
  | [] => if 1 < marks then some cells else none
  | c :: cs =>
    if inData && escaped && (c == '\\' || c == '|') then headLoop true false fresh cells marks cs
    else if isSpaceOrTab c then headLoop false false fresh cells marks cs
    else if c == '|' then
      -- A cell counts where it begins, so a bar adds one only for an empty cell.
      headLoop false false true (if fresh then cells + 1 else cells) (marks + 1) cs
    else if inData then headLoop true (c == '\\') fresh cells marks cs
    else headLoop true (c == '\\') false (if fresh then cells + 1 else cells) (marks + 1) cs

def headCells? (p : Cursor) : Option Nat :=
  match p.afterIndent.rest with
  | [] => none
  | c :: cs =>
    if isSpaceOrTab c then none
    else if c == '|' then headLoop false false false 0 0 (c :: cs)
    else headLoop false false true 0 1 (c :: cs)

/-- Where the reader of a row of dashes stands. -/
inductive RulePhase where
  | start
  /-- After a bar. -/
  | cell
  /-- After the colon before dashes. -/
  | colon
  | dashes
  /-- After the colon behind dashes. -/
  | closed
  | space
  deriving DecidableEq, Repr

/-- Reads one character of a row of dashes: the phase, the cells so far, and whether a bar or colon
was seen. -/
def ruleStep (s : RulePhase × Nat × Bool) (c : Char) : Option (RulePhase × Nat × Bool) :=
  let (phase, cells, seen) := s
  let value :=
    if c == '-' then some (RulePhase.dashes, cells + 1, seen)
    else if c == ':' then some (RulePhase.colon, cells + 1, true)
    else none
  match phase with
  | .start => if c == '|' then some (.cell, cells, true) else value
  | .cell => if isSpaceOrTab c then some (.cell, cells, seen) else value
  | .colon => if c == '-' then some (.dashes, cells, seen) else none
  | .dashes =>
    if c == '-' then some (.dashes, cells, seen)
    else if c == ':' then some (.closed, cells, true)
    else after cells seen c
  | .closed | .space => after cells seen c
where
  /-- After the dashes of a cell. -/
  after (cells : Nat) (seen : Bool) (c : Char) : Option (RulePhase × Nat × Bool) :=
    if isSpaceOrTab c then some (.space, cells, seen)
    else if c == '|' then some (.cell, cells, true)
    else none

/-- The number of cells of a row of dashes. Without bar and colon it is no such row. -/
def ruleCells? (p : Cursor) : Option Nat :=
  match p.afterIndent.rest.foldlM ruleStep (.start, 0, false) with
  | some (phase, cells, true) => if phase == .start || phase == .colon then none else some cells
  | _ => none

/-- Cuts a row at its bars. `cell` holds the cell so far, in reverse. -/
def cellLoop (cell : Text) (escaped : Bool) : Text → List Text
  | [] => [cell.reverse]
  | c :: cs =>
    if escaped && (c == '\\' || c == '|') then cellLoop (c :: cell) false cs
    else if c == '|' then cell.reverse :: cellLoop [] false cs
    else cellLoop (c :: cell) (c == '\\') cs

/-- The cells of a row without the space around them. -/
def cells (p : Cursor) : List Text :=
  (cellLoop [] false p.skipAll.rest).map fun t =>
    Text.dropEnd isSpaceOrTab (t.dropWhile isSpaceOrTab)

end DocLint.Markdown.Table
