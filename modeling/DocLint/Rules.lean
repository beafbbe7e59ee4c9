import DocLint.Block
import DocLint.Diagnostic
import DocLint.Locate

/-!
# Structural rules

The rules on the blank lines around headers, lists and code, on headers that end a document, and
on code that is empty or never closed. `Layout.place` finds the lines of the blocks one after
another; `Rules.findings` then compares each block with the lines next to it.
-/

namespace DocLint

/-- The structural rules. -/
inductive Rule where
  | emptyFile
  | headerBlankLine
  | headerAtEnd
  | listBlankLineBefore
  | listBlankLineAfter
  | codeBlankLineBefore
  | codeBlankLineAfter
  | codeUnclosed
  deriving DecidableEq, Repr

namespace Rule

def all : List Rule :=
  [.emptyFile, .headerBlankLine, .headerAtEnd, .listBlankLineBefore, .listBlankLineAfter,
    .codeBlankLineBefore, .codeBlankLineAfter, .codeUnclosed]

def id : Rule → Text
  | .emptyFile => "empty-file".toList
  | .headerBlankLine => "header-blank-line".toList
  | .headerAtEnd => "header-at-end".toList
  | .listBlankLineBefore => "list-blank-line-before".toList
  | .listBlankLineAfter => "list-blank-line-after".toList
  | .codeBlankLineBefore => "code-blank-line-before".toList
  | .codeBlankLineAfter => "code-blank-line-after".toList
  | .codeUnclosed => "code-unclosed".toList

/-- What a rule says about a file of the given name. -/
def message (file : Text) : Rule → Text
  | .emptyFile => "The file ".toList ++ file ++ " should not be empty.".toList
  | .headerBlankLine => "Missing an empty line after the Markdown header (#).".toList
  | .headerAtEnd =>
    "There is a header at the end of the Markdown file. Please consider adding some content below.".toList
  | .listBlankLineBefore => "The line before a Markdown list must be empty.".toList
  | .listBlankLineAfter => "The line after a Markdown list must be empty.".toList
  | .codeBlankLineBefore => "The line before code formatting section must be empty.".toList
  | .codeBlankLineAfter => "The line after code formatting section must be empty.".toList
  | .codeUnclosed =>
    "There is an empty or unclosed code formatting section. Please correct it.".toList

def finding (file : Text) (rule : Rule) (line : Nat) : Diagnostic where
  rule := rule.id
  line := line
  message := rule.message file

end Rule

/-- A block with the outcome of the search for its first line: the position from which it was
searched, and the position that was found. -/
structure Placed where
  block : Block
  hint : Nat
  found : Option Nat
  deriving DecidableEq, Repr

namespace Placed

/-- The last of the lines that a block spans from `start` on. -/
def reach (x : LineIndex) (start : Nat) (b : Block) : Nat :=
  x.wordPred (x.wordAdd start b.span)

/-- The last line of a block that was found: as many lines as it spans, but none past the end of the
document. -/
def lastLine (x : LineIndex) (start : Nat) (b : Block) : Nat :=
  min (reach x start b) (x.count - 1)

/-- The first and the last line of a placed block. -/
def lines? (x : LineIndex) (p : Placed) : Option (Nat × Nat) :=
  p.found.map fun start => (start, lastLine x start p.block)

/-- The line that a finding about the block as a whole points to, 0 if the block was not found. -/
def startLine (x : LineIndex) (p : Placed) : Nat :=
  match p.found with
  | some start => x.wordAdd start 1
  | none => 0

end Placed

namespace Layout

/-- Finds the blocks in order. Each search starts after the last line of the block found before. -/
def placeFrom (l : Locator σ) (index : LineIndex) :
    (state : σ) → (hint : Nat) → List Block → List Placed
  | _, _, [] => []
  | state, hint, b :: bs =>
    let (found, state) := l.locate state b.anchor hint
    -- A block that is not found takes no lines, so the next one is searched from the same line.
    let next :=
      match found with
      | some start => Placed.lastLine index start b + 1
      | none => hint
    ⟨b, hint, found⟩ :: placeFrom l index state next bs

/-- Finds the blocks of a document in order, from its first line on. -/
def place (l : Locator σ) (state : σ) (index : LineIndex) (bs : List Block) : List Placed :=
  placeFrom l index state 0 bs

end Layout

namespace Rules

/-- The findings about the lines next to a block that lies on the given lines. -/
def surroundings (index : LineIndex) (file : Text) (before after : Rule)
    (isFirst isLast : Bool) : Option (Nat × Nat) → List Diagnostic
  | none => []
  | some (start, stop) =>
    (if !isFirst && 0 < start && !index.isBlank (start - 1) then [before.finding file start]
      else []) ++
    (if !isLast && !index.isBlank (stop + 1) then [after.finding file (stop + 2)] else [])

/-- The findings about one block. `exempt` tells the headers that may end a document. -/
def ofBlock (index : LineIndex) (exempt : Text → Bool) (file : Text) (isFirst isLast : Bool)
    (p : Placed) : List Diagnostic :=
  let lines := p.lines? index
  match p.block.kind with
  | .header _ text isLink =>
    if isLast then
      -- The last block has no line below it that could be missing.
      if !isLink && !exempt text then [Rule.headerAtEnd.finding file (p.startLine index)] else []
    else
      match lines with
      | some (start, stop) =>
        if index.isBlank (stop + 1) then []
        else [Rule.headerBlankLine.finding file (index.wordAdd start 1)]
      | none => []
  | .list .. =>
    surroundings index file .listBlankLineBefore .listBlankLineAfter isFirst isLast lines
  | .code fence body closed =>
    surroundings index file .codeBlankLineBefore .codeBlankLineAfter isFirst isLast lines ++
      (if fence.isFenced && (body.isEmpty || !closed) then
        [Rule.codeUnclosed.finding file (p.startLine index)] else [])
  | .paragraph _ | .other => []

/-- The findings about placed blocks, in the order of the blocks. -/
def ofBlocks (index : LineIndex) (exempt : Text → Bool) (file : Text) (isFirst : Bool) :
    List Placed → List Diagnostic
  | [] => []
  | p :: ps =>
    ofBlock index exempt file isFirst ps.isEmpty p ++ ofBlocks index exempt file false ps

/-- What a check of a document yields: the searches it made, and its findings. -/
structure Outcome where
  searches : List Placed
  findings : List Diagnostic
  deriving DecidableEq, Repr

/-- Checks the blocks of a document. A blank document has one finding and no search is made. -/
def check (l : Locator σ) (state : σ) (exempt : Text → Bool) (file : Text) (index : LineIndex)
    (bs : List Block) : Outcome :=
  if index.isBlankDocument then ⟨[], [Rule.emptyFile.finding file 0]⟩
  else
    let placed := Layout.place l state index bs
    ⟨placed, ofBlocks index exempt file true placed⟩

end Rules

end DocLint
