import DocLint.Line

/-!
# Positions in a line

Indentation counts in columns, and a tab reaches to the next column that is a multiple of four. A
container may use up some columns of a tab and leave the others, so a position in a line is the
rest of the line together with its column and the columns already used of a tab at its front.
-/

namespace DocLint.Markdown

/-- The distance of tab stops. -/
def tabSize : Nat := 4

def isSpaceOrTab (c : Char) : Bool :=
  c == ' ' || c == '\t'

/-- A position in a line. -/
structure Cursor where
  /-- What follows; a tab at the front may be used in part. -/
  rest : Text
  /-- The column, from 0. -/
  column : Nat := 0
  /-- The columns already used of the tab at the front. -/
  used : Nat := 0
  deriving DecidableEq, Repr

/-- One piece of the text of a block: a character, the end of a line, or what a container has left
over of a tab. -/
inductive Glyph where
  | char (c : Char)
  | newline (t : Terminator)
  | tabRest (used : Nat)
  deriving DecidableEq, Repr

namespace Cursor

def ofLine (t : Text) : Cursor :=
  { rest := t }

/-- Moves over one column of space, if there is one. -/
def space? (p : Cursor) : Option Cursor :=
  match p.rest with
  | ' ' :: cs => some ⟨cs, p.column + 1, 0⟩
  | '\t' :: cs =>
    if p.column % tabSize = tabSize - 1 then some ⟨cs, p.column + 1, 0⟩
    else some ⟨p.rest, p.column + 1, p.used + 1⟩
  | _ => none

/-- Moves over at most `n` columns of space. -/
def skipUpTo : Nat → Cursor → Cursor
  | 0, p => p
  | n + 1, p =>
    match p.space? with
    | some q => skipUpTo n q
    | none => p

def skip? : Nat → Cursor → Option Cursor
  | 0, p => some p
  | n + 1, p => p.space?.bind (skip? n)

/-- The columns of space in front of `t`, which starts at a column. -/
def indentFrom (column : Nat) : Text → Nat
  | ' ' :: cs => 1 + indentFrom (column + 1) cs
  | '\t' :: cs =>
    let width := tabSize - column % tabSize
    width + indentFrom (column + width) cs
  | _ => 0

def indent (p : Cursor) : Nat :=
  indentFrom p.column p.rest

def skipAll (p : Cursor) : Cursor :=
  p.skipUpTo p.indent

/-- Moves over one character that is no tab. -/
def next (p : Cursor) : Cursor :=
  ⟨p.rest.drop 1, p.column + 1, 0⟩

def isBlank (p : Cursor) : Bool :=
  p.rest.all isSpaceOrTab

/-- The length of what lies between two positions of a line, `q` after `p`: every character counts
one, and a tab that is used in part counts for the columns that are left of a full stop. -/
def lengthTo (p q : Cursor) : Nat :=
  let characters := p.rest.length - q.rest.length
  let front := if 0 < p.used then tabSize - p.used else 0
  let opened := if 0 < p.used then 1 else 0
  characters - opened + front + q.used

/-- What follows as plain text; the rest of a tab is written as spaces. -/
def toText (p : Cursor) : Text :=
  match p.rest with
  | c :: cs => if 0 < p.used then List.replicate (tabSize - p.used) ' ' ++ cs else c :: cs
  | [] => []

def toGlyphs (p : Cursor) : List Glyph :=
  match p.rest with
  | c :: cs => if 0 < p.used then .tabRest p.used :: cs.map .char else (c :: cs).map .char
  | [] => []

end Cursor

end DocLint.Markdown
