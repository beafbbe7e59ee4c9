import DocLint.Properties
import DocLint.Proofs.Line

/-!
# Writing property files

The ways to write down definitions so that they can be read again. A definition is a row of pieces,
each a character or an escape, and the row may be broken in front of every piece that is not white
space. Comments and blank lines stand between definitions. `write` gives the text of such a file.
-/

namespace DocLint.Properties

/-! ## Space -/

/-- White space within a line. -/
def isGap (t : Text) : Bool :=
  t.all fun c => Text.isWhite c && !Line.isBreak c

/-- White space within a line, or nothing. -/
abbrev Gap := { t : Text // isGap t = true }

/-- Anything that fits on one line. -/
abbrev Words := { t : Text // t.all (fun c => !Line.isBreak c) = true }

/-! ## Pieces -/

/-- A character of a definition as it is written: as it is, or behind a backslash. -/
inductive Piece where
  | plain (c : Char)
  | escaped (c : Char)
  deriving DecidableEq, Repr

/-- What stands behind a backslash for a character. -/
def escapeChar : Char → Char
  | '\t' => 't'
  | '\n' => 'n'
  | '\r' => 'r'
  | '\x0c' => 'f'
  | c => c

def isSign (c : Char) : Bool :=
  c == '=' || c == ':'

def isCommentMark (c : Char) : Bool :=
  c == '#' || c == '!'

namespace Piece

def text : Piece → Text
  | .plain c => [c]
  | .escaped c => ['\\', c]

def textAll (ps : List Piece) : Text :=
  ps.flatMap text

def isWhite : Piece → Bool
  | .plain c => Text.isWhite c
  | .escaped _ => false

/-- A character of a key: everything that ends a key or begins a comment is escaped. -/
def ofKey (c : Char) : Piece :=
  if c == '\\' || isSign c || isCommentMark c || Text.isWhite c then .escaped (escapeChar c)
  else .plain c

def ofValue (c : Char) : Piece :=
  if c == '\\' || Line.isBreak c then .escaped (escapeChar c) else .plain c

/-- The first character of a value, which must not be taken for a part of the separator. A tab or a
form feed is escaped with its letter or as it is. -/
def ofFirst (letter : Bool) (c : Char) : Piece :=
  if Text.isWhite c || isSign c then
    .escaped (if letter || Line.isBreak c then escapeChar c else c)
  else ofValue c

def ofValueText (letter : Bool) : Text → List Piece
  | [] => []
  | c :: cs => ofFirst letter c :: cs.map ofValue

end Piece

/-! ## Lines -/

def prepend (t : Text) : List Text → List Text
  | [] => [t]
  | l :: ls => (t ++ l) :: ls

/-- Puts line breaks in front of lines: a backslash ends a line, and space begins the next one. -/
def breakWith : List Gap → List Text → List Text
  | [], ls => ls
  | g :: gs, ls => ['\\'] :: prepend g.val (breakWith gs ls)

/-- The lines of pieces. `breaks i` are the breaks in front of the piece at position `i`, each with
the space that follows it; white space would be lost behind a break, so it gets none. -/
def wrap (breaks : Nat → List Gap) : (i : Nat) → List Piece → List Text
  | _, [] => [[]]
  | i, p :: ps =>
    let ls := prepend p.text (wrap breaks (i + 1) ps)
    if p.isWhite then ls else breakWith (breaks i) ls

/-! ## Definitions -/

/-- What stands between a key and its value. -/
inductive Separator where
  | sign (before : Gap) (colon : Bool) (after : Gap)
  | space (g : Gap) (ne_nil : g.val ≠ [])

def Separator.text : Separator → Text
  | .sign before colon after => before.val ++ (if colon then ':' else '=') :: after.val
  | .space g _ => g.val

/-- A definition with the way it is written. -/
structure Entry where
  key : Text
  value : Text
  key_ne_nil : key ≠ []
  indent : Gap
  separator : Separator
  /-- Whether a tab or a form feed at the front of the value is escaped with its letter. -/
  letter : Bool
  /-- The breaks in front of each piece. -/
  breaks : Nat → List Gap

namespace Entry

def pieces (e : Entry) : List Piece :=
  e.key.map .ofKey ++ (e.separator.text.map .plain ++ Piece.ofValueText e.letter e.value)

def lines (e : Entry) : List Text :=
  prepend e.indent.val (wrap e.breaks 0 e.pieces)

end Entry

/-! ## Files -/

/-- A part of a property file. -/
inductive Item where
  | blank (space : Gap)
  | comment (indent : Gap) (exclamation : Bool) (words : Words)
  | entry (e : Entry)

namespace Item

def lines : Item → List Text
  | .blank space => [space.val]
  | .comment indent exclamation words =>
    [indent.val ++ (if exclamation then '!' else '#') :: words.val]
  | .entry e => e.lines

/-- The key and the value that a part defines. -/
def pair? : Item → Option (Text × Text)
  | .entry e => some (e.key, e.value)
  | .blank _ | .comment .. => none

end Item

def pairs (items : List Item) : List (Text × Text) :=
  items.filterMap Item.pair?

/-- The text of a file: its lines with one terminator between them. A file that ends with a
terminator has an empty last line. -/
def write (nl : Terminator) (items : List Item) : Text :=
  Text.joinWith nl.text (items.flatMap Item.lines)

end DocLint.Properties
