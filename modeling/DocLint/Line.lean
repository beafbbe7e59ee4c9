import DocLint.Text.Utf8

/-!
# Lines

A line ends at a line feed, a carriage return, or the two together; a terminator at the very end
of a text opens no further line. `split` keeps every terminator, so nothing of the text is lost;
`ranges` gives the byte offsets of the lines and `LineIndex` the lines that findings refer to. The
positions in an index are machine words, and so are sums of them.
-/

namespace DocLint

/-- What ends a line. -/
inductive Terminator where
  | lf
  | cr
  | crlf
  deriving DecidableEq, Repr

def Terminator.text : Terminator → Text
  | .lf => ['\n']
  | .cr => ['\r']
  | .crlf => ['\r', '\n']

/-- A line: its text, and the terminator unless the text of the document ends without one. -/
structure Line where
  text : Text
  ending : Option Terminator
  deriving DecidableEq, Repr

namespace Line

def source (l : Line) : Text :=
  l.text ++ (l.ending.map Terminator.text).getD []

/-- Puts a character in front of the first line. -/
def push (c : Char) : List Line → List Line
  | [] => [⟨[c], none⟩]
  | l :: ls => { l with text := c :: l.text } :: ls

/-- The lines of a text with their terminators. -/
def split : Text → List Line
  | [] => []
  | '\r' :: '\n' :: cs => ⟨[], some .crlf⟩ :: split cs
  | '\r' :: cs => ⟨[], some .cr⟩ :: split cs
  | '\n' :: cs => ⟨[], some .lf⟩ :: split cs
  | c :: cs => push c (split cs)

def join (ls : List Line) : Text :=
  ls.flatMap source

end Line

def Text.lines (t : Text) : List Text :=
  (Line.split t).map Line.text

/-- Byte offsets of the lines, the first of which starts at `start`; terminators lie between. -/
def Line.rangesFrom (start : Nat) : List Line → List (Nat × Nat)
  | [] => []
  | l :: ls =>
    (start, start + Text.Utf8.size l.text) :: rangesFrom (start + Text.Utf8.size l.source) ls

/-- Byte offsets of the lines of a text, terminators excluded. -/
def Text.lineRanges (t : Text) : List (Nat × Nat) :=
  Line.rangesFrom 0 (Line.split t)

def Text.byteOrderMark : Char := '\uFEFF'

def Text.hasMark : Text → Bool
  | c :: _ => c == Text.byteOrderMark
  | [] => false

/-- The text without one leading byte order mark. -/
def Text.withoutMark : Text → Text
  | c :: cs => if c = Text.byteOrderMark then cs else c :: cs
  | [] => []

/-- The lines of a document, addressed by their position from 0. -/
structure LineIndex where
  lines : List Text
  deriving DecidableEq, Repr

namespace LineIndex

/-- The index of a document; a leading byte order mark belongs to no line. -/
def ofText (t : Text) : LineIndex :=
  ⟨t.withoutMark.lines⟩

def count (x : LineIndex) : Nat :=
  x.lines.length

def line? (x : LineIndex) (i : Nat) : Option Text :=
  x.lines[i]?

/-- Whether the line at a position is blank; positions past the end are. -/
def isBlank (x : LineIndex) (i : Nat) : Bool :=
  match x.lines[i]? with
  | some l => Text.isBlank l
  | none => true

def isBlankDocument (x : LineIndex) : Bool :=
  x.lines.all Text.isBlank

/-! ## Positions as machine words -/

/-- How many lines there are up to the last one with content. -/
def contentEnd (x : LineIndex) : Nat :=
  (x.lines.reverse.dropWhile Text.isBlank).length

/-- The largest machine word of 64 bits. -/
def maxWord : Nat :=
  Nat.pow 2 64 - 1

/-- How many machine words there are. Words have 64 bits. Content with more lines than that fits into
no memory; it would take larger words to number them, and here it has them. -/
def wordSize (x : LineIndex) : Nat :=
  max maxWord x.contentEnd + 1

/-- The sum of two machine words, which starts again at 0 behind the largest word. A build that
checks its sums stops there instead. -/
def wordAdd (x : LineIndex) (a b : Nat) : Nat :=
  (a + b) % x.wordSize

/-- The machine word before another one; before 0 it is the largest. -/
def wordPred (x : LineIndex) : Nat → Nat
  | 0 => x.wordSize - 1
  | n + 1 => n

/-- A document whose lines 64 bits can number has words of 64 bits. -/
theorem wordSize_eq {x : LineIndex} (h : x.count ≤ maxWord) : x.wordSize = maxWord + 1 := by
  have hle : x.contentEnd ≤ x.lines.reverse.length := (List.dropWhile_sublist _).length_le
  rw [List.length_reverse] at hle
  exact congrArg (· + 1) (Nat.max_eq_left (Nat.le_trans hle h))

theorem wordSize_pos (x : LineIndex) : 0 < x.wordSize :=
  Nat.succ_pos _

theorem wordAdd_of_lt {x : LineIndex} {a b : Nat} (h : a + b < x.wordSize) :
    x.wordAdd a b = a + b :=
  Nat.mod_eq_of_lt h

theorem wordPred_wordAdd (x : LineIndex) {a b : Nat} (h : 0 < a + b) :
    x.wordPred (x.wordAdd a b) = (a + b - 1) % x.wordSize := by
  obtain ⟨n, hn⟩ : ∃ n, a + b = n + 1 := ⟨a + b - 1, by omega⟩
  have hlt := Nat.mod_lt n x.wordSize_pos
  rw [wordAdd, hn, ← Nat.mod_add_mod, Nat.add_sub_cancel]
  -- Only behind the largest word does the sum start again.
  by_cases hmax : n % x.wordSize + 1 = x.wordSize
  · rw [hmax, Nat.mod_self, wordPred]
    omega
  · rw [Nat.mod_eq_of_lt (by omega), wordPred]

end LineIndex

end DocLint
