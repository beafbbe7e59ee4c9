import DocLint.Markdown.Cursor

/-!
# How blocks start

Headings, thematic breaks, fences and the markers of containers, each recognised at the position
where the line of a block begins. At most three columns of indentation may stand in front of any
of them.
-/

namespace DocLint.Markdown

namespace Cursor

/-- The position after at most three columns of indentation. -/
def afterIndent (p : Cursor) : Cursor :=
  p.skipUpTo (tabSize - 1)

end Cursor

/-! ## Headings and thematic breaks -/

/-- Drops what closes a heading: runs of hashes that stand alone, and space. Of `reversed`, the last
character comes first. -/
def dropClosing (reversed : Text) : Text :=
  go reversed.length reversed
where
  /-- Each round drops at least one character. -/
  go : Nat → Text → Text
    | 0, t => t
    | n + 1, t =>
      let t := t.dropWhile isSpaceOrTab
      match t.dropWhile (· == '#') with
      | [] => []
      | c :: cs => if isSpaceOrTab c && t.head? == some '#' then go n (c :: cs) else t

/-- The words of a heading line after its opening hashes: from the first character that is neither
space nor hash to the last word that is more than hashes. -/
def headingWords (t : Text) : Text :=
  ((dropClosing t.reverse).reverse).dropWhile (fun c => isSpaceOrTab c || c == '#')

/-- A heading of one to six hashes, with its level and its words. -/
def atxHeading? (p : Cursor) : Option (Nat × Text) :=
  let p := p.afterIndent
  let level := (p.rest.takeWhile (· == '#')).length
  let rest := p.rest.dropWhile (· == '#')
  -- Hashes with a word right behind them are words themselves.
  if 1 ≤ level && level ≤ 6 && (rest.head?.map isSpaceOrTab).getD true then
    some (level, headingWords rest)
  else none

/-- The line below a heading, with the level it gives. -/
def underline? (p : Cursor) : Option Nat :=
  let t := p.afterIndent.rest
  match t with
  | c :: _ =>
    if (c == '=' || c == '-') && (t.dropWhile (· == c)).all isSpaceOrTab then
      some (if c == '=' then 1 else 2)
    else none
  | [] => none

/-- A thematic break: three or more of one marker with space between and after them. -/
def isThematicBreak (p : Cursor) : Bool :=
  let t := p.afterIndent.rest
  match t with
  | c :: _ =>
    (c == '*' || c == '-' || c == '_') && t.all (fun d => d == c || isSpaceOrTab d) &&
      3 ≤ (t.filter (· == c)).length
  | [] => false

/-! ## Fences -/

/-- A fence that opens code: its marker, its length, and the length of the space before it. -/
structure OpenFence where
  marker : Char
  size : Nat
  indent : Nat
  deriving DecidableEq, Repr

/-- A fence of three or more backticks or tildes. After backticks no further backtick may stand on
the line. -/
def OpenFence.read? (p : Cursor) : Option OpenFence :=
  let q := p.afterIndent
  match q.rest with
  | c :: _ =>
    let size := (q.rest.takeWhile (· == c)).length
    let info := q.rest.dropWhile (· == c)
    if (c == '`' || c == '~') && 3 ≤ size && !(c == '`' && info.contains '`') then
      some ⟨c, size, p.lengthTo q⟩
    else none
  | [] => none

/-- Whether a line closes a fence: at least as many markers, then only space. -/
def OpenFence.isClosedBy (f : OpenFence) (p : Cursor) : Bool :=
  let t := p.afterIndent.rest
  f.size ≤ (t.takeWhile (· == f.marker)).length &&
    (t.dropWhile (· == f.marker)).all isSpaceOrTab

/-! ## Containers -/

/-- A block that holds other blocks. -/
inductive Container where
  | quote
  /-- A list item: its marker, the columns its content is indented by, and whether it is still
  empty after a blank first line. -/
  | item (marker : Char) (size : Nat) (startsBlank : Bool)
  /-- The definition of a footnote. -/
  | note (label : Text)
  deriving DecidableEq, Repr

namespace Container

/-- A block quote marker with at most one column of space after it. -/
def quote? (p : Cursor) : Option Cursor :=
  let p := p.afterIndent
  match p.rest with
  | '>' :: _ => some (p.next.skipUpTo 1)
  | _ => none

/-- What follows the marker of an item that started at `start`: the space up to its content, or
none if the line ends. An item that starts blank cannot interrupt a paragraph. -/
def itemAfterMarker (interrupt : Bool) (start : Cursor) (marker : Char) (p : Cursor) :
    Option (Container × Cursor) :=
  if p.isBlank then
    if interrupt then none else some (.item marker (start.lengthTo p + 1) true, p)
  else
    match p.space? with
    | none => none
    | some one =>
      -- Wider space is content already: the item begins with indented code.
      let q := if p.indent ≤ tabSize then p.skipAll else one
      some (.item marker (start.lengthTo q) false, q)

/-- A list item. An ordered one that interrupts a paragraph must have the number 1, and a line that
is a thematic break is none. -/
def item? (interrupt : Bool) (start : Cursor) : Option (Container × Cursor) :=
  let p := start.afterIndent
  match p.rest with
  | [] => none
  | c :: _ =>
    if c == '+' || ((c == '*' || c == '-') && !isThematicBreak p) then
      itemAfterMarker interrupt start c p.next
    else
      let digits := p.rest.takeWhile Text.isDigit
      match p.rest.dropWhile Text.isDigit with
      | d :: after =>
        -- Ten digits are no number of an item.
        if 1 ≤ digits.length && digits.length < 10 && (d == '.' || d == ')') &&
            (!interrupt || digits == ['1']) then
          itemAfterMarker interrupt start d ⟨after, p.column + digits.length + 1, 0⟩
        else none
      | [] => none

/-- The label of a footnote up to its closing bracket, and what follows. It has no space and no
opening bracket, unless escaped. -/
def noteLabel? (read : Text) : Text → Option (Text × Text)
  | [] => none
  | '\\' :: c :: cs =>
    if c == '[' || c == '\\' || c == ']' then noteLabel? (c :: '\\' :: read) cs
    else if c == '\t' || c == ' ' then none
    else noteLabel? (c :: '\\' :: read) cs
  | c :: cs =>
    if c == ']' then if read.isEmpty then none else some (read.reverse, cs)
    else if c == '[' || c == '\t' || c == ' ' then none
    else noteLabel? (c :: read) cs

/-- The longest label, in bytes. -/
def labelSizeMax : Nat := 999

/-- The start of a footnote definition, `[^label]:`, with all space after it. -/
def note? (start : Cursor) : Option (Container × Cursor) :=
  let p := start.afterIndent
  match p.rest with
  | '[' :: '^' :: t =>
    match noteLabel? [] t with
    | some (label, ':' :: after) =>
      if Text.Utf8.size label ≤ labelSizeMax then
        let column := p.column + (p.rest.length - after.length)
        some (.note label, (Cursor.mk after column 0).skipAll)
      else none
    | _ => none
  | _ => none

/-- The container that starts at a position, if any. -/
def start? (interrupt : Bool) (p : Cursor) : Option (Container × Cursor) :=
  match quote? p with
  | some q => some (.quote, q)
  | none =>
    match item? interrupt p with
    | some r => some r
    | none => note? p

/-- Whether a line continues a container, and where its content goes on. A blank line continues
an item unless the item is still empty. -/
def continue? (c : Container) (p : Cursor) : Option (Container × Cursor) :=
  match c with
  | .quote => (quote? p).map fun q => (.quote, q)
  | .item marker size startsBlank =>
    if p.isBlank then
      if startsBlank then none else some (c, p.skipUpTo size)
    else (p.skip? size).map fun q => (.item marker size false, q)
  | .note _ =>
    if p.isBlank then some (c, p.skipUpTo tabSize) else (p.skip? tabSize).map fun q => (c, q)

end Container

end DocLint.Markdown
