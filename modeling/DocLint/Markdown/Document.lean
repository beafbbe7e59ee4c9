import DocLint.Markdown.HtmlBlock
import DocLint.Markdown.Reference
import DocLint.Markdown.Table

/-!
# The blocks of a document

A document is read line by line. Every line first continues the open containers (quotes, list
items, footnotes), may then start new ones, and what is left of it goes to the one block that is
open inside them. The result is a tree of nodes with the numbers of their lines; running text is
not read yet, because it depends on definitions that may come later.
-/

namespace DocLint.Markdown

/-- A block that holds no other block. -/
inductive Leaf where
  | heading (level : Nat) (words : List Glyph)
  | paragraph (words : List Glyph)
  | code (fenced : Bool) (value : Text)
  | html (value : Text)
  | table (cells : List Text)
  | definition (label : Text)
  | thematicBreak
  deriving DecidableEq, Repr

/-- A block of a document. Lines count from 0. -/
inductive Node where
  | leaf (first last : Nat) (l : Leaf)
  | quote (first last : Nat) (children : List Node)
  | note (first last : Nat) (label : Text) (children : List Node)
  | item (first last : Nat) (children : List Node)
  /-- Neighbouring items with the same marker. -/
  | list (marker : Char) (items : List Node)
  deriving Repr

namespace Node

def first : Node → Nat
  | .leaf first _ _ | .quote first _ _ | .note first _ _ _ | .item first _ _ => first
  | .list _ items =>
    match items with
    | .item first _ _ :: _ => first
    | _ => 0

def last : Node → Nat
  | .leaf _ last _ | .quote _ last _ | .note _ last _ _ | .item _ last _ => last
  | .list _ items =>
    match items.getLast? with
    | some (.item _ last _) => last
    | _ => 0

/-- Adds a list item after other nodes, of which the last comes first. -/
def addItem (marker : Char) (item : Node) : List Node → List Node
  | .list m items :: before =>
    if m == marker then .list m (items ++ [item]) :: before
    else .list marker [item] :: .list m items :: before
  | before => .list marker [item] :: before

end Node

/-! ## Prose

Lines that are no other block form prose: definitions of references, then a paragraph. A line of
`=` or `-` below makes the paragraph a heading. -/

/-- A line of prose. -/
structure Chunk where
  number : Nat
  start : Cursor
  ending : Option Terminator
  /-- Whether the line may be the head of a table. -/
  mayHead : Bool
  deriving DecidableEq, Repr

/-- The glyphs of lines of prose. The terminator of the last line does not belong to them. -/
def Chunk.glyphs : List Chunk → List Glyph
  | [] => []
  | [c] => c.start.toGlyphs
  | c :: cs => c.start.toGlyphs ++ (c.ending.toList.map .newline ++ Chunk.glyphs cs)

/-- A part of prose: lines, or a line that may underline a heading. -/
inductive Segment where
  | lines (chunks : List Chunk)
  | underline (level : Nat) (chunk : Chunk)
  deriving DecidableEq, Repr

namespace Prose

/-- The first and the last line of chunks as a node. -/
def node (chunks : List Chunk) (l : Leaf) : Node :=
  .leaf ((chunks.head?.map Chunk.number).getD 0) ((chunks.getLast?.map Chunk.number).getD 0) l

/-- Reads definitions off the front of prose, and answers the lines that are left. Every definition
takes at least a line. -/
def definitions : (fuel : Nat) → List Chunk → List Node × List Chunk
  | 0, chunks => ([], chunks)
  | fuel + 1, chunks =>
    match definition? (Chunk.glyphs chunks) with
    | none => ([], chunks)
    | some (label, rest) =>
      -- The last line shows no end, so one more line is left than line ends follow.
      let left :=
        match rest with
        | [] => 0
        | _ :: after => (after.filter fun g => atLineEnd [g]).length + 1
      let taken := chunks.take (chunks.length - left)
      let (more, chunks) := definitions fuel (chunks.drop (chunks.length - left))
      (node taken (.definition label) :: more, chunks)

def paragraph (chunks : List Chunk) : List Node :=
  if chunks.isEmpty then [] else [node chunks (.paragraph (Chunk.glyphs chunks))]

/-- The nodes of prose. `pending` holds the lines of a paragraph that the next segment may make a
heading. An underline with nothing to underline begins a paragraph itself; while it stands alone
(`bare`), lines that follow join it. -/
def nodes (pending : List Chunk) (bare : Bool) : List Segment → List Node
  | [] => paragraph pending
  | .lines chunks :: rest =>
    let (defined, left) := definitions chunks.length chunks
    if bare && defined.isEmpty then nodes (pending ++ chunks) false rest
    else paragraph pending ++ defined ++ nodes left false rest
  | .underline level chunk :: rest =>
    -- With nothing to underline, the line is prose for now.
    if pending.isEmpty then nodes [chunk] true rest
    else
      .leaf ((pending.head?.map Chunk.number).getD 0) chunk.number
        (.heading level (Chunk.glyphs pending)) :: nodes [] false rest

end Prose

/-! ## Open blocks -/

/-- The block that is open inside the containers. Lines are kept in reverse order. -/
inductive Open where
  | none
  | prose (segments : List Segment)
  /-- Fenced code; the line of the fence itself counts as an empty line. -/
  | fence (f : OpenFence) (first : Nat) (lines : List Line)
  | html (kind : HtmlKind) (first : Nat) (lines : List Line)
  /-- Indented code, and blank lines that belong to it if more code follows. -/
  | indented (first : Nat) (lines blank : List Line)
  | table (first last : Nat) (cells : List Text)
  deriving DecidableEq, Repr

/-- How a block ends: on a line that no longer belongs to its containers, or otherwise. The first
leaves the end of the last line outside. -/
inductive Ending where
  | lazy
  | flush
  deriving DecidableEq, Repr

namespace Open

/-- The source of lines that are given in reverse order. -/
def source (lines : List Line) : Text :=
  Line.join lines.reverse

/-- The source of lines without the terminator of the last. -/
def bareSource : List Line → Text
  | [] => []
  | l :: before => Line.join before.reverse ++ l.text

def dropFirstBreak : Text → Text
  | '\r' :: '\n' :: t | '\n' :: t | '\r' :: t => t
  | t => t

def dropLastBreak (t : Text) : Text :=
  match t.reverse with
  | '\n' :: '\r' :: r | '\n' :: r | '\r' :: r => r.reverse
  | _ => t

/-- The value of fenced code: the lines between the fences. -/
def fenceValue (t : Text) : Text :=
  dropLastBreak (dropFirstBreak t)

def close (e : Ending) : Open → List Node
  | .none => []
  | .prose segments => Prose.nodes [] false segments.reverse
  | .fence _ first lines =>
    -- A container that is left ends its code before the end of the last line.
    let t := if e == .lazy then bareSource lines else source lines
    [.leaf first (first + lines.length - 1) (.code true (fenceValue t))]
  | .html kind first lines =>
    let t := if e == .lazy || kind.endsAtBlank then bareSource lines else source lines
    [.leaf first (first + lines.length - 1) (.html t)]
  | .indented first lines _ =>
    [.leaf first (first + lines.length - 1) (.code false (dropLastBreak (bareSource lines)))]
  | .table first last cells => [.leaf first last (.table cells)]

/-- Whether no container may start inside the block. -/
def isConcrete : Open → Bool
  | .fence .. | .html .. => true
  | _ => false

end Open

/-- What a line starts. -/
inductive Opening where
  | blank
  | indented
  | fence (f : OpenFence)
  | html (kind : HtmlKind) (ended : Bool)
  | heading (level : Nat) (words : Text)
  | underline (level : Nat)
  | thematicBreak
  | text
  deriving DecidableEq, Repr

namespace Opening

def html? (mayBeComplete : Bool) (p : Cursor) : Option (HtmlKind × Bool) :=
  match p.afterIndent.rest with
  | '<' :: t => HtmlKind.start? mayBeComplete t
  | _ => none

/-- What starts at a position. A paragraph (`interrupt`) cannot be interrupted by indented code, and
by an arbitrary tag only on a line that has left its containers. -/
def ofLine (interrupt lazy mayUnderline : Bool) (p : Cursor) : Opening :=
  if p.isBlank then .blank
  else if !interrupt && tabSize ≤ p.indent then .indented
  else
    match OpenFence.read? p with
    | some f => .fence f
    | none =>
      match html? (!interrupt || lazy) p with
      | some (kind, ended) => .html kind ended
      | none =>
        match atxHeading? p with
        | some (level, words) => .heading level words
        | none =>
          -- Dashes below prose underline it, even where they would be a thematic break.
          match (if mayUnderline then underline? p else none) with
          | some level => .underline level
          | none => if isThematicBreak p then .thematicBreak else .text

/-- Whether the first character of a line keeps the line out of tables. -/
def isReserved (p : Cursor) : Bool :=
  match p.rest with
  | c :: _ => ['#', '$', '`', '~', '*', '_', 'e', 'i', '\x7b'].contains c && p.used == 0
  | [] => false

end Opening

/-! ## Lines and containers -/

/-- An open container with the nodes it holds, the last of which comes first. -/
structure Frame where
  container : Container
  first : Nat
  children : List Node

/-- Adds nodes after others, of which the last comes first. -/
def appendNodes (new before : List Node) : List Node :=
  new.reverse ++ before

/-- Adds a container that ends with line `last` to the nodes before it. -/
def Frame.close (f : Frame) (last : Nat) (before : List Node) : List Node :=
  let children := f.children.reverse
  match f.container with
  | .quote => .quote f.first last children :: before
  | .note label => .note f.first last label children :: before
  | .item marker _ _ => Node.addItem marker (.item f.first last children) before

/-- A document of which some lines are read. -/
structure Reader where
  /-- The open containers, the innermost first. -/
  frames : List Frame := []
  /-- The nodes outside of any open container, the last first. -/
  root : List Node := []
  /-- The block that is open in the innermost container. -/
  leaf : Open := .none
  /-- Whether a container on the next line would interrupt a paragraph. -/
  interrupt : Bool := false

namespace Reader

/-- Whether a block on the next line would interrupt a paragraph. A line that might be the head of a
table is settled as prose only by the line that follows, and counts even if it has left containers. -/
def inParagraph (r : Reader) : Bool :=
  r.interrupt ||
    match r.leaf with
    | .prose (.lines chunks :: _) =>
      match chunks.getLast? with
      | some c => c.mayHead && (Table.headCells? c.start).isSome
      | none => false
    | _ => false

def add (r : Reader) (new : List Node) : Reader :=
  match r.frames with
  | [] => { r with root := appendNodes new r.root }
  | f :: fs => { r with frames := { f with children := appendNodes new f.children } :: fs }

def endLeaf (r : Reader) (e : Ending) : Reader :=
  { r.add (r.leaf.close e) with leaf := .none }

def endFrame (r : Reader) (last : Nat) : Reader :=
  match r.frames with
  | [] => r
  | [f] => { r with frames := [], root := f.close last r.root }
  | f :: g :: fs => { r with frames := { g with children := f.close last g.children } :: fs }

def endFrames (last : Nat) : Nat → Reader → Reader
  | 0, r => r
  | n + 1, r => endFrames last n (r.endFrame last)

def addProse (r : Reader) (c : Chunk) : Reader :=
  let segments :=
    match r.leaf with
    | .prose (.lines chunks :: before) => .lines (chunks ++ [c]) :: before
    | .prose before => .lines [c] :: before
    | _ => [.lines [c]]
  { r with leaf := .prose segments, interrupt := true }

/-- Adds a block that one line completes. -/
def addLine (r : Reader) (number : Nat) (l : Leaf) : Reader :=
  { (r.endLeaf .flush).add [.leaf number number l] with interrupt := false }

/-- Lets a line start a block, or go on with prose. -/
def start (r : Reader) (c : Chunk) (o : Opening) : Reader :=
  match o with
  | .blank => { r.endLeaf .flush with interrupt := false }
  | .indented =>
    { r.endLeaf .flush with
      leaf := .indented c.number [⟨(c.start.skipUpTo tabSize).toText, c.ending⟩] []
      interrupt := false }
  | .fence f =>
    { r.endLeaf .flush with leaf := .fence f c.number [⟨[], c.ending⟩], interrupt := false }
  | .html kind ended =>
    let line : Line := ⟨c.start.toText, c.ending⟩
    if ended then r.addLine c.number (.html line.text)
    else { r.endLeaf .flush with leaf := .html kind c.number [line], interrupt := false }
  | .heading level words => r.addLine c.number (.heading level (words.map .char))
  | .underline level =>
    match r.leaf with
    | .prose segments =>
      { r with leaf := .prose (.underline level c :: segments), interrupt := false }
    | _ => r
  | .thematicBreak => r.addLine c.number .thematicBreak
  | .text => r.addProse c

/-- Makes the last line of prose the head of a table, if the new line is a fitting row of dashes. -/
def startTable? (r : Reader) (c : Chunk) : Option Reader :=
  match r.leaf with
  | .prose (.lines chunks :: before) =>
    match chunks.getLast? with
    | some head =>
      match Table.headCells? head.start, Table.ruleCells? c.start with
      | some m, some n =>
        -- The lines in front of the head stay prose, which ends here.
        if head.mayHead && m == n then
          let chunks := chunks.dropLast
          let segments := if chunks.isEmpty then before else .lines chunks :: before
          let r := { r with leaf := .prose segments }.endLeaf .flush
          some { r with
            leaf := .table head.number c.number (Table.cells head.start)
            interrupt := false }
        else none
      | _, _ => none
    | none => none
  | _ => none

/-- Reads a line that belongs to all open containers. -/
def feed (r : Reader) (c : Chunk) : Reader :=
  match r.leaf with
  | .fence f first lines =>
    if f.isClosedBy c.start then
      { r.add [.leaf first c.number (.code true (Open.fenceValue (Open.source lines)))] with
        leaf := .none
        interrupt := false }
    else
      { r with leaf := .fence f first (⟨(c.start.skipUpTo f.indent).toText, c.ending⟩ :: lines) }
  | .html kind first lines =>
    let line : Line := ⟨c.start.toText, c.ending⟩
    -- The blank line itself does not belong to the block.
    if kind.endsAtBlank && c.start.isBlank then
      { r.endLeaf .flush with interrupt := false }
    else if kind.endsIn line.text then
      { r.add [.leaf first c.number (.html (Open.bareSource (line :: lines)))] with
        leaf := .none
        interrupt := false }
    else { r with leaf := .html kind first (line :: lines) }
  | .indented first lines blank =>
    if tabSize ≤ c.start.indent then
      let line : Line := ⟨(c.start.skipUpTo tabSize).toText, c.ending⟩
      { r with leaf := .indented first (line :: (blank ++ lines)) [] }
    -- Whether the code goes on behind it shows at the next line that is not blank.
    else if c.start.isBlank then
      { r with leaf := .indented first lines (⟨[], c.ending⟩ :: blank) }
    else
      let r := r.endLeaf .flush
      r.start c (.ofLine r.interrupt false false c.start)
  | .table first _ cells =>
    -- A line that starts nothing is a further row, whatever its number of cells.
    match Opening.ofLine r.interrupt false false c.start with
    | .text =>
      if Opening.isReserved c.start then (r.endLeaf .flush).addProse c
      else { r with leaf := .table first c.number (cells ++ Table.cells c.start) }
    | o => (r.endLeaf .flush).start c o
  | .prose _ =>
    match r.startTable? c with
    | some r => r
    | none =>
      r.start c (.ofLine r.inParagraph false true c.start)
  | .none => r.start c (.ofLine r.interrupt false false c.start)

/-- Continues containers from the outermost on: those that go on, and where the line goes on. -/
def continueAll : List Frame → Cursor → List Frame × Cursor
  | [], p => ([], p)
  | f :: fs, p =>
    match f.container.continue? p with
    | none => ([], p)
    | some (c, q) =>
      let (more, rest) := continueAll fs q
      ({ f with container := c } :: more, rest)

/-- Starts new containers inside the innermost, as many as the line has. Each takes a character. -/
def startContainers (number : Nat) : (fuel : Nat) → Reader → Cursor → Reader × Cursor
  | 0, r, p => (r, p)
  | fuel + 1, r, p =>
    match Container.start? r.interrupt p with
    | none => (r, p)
    | some (c, q) => startContainers number fuel { r with frames := ⟨c, number, []⟩ :: r.frames } q

/-- Reads a line that has left the `lost` innermost containers. It goes on with an open paragraph
all the same if it starts nothing else. -/
def lazyLine (r : Reader) (number lost : Nat) (c : Chunk) : Reader :=
  let o := Opening.ofLine r.inParagraph true false c.start
  match r.leaf, o with
  | .prose _, .text => r.addProse c
  -- A table never goes on here, and the line cannot head another one.
  | .table .., _ => { (leave r).start { c with mayHead := false } o with interrupt := false }
  | _, _ => { (leave r).start c o with interrupt := false }
where
  /-- Ends what the line has left. -/
  leave (r : Reader) : Reader :=
    endFrames (number - 1) lost (r.endLeaf .lazy)

def line (r : Reader) (number : Nat) (l : Line) : Reader :=
  let (kept, p) := continueAll r.frames.reverse (Cursor.ofLine l.text)
  let lost := r.frames.length - kept.length
  -- What is lost stays open until it is clear that no paragraph inside goes on.
  let r := { r with frames := r.frames.take lost ++ kept.reverse }
  let chunk := fun (q : Cursor) => Chunk.mk number q l.ending (!Opening.isReserved q)
  if lost = 0 && r.leaf.isConcrete then r.feed (chunk p)
  else
    match Container.start? (lost = 0 && r.interrupt) p with
    | some (c, q) =>
      -- Asked before the prose in front of the new container is closed.
      let inParagraph := lost = 0 && r.inParagraph
      let r := endFrames (number - 1) lost (r.endLeaf .flush)
      let r := { r with
        frames := ⟨c, number, []⟩ :: r.frames
        interrupt := lost = 0 && r.interrupt }
      let (r, q) := startContainers number l.text.length r q
      { r with interrupt := inParagraph }.feed (chunk q)
    | none => if lost = 0 then r.feed (chunk p) else r.lazyLine number lost (chunk p)

def lines (number : Nat) : Reader → List Line → Reader
  | r, [] => r
  | r, l :: ls => lines (number + 1) (r.line number l) ls

def finish (r : Reader) (last : Nat) : List Node :=
  (endFrames last r.frames.length (r.endLeaf .flush)).root.reverse

end Reader

/-- The nodes of a document. -/
def readNodes (ls : List Line) : List Node :=
  (Reader.lines 0 {} ls).finish (ls.length - 1)

end DocLint.Markdown
