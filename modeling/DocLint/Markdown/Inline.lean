import DocLint.Markdown.Literal
import DocLint.Markdown.Span

/-!
# Running text

The text of a paragraph, heading or table cell is read in three steps. `Phrase.scan` goes over it
once and finds code, HTML, addresses and links; links need the labels that the document defines.
`Piece.pair` then pairs runs of `*`, `_` and `~`, and `Piece.settle` trims the space at line ends and
joins what is left to text. `Inline.plain` is the text without any markup.
-/

namespace DocLint.Markdown

/-- Running text, read. -/
inductive Inline where
  | text (t : Text)
  | code (t : Text)
  | html (t : Text)
  | link (children : List Inline)
  | image
  /-- A reference to a footnote. -/
  | note
  | lineBreak
  /-- Emphasised, strong or deleted text. -/
  | group (children : List Inline)
  deriving Repr

mutual

/-- The words of running text: images, footnote references and line breaks have none. -/
def Inline.plain : Inline → Text
  | .text t | .code t | .html t => t
  | .link children | .group children => Inline.plainAll children
  | .image | .note | .lineBreak => []

def Inline.plainAll : List Inline → Text
  | [] => []
  | i :: is => i.plain ++ Inline.plainAll is

end

/-- Whether running text is one link; blank text beside it does not count. -/
def Inline.isOnlyLink (is : List Inline) : Bool :=
  let content := is.filter fun
    | .text t => !Text.isBlank t
    | _ => true
  match content with
  | [.link _] => true
  | _ => false

/-! ## Pieces -/

/-- A run of markers that may begin or end a group. -/
structure Run where
  marker : Char
  size : Nat
  opens : Bool
  closes : Bool
  deriving DecidableEq, Repr

/-- A part of running text before runs are paired. -/
inductive Piece where
  /-- Characters that stand for themselves. -/
  | data (gs : List Glyph)
  /-- An escaped or referenced character. -/
  | fixed (t : Text)
  | newline (t : Terminator)
  /-- A backslash at the end of a line. -/
  | hardBreak
  | run (r : Run)
  | inline (i : Inline)
  | link (children : List Piece)
  | group (children : List Piece)

namespace Piece

def ofRun (r : Run) : Piece :=
  .data (List.replicate r.size (.char r.marker))

/-- A piece that can no longer open a group. -/
def close : Piece → Piece
  | .run r => ofRun r
  | p => p

/-- Whether a run may be closed by another. A run on both sides of words may not be closed if the
lengths add up to a multiple of three, unless the closing length is one too; runs of `~` must have
the same length, at most two. -/
def isClosedBy (opener closer : Run) : Bool :=
  opener.opens && opener.marker == closer.marker &&
    !((opener.closes || closer.opens) && closer.size % 3 != 0 &&
      (opener.size + closer.size) % 3 == 0) &&
    !(closer.marker == '~' && (closer.size != opener.size || 2 < closer.size))

/-- Looks for the nearest run that `closer` closes. Of the pieces before it, the nearest comes first;
the answer is the pieces between the two, in order, the opener, and the pieces before it. -/
def opener? (closer : Run) (between : List Piece) :
    List Piece → Option (List Piece × Run × List Piece)
  | [] => none
  | p :: before =>
    match p with
    | .run r =>
      if isClosedBy r closer then some (between, r, before)
      -- A run that is passed over stands for itself from now on.
      else opener? closer (ofRun r :: between) before
    | p => opener? closer (p :: between) before

/-- A run with fewer markers, if any is left. -/
def leftover (r : Run) (used : Nat) : List Piece :=
  if used < r.size then [.run { r with size := r.size - used }] else []

/-- Closes as many groups as the markers of `closer` allow. Every round uses one or two of them. -/
def closeWith : (fuel : Nat) → (closer : Run) → (before : List Piece) → List Piece
  | 0, closer, before => .run closer :: before
  | fuel + 1, closer, before =>
    match opener? closer [] before with
    | none => .run closer :: before
    | some (between, r, before) =>
      -- Two markers on both sides make strong text, otherwise one on each makes emphasis.
      let used := if 1 < r.size && 1 < closer.size then 2 else 1
      let before := .group between :: (leftover r used ++ before)
      if used < closer.size then closeWith fuel { closer with size := closer.size - used } before
      else before

def pair (ps : List Piece) : List Piece :=
  (ps.foldl (fun before p =>
    match p with
    | .run r => if r.closes then closeWith r.size r before else p :: before
    | p => p :: before) []).reverse.map close

def join : List Piece → List Piece
  | [] => []
  | p :: ps =>
    match p, join ps with
    | .data a, .data b :: rest => .data (a ++ b) :: rest
    | p, rest => p :: rest

/-! ## Settling -/

def dropSpaceEnd (gs : List Glyph) : List Glyph :=
  (gs.reverse.dropWhile Glyph.isSpace).reverse

/-- Data without the space at its beginning. If the line begins with the rest of a tab, as many
glyphs are dropped as space follows it, so that the tab itself or its last neighbour stays. -/
def dropSpaceStart (gs : List Glyph) : List Glyph :=
  match gs with
  | .tabRest _ :: rest =>
    let words := skipSpace rest
    if words.isEmpty then [] else (.char '\t' :: rest).drop (rest.length - words.length)
  | _ => skipSpace gs

/-- Whether two or more spaces, and no tab, end the data. -/
def endsInBreak (gs : List Glyph) : Bool :=
  let space := gs.reverse.takeWhile Glyph.isSpace
  2 ≤ space.length && space.all (·.isChar ' ')

/-- Text with its mail addresses made links, unless it stands in a link. -/
def withAddresses (inLink : Bool) (t : Text) : List Inline :=
  if t.isEmpty then []
  else if inLink then [.text t]
  else (Literal.mailParts [] 0 t).map fun
    | .plain t => .text t
    | .address t => .link [.text t]

def beforeNewline : List Piece → Bool
  | .newline _ :: _ => true
  | _ => false

mutual

/-- The running text of one piece that is no data. -/
def settleOne (inLink : Bool) : Piece → List Inline
  | .data gs => [.text (glyphText gs)]
  | .fixed t => [.text t]
  | .newline t => [.text t.text]
  | .hardBreak => [.lineBreak]
  | .run r => [.text (List.replicate r.size r.marker)]
  | .inline i => [i]
  | .link children => [.link (settle false true false false children)]
  | .group children => [.group (settle false inLink false false children)]

/-- The running text of joined pieces. Space is dropped on both sides of a line end, and at both
ends of the whole (`outer`). `atStart` tells that nothing or a line end stands before, and `swallow`
that a line break has taken the line end that follows. -/
def settle (outer inLink atStart swallow : Bool) : List Piece → List Inline
  | [] => []
  | p :: ps =>
    match p with
    | .data gs =>
      let ending := beforeNewline ps || (outer && ps.isEmpty)
      -- The spaces that break the line are dropped with the others, so they are counted first.
      let hard := beforeNewline ps && endsInBreak gs
      let gs := if ending then dropSpaceEnd gs else gs
      let gs := if atStart then dropSpaceStart gs else gs
      withAddresses inLink (glyphText gs) ++ (if hard then [.lineBreak] else []) ++
        settle outer inLink false hard ps
    | .newline t =>
      (if swallow then [] else [.text t.text]) ++ settle outer inLink true false ps
    | .hardBreak => .lineBreak :: settle outer inLink false true ps
    | p => settleOne inLink p ++ settle outer inLink false false ps

end

end Piece

/-! ## Scanning -/

/-- What the reader of running text has to know of the document. -/
structure Env where
  /-- The labels of link definitions. -/
  links : List Text
  /-- The labels of footnotes. -/
  notes : List Text

namespace Phrase

/-- What an opening bracket may begin. -/
inductive Bracket where
  | link
  | image
  | note
  deriving DecidableEq, Repr

/-- What was read so far: pieces, and brackets that wait for their partner. -/
inductive Slot where
  | piece (p : Piece)
  /-- A bracket, whether it may still begin a link, and the glyphs that follow it. -/
  | bracket (kind : Bracket) (active : Bool) (rest : List Glyph)

def Bracket.data : Bracket → Piece
  | .link => .data [.char '[']
  | .image => .data [.char '!', .char '[']
  | .note => .data [.char '[', .char '^']

def Slot.close : Slot → Piece
  | .piece p => p
  | .bracket kind _ _ => kind.data

/-- Brackets that are open when a link closes can no longer begin a link around it. -/
def Slot.deactivate : Slot → Slot
  | .bracket .image active rest => .bracket .image active rest
  | .bracket kind _ rest => .bracket kind false rest
  | s => s

/-- The nearest bracket: the pieces after it in order, the bracket, and the slots before it. -/
def lastBracket? (after : List Piece) :
    List Slot → Option (List Piece × Bracket × Bool × List Glyph × List Slot)
  | [] => none
  | .piece p :: slots => lastBracket? (p :: after) slots
  | .bracket kind active rest :: slots => some (after, kind, active, rest, slots)

/-- A destination in parentheses nests at most this deep. -/
def destinationDepth : Nat := 32

/-- Reads what follows the destination of a link: an optional title and the closing parenthesis. -/
def resourceEnd? (gs : List Glyph) : Option (List Glyph) :=
  match skipBreak? gs with
  | none => close gs
  | some after =>
    match after with
    | .char c :: _ =>
      if c == '"' || c == '\'' || c == '(' then
        (title? after).bind fun rest => close ((skipBreak? rest).getD rest)
      else close after
    | _ => close after
where
  /-- The closing parenthesis. -/
  close : List Glyph → Option (List Glyph)
    | .char ')' :: rest => some rest
    | _ => none

/-- Reads `(destination "title")`. -/
def resource? : List Glyph → Option (List Glyph)
  | .char '(' :: gs =>
    let gs := (skipBreak? gs).getD gs
    match gs with
    | .char ')' :: rest => some rest
    | _ => (destination? (some destinationDepth) gs).bind resourceEnd?
  | _ => none

/-- Reads what makes a label a link: a destination, another label, empty brackets, or nothing if
the label itself is defined. The answer is the last character of the link and what follows it. -/
def linkEnd? (env : Env) (defined : Bool) (gs : List Glyph) : Option (Char × List Glyph) :=
  match gs with
  | .char '(' :: _ =>
    match resource? gs with
    | some rest => some (')', rest)
    | none => if defined then some (']', gs) else none
  | .char '[' :: more =>
    let full := (label? gs).filter fun (label, _) =>
      env.links.contains (normalLabel (glyphText label))
    match full with
    | some (_, rest) => some (']', rest)
    | none =>
      match more with
      | .char ']' :: rest => if defined then some (']', rest) else none
      | _ => none
  | _ => if defined then some (']', gs) else none

/-- What a step leads to: the slots after it, the last character it took, and what is left. -/
structure Move where
  slots : List Slot
  last : Char
  rest : List Glyph

/-- Closes the nearest bracket at a `]`, which `gs` follows. -/
def closeBracket (env : Env) (slots : List Slot) (gs : List Glyph) : Move :=
  let plain := Slot.piece (.data [.char ']'])
  match lastBracket? [] slots with
  | none => ⟨plain :: slots, ']', gs⟩
  | some (inside, kind, active, start, before) =>
    -- Without anything that makes a link, both brackets stand for themselves.
    let giveUp := plain :: ((inside.map Slot.piece).reverse ++ .piece kind.data :: before)
    if !active then ⟨giveUp, ']', gs⟩
    else
      let label := normalLabel (glyphText (start.take (start.length - gs.length - 1)))
      if kind == .note && env.notes.contains label then
        ⟨.piece (.inline .note) :: before.map Slot.deactivate, ']', gs⟩
      else
        -- A footnote that is not defined may be a link whose label begins with `^`.
        let id := if kind == .note then '^' :: label else label
        match linkEnd? env (env.links.contains id) gs with
        | none => ⟨giveUp, ']', gs⟩
        | some (last, rest) =>
          match kind with
          | .image => ⟨.piece (.inline .image) :: before, last, rest⟩
          | .link =>
            ⟨.piece (.link (Piece.join (Piece.pair inside))) :: before.map Slot.deactivate, last,
              rest⟩
          | .note =>
            ⟨.piece (.link (Piece.join (Piece.pair (.data [.char '^'] :: inside)))) ::
              before.map Slot.deactivate, last, rest⟩

/-- The run of markers that a group may begin or end with, by the characters on both sides. -/
def run (marker : Char) (size : Nat) (before after : Option Char) : Run :=
  let b := CharKind.ofNeighbour before
  let a := CharKind.ofNeighbour after
  let beside := fun c => marker != '~' && (c == some '*' || c == some '_' || c == some '~')
  let opens := a == .word || (a == .mark && b != .word) || beside after
  let closes := b == .word || (b == .mark && a != .word) || beside before
  if marker == '_' then
    ⟨marker, size, opens && (b != .word || !closes), closes && (a != .word || !opens)⟩
  else ⟨marker, size, opens, closes⟩

/-- One step at a position. `escaped` tells that the character before was escaped. -/
def step (env : Env) (inTable : Bool) (before : Option Char) (escaped : Bool) (slots : List Slot)
    (g : Glyph) (gs : List Glyph) : Move :=
  let plain : Move := ⟨.piece (.data [g]) :: slots, g.face, gs⟩
  match g with
  | .newline t => ⟨.piece (.newline t) :: slots, g.face, gs⟩
  | .tabRest _ => plain
  | .char '!' =>
    match gs with
    -- There are no images of footnotes: the bracket is read again, as that of a footnote.
    | .char '[' :: .char '^' :: _ => plain
    | .char '[' :: rest => ⟨.bracket .image true rest :: slots, '[', rest⟩
    | _ => plain
  | .char '[' =>
    match gs with
    | .char '^' :: rest => ⟨.bracket .note true rest :: slots, '^', rest⟩
    | _ => ⟨.bracket .link true gs :: slots, '[', gs⟩
  | .char ']' => closeBracket env slots gs
  | .char '`' =>
    -- A longer run began before and opened nothing, so its end does not either.
    if before == some '`' && !escaped then plain
    else
      let size := 1 + (gs.takeWhile (·.isChar '`')).length
      match Span.code? inTable size (gs.dropWhile (·.isChar '`')) with
      | some (t, rest) => ⟨.piece (.inline (.code t)) :: slots, '`', rest⟩
      | none => plain
  | .char '&' =>
    match Span.reference? (Span.lineText gs) with
    | some (t, n) => ⟨.piece (.fixed t) :: slots, ';', gs.drop n⟩
    | none => plain
  | .char '<' =>
    let line := Span.lineText gs
    match Span.addressLength? line with
    | some n => ⟨.piece (.inline (.link [.text (line.take n)])) :: slots, '>', gs.drop (n + 1)⟩
    | none =>
      match Span.html? gs with
      | some (t, rest) => ⟨.piece (.inline (.html t)) :: slots, '>', rest⟩
      | none => plain
  | .char '\\' =>
    match gs with
    | .newline _ :: _ => ⟨.piece .hardBreak :: slots, '\\', gs⟩
    | .char c :: rest =>
      if isAsciiPunctuation c then ⟨.piece (.fixed [c]) :: slots, c, rest⟩ else plain
    | _ => plain
  | .char c =>
    if c == '*' || c == '_' || c == '~' then
      let size := 1 + (gs.takeWhile (·.isChar c)).length
      let rest := gs.dropWhile (·.isChar c)
      ⟨.piece (.run (run c size before (rest.head?.map Glyph.face))) :: slots, c, rest⟩
    else if c == 'h' || c == 'H' || c == 'w' || c == 'W' then
      let line := Span.lineText (g :: gs)
      match Literal.webLength? before line with
      | some n =>
        let address := line.take n
        ⟨.piece (.inline (.link [.text address])) :: slots, address.getLast?.getD c, gs.drop (n - 1)⟩
      | none => plain
    else plain

/-- Scans from a position to the end. Every step takes at least one glyph, so the length of the text
is fuel enough. -/
def loop (env : Env) (inTable : Bool) : (fuel : Nat) → (before : Option Char) → (escaped : Bool) →
    List Slot → List Glyph → List Slot
  | 0, _, _, slots, _ => slots
  | _, _, _, slots, [] => slots
  | fuel + 1, before, escaped, slots, g :: gs =>
    let m := step env inTable before escaped slots g gs
    let wasEscape :=
      match m.slots with
      | .piece (.fixed _) :: _ => g.isChar '\\'
      | _ => false
    loop env inTable fuel (some m.last) wasEscape m.slots m.rest

/-- The pieces of a text, runs paired. -/
def scan (env : Env) (inTable : Bool) (before : Option Char) (gs : List Glyph) : List Piece :=
  Piece.join (Piece.pair ((loop env inTable gs.length before false [] gs).reverse.map Slot.close))

/-- The mark of a task at the beginning of an item, `[ ]` or `[x]`, with the space or line end after
it: what follows, and whether a new line begins there. Something must follow. -/
def afterTask? : List Glyph → Option (List Glyph × Bool)
  | .char '[' :: m :: .char ']' :: rest =>
    if m.isSpace || atLineEnd [m] || m.isChar 'x' || m.isChar 'X' then
      match rest with
      | .newline _ :: more => some (more, true)
      | g :: more => if g.isSpace && !(skipSpace more).isEmpty then some (more, false) else none
      | [] => none
    else none
  | _ => none

def read (env : Env) (gs : List Glyph) : List Inline :=
  Piece.settle true false true false (scan env false none gs)

def readCell (env : Env) (gs : List Glyph) : List Inline :=
  Piece.settle true false true false (scan env true none gs)

/-- Reads the first paragraph of a list item, which may begin with the mark of a task. -/
def readItem (env : Env) (gs : List Glyph) : List Inline :=
  match afterTask? gs with
  | some (rest, atStart) =>
    Piece.settle true false atStart false (scan env false (some ' ') rest)
  | none => read env gs

end Phrase

end DocLint.Markdown
