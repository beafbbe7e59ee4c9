import DocLint.Block
import DocLint.Markdown.Document
import DocLint.Markdown.Inline

/-!
# From Markdown to blocks

The top-level blocks of a Markdown document. The words of lists and headings are read with the
definitions of the whole document; everything that concerns lines is taken from the source.
-/

namespace DocLint.Markdown

/-! ## Definitions -/

mutual

/-- The labels a node defines. -/
def Node.env : Node → Env
  | .leaf _ _ (.definition label) => ⟨[label], []⟩
  | .leaf .. => ⟨[], []⟩
  | .quote _ _ children | .item _ _ children | .list _ children => Node.envAll children
  | .note _ _ label children =>
    let e := Node.envAll children
    ⟨e.links, normalLabel label :: e.notes⟩

def Node.envAll : List Node → Env
  | [] => ⟨[], []⟩
  | n :: ns =>
    let e := n.env
    let es := Node.envAll ns
    ⟨e.links ++ es.links, e.notes ++ es.notes⟩

end

/-! ## Words -/

/-- The words of a leaf; `inItem` tells that it is the first paragraph of a list item. -/
def Leaf.words (env : Env) (inItem : Bool) : Leaf → Text
  | .heading _ gs => Inline.plainAll (Phrase.read env gs)
  | .paragraph gs =>
    Inline.plainAll (if inItem then Phrase.readItem env gs else Phrase.read env gs)
  | .code _ value | .html value => value
  | .table cells =>
    cells.flatMap fun t => Inline.plainAll (Phrase.readCell env (t.map .char))
  | .definition _ | .thematicBreak => []

mutual

def Node.words (env : Env) : Node → Text
  | .leaf _ _ l => l.words env false
  | .quote _ _ children | .note _ _ _ children | .list _ children =>
    Node.wordsAll env false children
  | .item _ _ children => Node.wordsAll env true children

/-- The words of nodes; `inItem` tells that a list item holds them and nothing but definitions has
come before. -/
def Node.wordsAll (env : Env) (inItem : Bool) : List Node → Text
  | [] => []
  | .leaf _ _ (.definition _) :: ns => Node.wordsAll env inItem ns
  | .leaf _ _ l :: ns => l.words env inItem ++ Node.wordsAll env false ns
  | n :: ns => n.words env ++ Node.wordsAll env false ns

end

/-! ## Blocks -/

/-- The lines of a node: those from its first to its last line. -/
def sourceLines (lines : List Text) (first last : Nat) : List Text :=
  (lines.drop first).take (last + 1 - first)

/-- The number of lines up to the last that is not empty, but at least one. -/
def spanOf (lines : List Text) : Nat :=
  max 1 (lines.reverse.dropWhile List.isEmpty).length

/-- Whether a line closes a fence of `width` markers: only markers, and not fewer. -/
def closesFence (marker : Char) (width : Nat) (line : Text) : Bool :=
  let t := Text.trim line
  width ≤ t.length && t.all (· == marker)

/-- The fence that a line opens code with. -/
def fenceOf (line : Text) : Fence :=
  let t := Text.trimStart line
  if Text.startsWith ['`', '`', '`'] t then .backtick
  else if Text.startsWith ['~', '~', '~'] t then .tilde
  else .indented

/-- Code as it stands in the source. Whether it is fenced, and closed, is seen from its lines. -/
def codeOf (lines : List Text) : BlockKind :=
  let opening := lines.head?.getD []
  let fence := fenceOf opening
  match fence.marker with
  | none => .code fence lines true
  | some marker =>
    let width := ((Text.trimStart opening).takeWhile (· == marker)).length
    -- The opening line cannot close its own block.
    let closed := 1 < lines.length && closesFence marker width (lines.getLast?.getD [])
    .code fence ((if closed then lines.dropLast else lines).drop 1) closed

def itemOf (env : Env) (lines : List Text) (n : Node) : ListItem :=
  ⟨n.words env, 1 < spanOf (sourceLines lines n.first n.last)⟩

def kindOf (env : Env) (lines source : List Text) : Node → BlockKind
  | .leaf _ _ (.heading level gs) =>
    let content := Phrase.read env gs
    .header level (Inline.plainAll content) (Inline.isOnlyLink content)
  | .leaf _ _ (.paragraph gs) => .paragraph (Inline.plainAll (Phrase.read env gs))
  | .leaf _ _ (.code ..) => codeOf source
  | .list marker items =>
    .list (marker == '.' || marker == ')') (items.map (itemOf env lines))
  | _ => .other

/-- The lines of a top-level node as they belong to it: the first line of fenced code begins with
its fence, every other node begins with its line. -/
def Node.source (lines : List Text) (n : Node) : List Text :=
  let source := sourceLines lines n.first n.last
  match n, source with
  | .leaf _ _ (.code true _), l :: ls => l.dropWhile isSpaceOrTab :: ls
  | _, _ => source

/-- A top-level node as a block. -/
def blockOf (env : Env) (lines : List Text) (n : Node) : Block :=
  let source := n.source lines
  ⟨kindOf env lines source n, source.head?.getD [], spanOf source⟩

/-- The top-level blocks of a Markdown document. Up to two byte order marks at its beginning belong
to no block. -/
def blocks (t : Text) : List Block :=
  let ls := Line.split t.withoutMark.withoutMark
  let nodes := readNodes ls
  nodes.map (blockOf (Node.envAll nodes) (ls.map Line.text))

/-! ## The format -/

def name : Text := "markdown".toList

def extensions : List Text :=
  ["md", "markdown", "mdown", "mkdn", "mkd"].map String.toList

def canRead (extension : Text) : Bool :=
  extensions.any (Text.sameIgnoringAsciiCase extension)

end DocLint.Markdown
