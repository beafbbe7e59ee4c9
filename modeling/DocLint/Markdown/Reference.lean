import DocLint.Markdown.Cursor
import DocLint.Text.Case

/-!
# Labels, destinations and titles

The parts that link references and their definitions are made of. Every reader takes the glyphs at
a position and answers what follows the part, or nothing if the part is not there.
-/

namespace DocLint.Markdown

namespace Glyph

/-- A space, a tab, or the rest of one. -/
def isSpace : Glyph → Bool
  | .char c => isSpaceOrTab c
  | .tabRest _ => true
  | .newline _ => false

def text : Glyph → Text
  | .char c => [c]
  | .newline t => t.text
  | .tabRest used => List.replicate (tabSize - used) ' '

def isChar (c : Char) : Glyph → Bool
  | .char d => d == c
  | _ => false

/-- The character that a glyph shows to what stands next to it. -/
def face : Glyph → Char
  | .char c => c
  | .newline _ => '\n'
  | .tabRest _ => ' '

end Glyph

def glyphText (gs : List Glyph) : Text :=
  gs.flatMap Glyph.text

def skipSpace (gs : List Glyph) : List Glyph :=
  gs.dropWhile Glyph.isSpace

/-- Skips space that goes over at most one line end; there must be some. -/
def skipBreak? (gs : List Glyph) : Option (List Glyph) :=
  match skipSpace gs with
  | .newline _ :: rest => some (skipSpace rest)
  | rest => if rest.length < gs.length then some rest else none

def atLineEnd : List Glyph → Bool
  | [] => true
  | .newline _ :: _ => true
  | _ => false

/-! ## Labels -/

/-- The longest label, in bytes. -/
def labelSizeLimit : Nat := 999

/-- Reads a label up to its closing bracket. `read` holds what was read before, in reverse, `size`
its length in bytes, `seen` whether it has anything but space, and `escaped` whether a backslash
stands before. -/
def labelLoop (read : List Glyph) (size : Nat) (seen escaped : Bool) :
    List Glyph → Option (List Glyph × List Glyph)
  | [] => none
  | g :: gs =>
    if labelSizeLimit < size then none
    else
      match g with
      | .newline _ => labelLoop (g :: read) size seen false gs
      | .tabRest _ => labelLoop (g :: read) (size + 1) seen false gs
      | .char c =>
        -- Only brackets and backslashes can be escaped.
        if escaped && (c == '[' || c == '\\' || c == ']') then
          labelLoop (g :: read) (size + 1) true false gs
        else if c == '[' then none
        else if c == ']' then if seen then some (read.reverse, gs) else none
        else
          labelLoop (g :: read) (size + Text.Utf8.charSize c) (seen || !isSpaceOrTab c)
            (c == '\\') gs

/-- Reads a label in brackets: its glyphs, and what follows. -/
def label? : List Glyph → Option (List Glyph × List Glyph)
  | .char '[' :: gs => labelLoop [] 0 false false gs
  | _ => none

def isLabelSpace (c : Char) : Bool :=
  c == ' ' || c == '\t' || c == '\n' || c == '\r'

/-- Words of a label with one space between them. `gap` tells that space stands before. -/
def collapse (gap : Bool) : Text → Text
  | [] => []
  | c :: cs =>
    if isLabelSpace c then collapse true cs
    else if gap then ' ' :: c :: collapse false cs
    else c :: collapse false cs

/-- The form in which labels are compared: case and the amount of space do not count. -/
def normalLabel (t : Text) : Text :=
  Text.toUpper (Text.toLower (collapse false (t.dropWhile isLabelSpace)))

/-! ## Destinations -/

/-- A control character, other than U+0000. -/
def isControl (c : Char) : Bool :=
  (1 ≤ c.toNat && c.toNat ≤ 0x1F) || c.toNat == 0x7F

/-- Reads a destination in angle brackets up to its end. -/
def enclosedLoop : List Glyph → Option (List Glyph)
  | [] => none
  | .char '>' :: gs => some gs
  | .char '<' :: _ => none
  | .newline _ :: _ => none
  | .char '\\' :: .char c :: gs =>
    if c == '<' || c == '>' || c == '\\' then enclosedLoop gs else enclosedLoop (.char c :: gs)
  | _ :: gs => enclosedLoop gs

/-- Reads a destination without brackets. `depth` counts the open parentheses, of which at most
`limit` may nest, if there is a limit. -/
def rawLoop (limit : Option Nat) (depth : Nat) : List Glyph → Option (List Glyph)
  | [] => if depth = 0 then some [] else none
  | .newline t :: gs => if depth = 0 then some (.newline t :: gs) else none
  | .tabRest n :: gs => if depth = 0 then some (.tabRest n :: gs) else none
  | .char '\\' :: .char c :: gs =>
    if c == '(' || c == ')' || c == '\\' then rawLoop limit depth gs
    else rawLoop limit depth (.char c :: gs)
  | .char c :: gs =>
    if depth = 0 && (isSpaceOrTab c || c == ')') then some (.char c :: gs)
    else if c == '(' then
      if (limit.map fun most => decide (depth < most)).getD true then rawLoop limit (depth + 1) gs
      else none
    else if c == ')' then rawLoop limit (depth - 1) gs
    else if c == ' ' || isControl c then none
    else rawLoop limit depth gs

def destination? (limit : Option Nat) : List Glyph → Option (List Glyph)
  | .char '<' :: gs => enclosedLoop gs
  | .char c :: gs =>
    if c == ' ' || c == ')' || isControl c then none else rawLoop limit 0 (.char c :: gs)
  | _ => none

/-! ## Titles -/

def titleLoop (marker : Char) : List Glyph → Option (List Glyph)
  | [] => none
  | .char '\\' :: .char c :: gs =>
    if c == marker || c == '\\' then titleLoop marker gs else titleLoop marker (.char c :: gs)
  | g :: gs => if g.isChar marker then some gs else titleLoop marker gs

def title? : List Glyph → Option (List Glyph)
  | .char c :: gs =>
    if c == '"' || c == '\'' then titleLoop c gs
    else if c == '(' then titleLoop ')' gs
    else none
  | _ => none

/-! ## Definitions -/

/-- What follows the title of a definition, which must end its line. -/
def definitionTitle? (gs : List Glyph) : Option (List Glyph) := do
  let rest ← title? (← skipBreak? gs)
  let rest := skipSpace rest
  if atLineEnd rest then some rest else none

/-- Reads the definition of a link reference: its label, and what follows, which begins at a line
end. A title that does not end its line is no title. -/
def definition? (gs : List Glyph) : Option (Text × List Glyph) :=
  match label? (skipSpace gs) with
  | some (label, .char ':' :: rest) =>
    match destination? none ((skipBreak? rest).getD rest) with
    | none => none
    | some rest =>
      match definitionTitle? rest with
      | some rest => some (normalLabel (glyphText label), rest)
      | none =>
        -- What is no title must begin on a line of its own.
        let rest := skipSpace rest
        if atLineEnd rest then some (normalLabel (glyphText label), rest) else none
  | _ => none

end DocLint.Markdown
