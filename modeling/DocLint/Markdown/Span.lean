import DocLint.Markdown.Entity
import DocLint.Markdown.HtmlBlock
import DocLint.Markdown.Reference

/-!
# Spans of running text

Code, character references, addresses in angle brackets and HTML inside a line of text. Each reader
takes the glyphs after the opening character and answers the value of the span and what follows.
-/

namespace DocLint.Markdown.Span

/-! ## Code -/

/-- Reads code up to a run of exactly `size` backticks. `run` counts the backticks just read. -/
def codeLoop (size : Nat) (read : List Glyph) (run : Nat) :
    List Glyph → Option (List Glyph × List Glyph)
  | [] => if run = size then some (read.reverse, []) else none
  | g :: gs =>
    if g.isChar '`' then codeLoop size read (run + 1) gs
    -- A run of another length belongs to the code.
    else if run = size then some (read.reverse, g :: gs)
    else codeLoop size (g :: (List.replicate run (.char '`') ++ read)) 0 gs

/-- In a table, an escaped bar stands for the bar. -/
def unescapeBars : Text → Text
  | '\\' :: '|' :: cs => '|' :: unescapeBars cs
  | c :: cs => c :: unescapeBars cs
  | [] => []

/-- Removes one space on both sides, unless there are only spaces. -/
def unpad (t : Text) : Text :=
  if 2 < t.length && t.head? == some ' ' && t.getLast? == some ' ' && t.any (· != ' ') then
    (t.drop 1).dropLast
  else t

/-- Code between two runs of `size` backticks; `gs` follows the first. -/
def code? (inTable : Bool) (size : Nat) (gs : List Glyph) : Option (Text × List Glyph) :=
  (codeLoop size [] 0 gs).map fun (content, rest) =>
    let t := glyphText content
    (unpad (if inTable then unescapeBars t else t), rest)

/-! ## Character references -/

/-- The characters of glyphs up to the end of the line. -/
def lineText : List Glyph → Text
  | .char c :: gs => c :: lineText gs
  | _ => []

/-- The character with a number, or the replacement character where the number has none. -/
def numericCharacter (n : Nat) : Char :=
  if n ≤ 8 || n == 0x0B || (0x0E ≤ n && n ≤ 0x1F) || (0x7F ≤ n && n ≤ 0x9F) ||
      (0xD800 ≤ n && n ≤ 0xDFFF) || (0xFDD0 ≤ n && n ≤ 0xFDEF) || 0x10FFFF < n ||
      0xFFFE ≤ n % 0x10000 then '\uFFFD'
  else Char.ofNat n

def number (base : Nat) (digits : Text) : Nat :=
  digits.foldl (fun n c => n * base + (Text.hexValue? c).getD 0) 0

/-- A reference of at most `limit` characters that all satisfy `p`, up to the semicolon. -/
def referenceBody? (p : Char → Bool) (limit : Nat) (t : Text) : Option Text :=
  let body := t.takeWhile p
  match t.dropWhile p with
  | ';' :: _ => if 1 ≤ body.length && body.length ≤ limit then some body else none
  | _ => none

/-- The characters that a reference after `&` stands for, and its length. -/
def reference? (t : Text) : Option (Text × Nat) :=
  match t with
  | '#' :: x :: hex =>
    if x == 'x' || x == 'X' then
      (referenceBody? (fun c => (Text.hexValue? c).isSome) 6 hex).map fun b =>
        ([numericCharacter (number 16 b)], b.length + 3)
    else
      (referenceBody? Text.isDigit 7 (x :: hex)).map fun b =>
        ([numericCharacter (number 10 b)], b.length + 2)
  | _ =>
    (referenceBody? Text.isAlnum 31 t).bind fun b =>
      (Entity.lookup? b).map fun value => (value, b.length + 1)

/-! ## Addresses in angle brackets -/

def isSchemeChar (c : Char) : Bool :=
  Text.isAlnum c || c == '+' || c == '-' || c == '.'

def schemeLength? (t : Text) : Option Nat :=
  let scheme := t.takeWhile isSchemeChar
  match t, t.dropWhile isSchemeChar with
  | c :: _, ':' :: rest =>
    let url := rest.takeWhile fun d => d != '>' && d != '<' && d != ' ' && !isControl d && d != '\x00'
    if Text.isLetter c && 2 ≤ scheme.length && scheme.length ≤ 32 &&
        (rest.drop url.length).head? == some '>' then
      some (scheme.length + 1 + url.length)
    else none
  | _, _ => none

/-- A character before the at sign of a mail address. -/
def isMailChar (c : Char) : Bool :=
  Text.isAlnum c || ['#', '$', '%', '&', '\'', '*', '+', '-', '.', '/', '=', '?', '^', '_', '`',
    '\x7b', '|', '\x7d', '~'].contains c

/-- A label of a mail domain: letters, digits and inner dashes, at most 63. -/
def isMailLabel (t : Text) : Bool :=
  t.all (fun c => Text.isAlnum c || c == '-') && 1 ≤ t.length && t.length ≤ 63 &&
    t.head? != some '-' && t.getLast? != some '-'

/-- The length of a mail address. -/
def mailLength? (t : Text) : Option Nat :=
  let before := t.takeWhile isMailChar
  match t.dropWhile isMailChar with
  | '@' :: rest =>
    let domain := rest.takeWhile fun c => Text.isAlnum c || c == '-' || c == '.'
    if !before.isEmpty && (Text.splitAt '.' domain).all isMailLabel &&
        (rest.drop domain.length).head? == some '>' then
      some (before.length + 1 + domain.length)
    else none
  | _ => none

/-- The length of an address after `<`, which a `>` follows. -/
def addressLength? (t : Text) : Option Nat :=
  (schemeLength? t).orElse fun _ => mailLength? t

/-! ## HTML -/

/-- Reads up to a `>` that comes right after `size` of `marker`; `run` counts those just read. -/
def closedBy (marker : Char) (size run : Nat) : List Glyph → Option (List Glyph)
  | [] => none
  | g :: gs =>
    if g.isChar marker then closedBy marker size (min size (run + 1)) gs
    else if g.isChar '>' && run = size then some gs
    else closedBy marker size 0 gs

def isTagSpace (g : Glyph) : Bool :=
  g.isSpace || atLineEnd [g]

def tagStep (s : HtmlKind.TagState) (g : Glyph) : Option HtmlKind.TagState :=
  match s with
  | .beforeName => beforeName g
  | .name =>
    match g with
    | .char c => if HtmlKind.TagState.step.isAttributeChar c then some .name else afterName g
    | _ => afterName g
  | .afterName => afterName g
  | .beforeValue =>
    if isTagSpace g then some .beforeValue
    else
      match g with
      | .char c =>
        if c == '<' || c == '=' || c == '>' || c == '`' then none
        else if c == '"' || c == '\'' then some (.quoted c)
        else some .unquoted
      | _ => none
  | .quoted q => some (if g.isChar q then .afterQuoted else .quoted q)
  | .afterQuoted =>
    if isTagSpace g || g.isChar '/' || g.isChar '>' then beforeName g else none
  | .unquoted =>
    if isTagSpace g || g.isChar '/' || g.isChar '>' then beforeName g
    else
      match g with
      | .char c =>
        if c == '"' || c == '\'' || c == '<' || c == '=' || c == '`' then none else some .unquoted
      | _ => none
  | .atEnd => if g.isChar '>' then some .after else none
  | .after => none
where
  /-- Where an attribute name may begin. -/
  beforeName (g : Glyph) : Option HtmlKind.TagState :=
    if isTagSpace g then some .beforeName
    else
      match g with
      | .char c =>
        if c == '/' then some .atEnd
        else if Text.isLetter c || c == ':' || c == '_' then some .name
        else if c == '>' then some .after
        else none
      | _ => none
  /-- After an attribute name, perhaps before its value. -/
  afterName (g : Glyph) : Option HtmlKind.TagState :=
    if isTagSpace g then some .afterName
    else if g.isChar '=' then some .beforeValue
    else beforeName g

def openingTag (s : HtmlKind.TagState) : List Glyph → Option (List Glyph)
  | [] => none
  | g :: gs =>
    match tagStep s g with
    | some .after => some gs
    | some s => openingTag s gs
    | none => none

/-- Whether a glyph is a character of a tag name. -/
def isTagNameGlyph : Glyph → Bool
  | .char c => HtmlKind.isNameChar c
  | _ => false

/-- What follows the HTML that begins after `<`. -/
def htmlEnd? (gs : List Glyph) : Option (List Glyph) :=
  match gs with
  -- The dashes that open a comment may close it, too.
  | .char '!' :: .char '-' :: .char '-' :: rest => closedBy '-' 2 2 rest
  | .char '!' :: .char '[' :: .char 'C' :: .char 'D' :: .char 'A' :: .char 'T' :: .char 'A' ::
      .char '[' :: rest => closedBy ']' 2 0 rest
  | .char '!' :: .char c :: rest => if Text.isLetter c then closedBy '>' 0 0 rest else none
  | .char '?' :: rest => closedBy '?' 1 0 rest
  | .char '/' :: .char c :: rest =>
    if Text.isLetter c then
      match (rest.dropWhile isTagNameGlyph).dropWhile isTagSpace with
      | .char '>' :: rest => some rest
      | _ => none
    else none
  | .char c :: rest =>
    if Text.isLetter c then
      let rest := rest.dropWhile isTagNameGlyph
      match rest with
      | g :: _ =>
        if isTagSpace g || g.isChar '/' || g.isChar '>' then openingTag .beforeName rest else none
      | [] => none
    else none
  | _ => none

/-- The value of HTML that goes over several lines: up to three spaces at the beginning of a line
are left out. -/
def htmlValue (spaces : Nat) : List Glyph → Text
  | [] => []
  | .newline t :: gs => t.text ++ htmlValue 3 gs
  | g :: gs =>
    if 0 < spaces && g.isSpace then htmlValue (spaces - 1) gs else g.text ++ htmlValue 0 gs

/-- HTML after `<`: its value with the bracket, and what follows. -/
def html? (gs : List Glyph) : Option (Text × List Glyph) :=
  (htmlEnd? gs).map fun rest =>
    ('<' :: htmlValue 0 (gs.take (gs.length - rest.length)), rest)

end DocLint.Markdown.Span
