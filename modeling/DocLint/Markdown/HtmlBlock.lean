import DocLint.Markdown.Cursor

/-!
# HTML blocks

The seven ways in which a line starts a block of HTML, and the lines that end it. The first five
end at a closing text such as `-->`; the last two end before a blank line.
-/

namespace DocLint.Markdown

/-- The kind of an HTML block, which decides where it ends. -/
inductive HtmlKind where
  /-- `script`, `pre`, `style` or `textarea`, up to a closing tag of one of them. -/
  | raw
  | comment
  | instruction
  | declaration
  | cdata
  /-- An element that stands for a block, up to a blank line. -/
  | element
  /-- Any other complete tag alone on its line, up to a blank line. -/
  | complete
  deriving DecidableEq, Repr

namespace HtmlKind

/-- Elements whose content is raw text. -/
def rawNames : List Text :=
  ["pre", "script", "style", "textarea"].map String.toList

/-- Elements that stand for blocks. -/
def elementNames : List Text :=
  ["address", "article", "aside", "base", "basefont", "blockquote", "body", "caption", "center",
    "col", "colgroup", "dd", "details", "dialog", "dir", "div", "dl", "dt", "fieldset",
    "figcaption", "figure", "footer", "form", "frame", "frameset", "h1", "h2", "h3", "h4", "h5",
    "h6", "head", "header", "hr", "html", "iframe", "legend", "li", "link", "main", "menu",
    "menuitem", "nav", "noframes", "ol", "optgroup", "option", "p", "param", "search", "section",
    "summary", "table", "tbody", "td", "tfoot", "th", "thead", "title", "tr", "track",
    "ul"].map String.toList

/-- Whether the block ends before a blank line. -/
def endsAtBlank : HtmlKind → Bool
  | .element | .complete => true
  | _ => false

/-! ## Ends -/

/-- Whether dashes and then a `>` follow. -/
def dashesClose : Text → Bool
  | '-' :: cs => dashesClose cs
  | '>' :: _ => true
  | _ => false

def commentEnds : Text → Bool
  | [] => false
  | c :: cs =>
    match c, cs with
    | '-', '-' :: ds => dashesClose ds || commentEnds cs
    | _, _ => commentEnds cs

/-- Whether a text holds the end of a CDATA section; brackets are read in pairs. -/
def cdataEnds : Text → Bool
  | ']' :: ']' :: '>' :: _ => true
  | ']' :: ']' :: cs => cdataEnds cs
  | _ :: cs => cdataEnds cs
  | [] => false

/-- Whether a text holds a closing tag of an element with raw content. -/
def rawEnds : Text → Bool
  | '<' :: '/' :: cs =>
    (match cs.dropWhile Text.isLetter with
      | '>' :: _ => rawNames.contains ((cs.takeWhile Text.isLetter).map Text.lowerAscii)
      | _ => false) || rawEnds cs
  | _ :: cs => rawEnds cs
  | [] => false

/-- Whether a text holds the end of a block of this kind. -/
def endsIn : HtmlKind → Text → Bool
  | .raw, t => rawEnds t
  | .comment, t => commentEnds t
  | .instruction, t => Text.occursIn ['?', '>'] t
  | .declaration, t => t.contains '>'
  | .cdata, t => cdataEnds t
  | .element, _ | .complete, _ => false

/-! ## Starts -/

def isNameChar (c : Char) : Bool :=
  Text.isAlnum c || c == '-'

/-- Inside a tag, where an attribute name may begin: whether the tag is complete and only space
follows it on the line. -/
inductive TagState where
  | beforeName
  | name
  | afterName
  | beforeValue
  | quoted (q : Char)
  | afterQuoted
  | unquoted
  /-- After a slash, where only `>` may follow. -/
  | atEnd
  /-- After the tag. -/
  | after
  deriving DecidableEq, Repr

def endsUnquoted (c : Char) : Bool :=
  isSpaceOrTab c || ['"', '\'', '/', '<', '=', '>', '`'].contains c

def TagState.step (s : TagState) (c : Char) : Option TagState :=
  match s with
  | .beforeName => beforeName c
  | .name => if isAttributeChar c then some .name else afterName c
  | .afterName => afterName c
  | .beforeValue =>
    if c == '<' || c == '=' || c == '>' || c == '`' then none
    else if isSpaceOrTab c then some .beforeValue
    else if c == '"' || c == '\'' then some (.quoted c)
    else if endsUnquoted c then afterName c
    else some .unquoted
  | .quoted q => some (if c == q then .afterQuoted else .quoted q)
  | .afterQuoted =>
    if isSpaceOrTab c || c == '/' || c == '>' then beforeName c else none
  | .unquoted => if endsUnquoted c then afterName c else some .unquoted
  | .atEnd => if c == '>' then some .after else none
  | .after => if isSpaceOrTab c then some .after else none
where
  /-- A character that an attribute name goes on with. -/
  isAttributeChar (c : Char) : Bool :=
    Text.isAlnum c || c == '-' || c == '.' || c == ':' || c == '_'
  /-- Where an attribute name may begin. -/
  beforeName (c : Char) : Option TagState :=
    if isSpaceOrTab c then some .beforeName
    else if c == '/' then some .atEnd
    else if Text.isAlnum c || c == ':' || c == '_' then some .name
    else if c == '>' then some .after
    else none
  /-- After an attribute name, perhaps before its value. -/
  afterName (c : Char) : Option TagState :=
    if isSpaceOrTab c then some .afterName
    else if c == '=' then some .beforeValue
    else beforeName c

/-- Whether the rest of an opening tag is complete and alone on its line. -/
def completesOpening (t : Text) : Bool :=
  t.foldlM TagState.step TagState.beforeName == some .after

/-- Whether the rest of a closing tag is complete and alone on its line. -/
def completesClosing (t : Text) : Bool :=
  match t.dropWhile isSpaceOrTab with
  | '>' :: rest => rest.all isSpaceOrTab
  | _ => false

/-- The block that a tag starts; `t` follows the bracket, and the slash of a closing tag. -/
def ofTag? (closing : Bool) (mayBeComplete : Bool) (t : Text) : Option (HtmlKind × Text) :=
  let name := (t.takeWhile isNameChar).map Text.lowerAscii
  let rest := t.dropWhile isNameChar
  let slash := rest.head? == some '/'
  match t with
  | [] => none
  | c :: _ =>
    if !Text.isLetter c then none
    else if !((rest.head?.map fun d => isSpaceOrTab d || d == '/' || d == '>').getD true) then none
    else if !slash && !closing && rawNames.contains name then some (.raw, rest)
    else if elementNames.contains name then
      if slash then
        match rest with
        | '/' :: '>' :: rest => some (.element, rest)
        | _ => none
      else some (.element, rest)
    -- Any other tag has to be complete, and must not interrupt a paragraph.
    else if !mayBeComplete then none
    else if closing then
      if completesClosing rest then some (.complete, []) else none
    else if completesOpening rest then some (.complete, [])
    else none

/-- The block that starts after `<`, with what is left of its first line and whether the block ends
there already. -/
def start? (mayBeComplete : Bool) (t : Text) : Option (HtmlKind × Bool) :=
  match t with
  | '!' :: '-' :: '-' :: rest => some (.comment, dashesClose rest || commentEnds rest)
  | '!' :: '[' :: 'C' :: 'D' :: 'A' :: 'T' :: 'A' :: '[' :: rest => some (.cdata, cdataEnds rest)
  | '!' :: c :: rest => if Text.isLetter c then some (.declaration, rest.contains '>') else none
  | '?' :: rest =>
    some (.instruction, rest.head? == some '>' || Text.occursIn ['?', '>'] rest)
  | '/' :: rest => (ofTag? true mayBeComplete rest).map fun (k, r) => (k, k.endsIn r)
  | rest => (ofTag? false mayBeComplete rest).map fun (k, r) => (k, k.endsIn r)

end HtmlKind

end DocLint.Markdown
