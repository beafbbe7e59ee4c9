import DocLint.Text.Category

/-!
# Addresses without brackets

Web addresses that start with `www.`, `http://` or `https://`, and mail addresses, are links even
when they stand in running text. This module finds where such an address ends.
-/

namespace DocLint.Markdown

/-- What a character is to the words around it. -/
inductive CharKind where
  | space
  | mark
  | word
  deriving DecidableEq, Repr

def isAsciiPunctuation (c : Char) : Bool :=
  ('!' ≤ c && c ≤ '/') || (':' ≤ c && c ≤ '@') || ('[' ≤ c && c ≤ '`') || ('{' ≤ c && c ≤ '~')

def CharKind.ofChar (c : Char) : CharKind :=
  if Text.isWhite c then .space
  else if isAsciiPunctuation c then .mark
  else if c.toNat < 128 then .word
  else if (Text.Category.punctuation ++ Text.Category.symbols).any (·.has c) then .mark
  else .word

/-- The kind of a neighbour; the end of the text counts as space. -/
def CharKind.ofNeighbour : Option Char → CharKind
  | some c => .ofChar c
  | none => .space

namespace Literal

/-- Punctuation that does not belong to an address if nothing of it follows. -/
def isTrailing (c : Char) : Bool :=
  ['!', '"', '\'', ')', '*', ',', '.', ':', ';', '?', '_', '~'].contains c

/-- Whether only trailing punctuation follows up to the end of the address. `name` counts the
letters of a character reference that has begun, if one has. -/
def endsHere (name : Option Nat) : Text → Bool
  | [] => name.isNone
  | c :: cs =>
    match name with
    | some n =>
      if Text.isLetter c then endsHere (some (n + 1)) cs
      else c == ';' && 0 < n && endsHere none cs
    | none =>
      if isTrailing c then endsHere none cs
      else if c == '&' then endsHere (some 0) cs
      else if c == '<' then true
      else if c == ']' then
        (match cs with
          | [] => true
          | d :: _ => d == '\t' || d == ' ' || d == '(' || d == '[') || endsHere none cs
      else CharKind.ofChar c == .space

/-- The length of the domain at the front of a text. No underscore may stand in its last two
segments: `last` and `beforeLast` tell whether one does. -/
def domainLength? (length : Nat) (seen last beforeLast : Bool) : Text → Option Nat
  | [] => finish length seen last beforeLast
  | c :: cs =>
    if c == '.' || c == '_' then
      -- Punctuation at the very end belongs to the sentence around the address.
      if endsHere none (c :: cs) then finish length seen last beforeLast
      else if c == '_' then domainLength? (length + 1) seen true beforeLast cs
      else domainLength? (length + 1) seen false last cs
    else if c == '-' then domainLength? (length + 1) seen last beforeLast cs
    else if CharKind.ofChar c == .word then domainLength? (length + 1) true last beforeLast cs
    else finish length seen last beforeLast
where
  /-- The domain ends here. -/
  finish (length : Nat) (seen last beforeLast : Bool) : Option Nat :=
    if seen && !last && !beforeLast then some length else none

/-- The length of the path at the front of a text. A closing parenthesis belongs to it if it closes
one of the path. -/
def pathLength (length opened closed : Nat) : Text → Nat
  | [] => length
  | c :: cs =>
    if c == '(' then pathLength (length + 1) (opened + 1) closed cs
    else if isTrailing c || c == '<' || c == '&' || c == ']' then
      if endsHere none (c :: cs) && !(c == ')' && closed < opened) then length
      else pathLength (length + 1) opened (if c == ')' then closed + 1 else closed) cs
    else if CharKind.ofChar c == .space then length
    else pathLength (length + 1) opened closed cs

/-- The length of an address of which `length` characters are known to belong to it. -/
def restLength? (length : Nat) (t : Text) : Option Nat :=
  (domainLength? 0 false false false (t.drop length)).map fun n =>
    length + n + pathLength 0 0 0 (t.drop (length + n))

/-- The length of a web address at the front of a text, if `before` allows one to begin. -/
def webLength? (before : Option Char) (t : Text) : Option Nat :=
  let lower := (t.take 8).map Text.lowerAscii
  let afterLetter := (before.map Text.isLetter).getD false
  let mayBegin :=
    (before.map fun c => ['\t', '\n', ' ', '(', '*', '_', '[', ']', '~'].contains c).getD true
  if !afterLetter && Text.startsWith "http://".toList lower then restLength? 7 t
  else if !afterLetter && Text.startsWith "https://".toList lower then restLength? 8 t
  else if mayBegin && Text.startsWith "www.".toList lower && 4 < t.length then restLength? 0 t
  else none

/-! ## Mail addresses -/

/-- A character before the at sign. -/
def isLocalChar (c : Char) : Bool :=
  Text.isAlnum c || c == '+' || c == '-' || c == '.' || c == '_'

/-- The length of a mail domain. It has a dot, and ends in a letter. -/
def mailDomainLength? (path : Bool) (t : Text) : Option Nat :=
  go 0 false none t
where
  /-- After `length` characters, the last of which is `before`. -/
  go (length : Nat) (dot : Bool) (before : Option Char) : Text → Option Nat
    | [] => finish length dot before
    | c :: cs =>
      if Text.isAlnum c || c == '-' || c == '_' || (path && c == '/') then
        go (length + 1) dot (some c) cs
      else if c == '.' && (cs.head?.map Text.isAlnum).getD false then go (length + 1) true (some c) cs
      else finish length dot before
  /-- The domain ends here. -/
  finish (length : Nat) (dot : Bool) (before : Option Char) : Option Nat :=
    if dot && (before.map Text.isLetter).getD false then some length else none

/-- The scheme in front of a mail address. Of `before`, the nearest character comes first. -/
def mailScheme (before : Text) : Nat × Bool :=
  match before with
  | ':' :: rest =>
    let name := (rest.takeWhile Text.isAlnum).reverse.map Text.lowerAscii
    if name == "xmpp".toList then (5, true)
    else if name == "mailto".toList then (7, false)
    else (0, false)
  | _ => (0, false)

/-- A part of a text: plain, or a mail address. -/
inductive MailPart where
  | plain (t : Text)
  | address (t : Text)
  deriving DecidableEq, Repr

/-- Splits a text at its mail addresses. Of `before`, the plain characters already read, the
nearest comes first; `skip` characters still belong to the address read last. -/
def mailParts (before : Text) (skip : Nat) : Text → List MailPart
  | [] => if before.isEmpty then [] else [.plain before.reverse]
  | c :: cs =>
    if 0 < skip then mailParts [] (skip - 1) cs
    else if c == '@' then
      let localPart := before.takeWhile isLocalChar
      let rest := before.dropWhile isLocalChar
      -- A slash in front makes the at sign a part of some path.
      if localPart.isEmpty || rest.head? == some '/' then mailParts (c :: before) 0 cs
      else
        let (schemeLength, path) := mailScheme rest
        match mailDomainLength? path cs with
        | none => mailParts (c :: before) 0 cs
        | some n =>
          let start := localPart.length + schemeLength
          let plain := before.drop start
          let address := (before.take start).reverse ++ c :: cs.take n
          (if plain.isEmpty then [] else [.plain plain.reverse]) ++
            .address address :: mailParts [] n cs
    else mailParts (c :: before) 0 cs

end Literal

end DocLint.Markdown
