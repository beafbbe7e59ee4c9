import DocLint.Json.Basic
import DocLint.Text.Property

/-!
# Tokens of relaxed JSON

Relaxed JSON allows comments, strings in single quotes, words without quotes as keys, hexadecimal
numbers and a plus sign. `tokens` cuts a text into tokens. Each carries the text from its beginning
on, from which its position can be told.
-/

namespace DocLint.Json

/-- What can be wrong with a text. -/
inductive Fault where
  | unterminatedObject
  | unterminatedArray
  | unterminatedComment
  | unterminatedString
  | unexpectedTokenInObject
  | expectedColon
  | expectedValue
  | unexpectedCloseBrace
  | unexpectedCloseBracket
  | unexpectedComma
  | unexpectedColon
  | unexpectedWord
  | unexpectedToken
  | secondValue
  | invalidEscape
  | doubleQuoteEscaped
  | singleQuoteEscaped
  | expectedHexDigits
  | invalidSurrogate (hex : Text) (why : Text)
  | expectedDigit
  | expectedDigitAfterSign
  | expectedExponent
  deriving DecidableEq, Repr

def Fault.message : Fault → Text
  | .unterminatedObject => "Unterminated object".toList
  | .unterminatedArray => "Unterminated array".toList
  | .unterminatedComment => "Unterminated comment block".toList
  | .unterminatedString => "Unterminated string literal".toList
  | .unexpectedTokenInObject => "Unexpected token in object".toList
  | .expectedColon => "Expected colon after the string or word in object property".toList
  | .expectedValue => "Expected value after colon in object property".toList
  | .unexpectedCloseBrace => "Unexpected close brace".toList
  | .unexpectedCloseBracket => "Unexpected close bracket".toList
  | .unexpectedComma => "Unexpected comma".toList
  | .unexpectedColon => "Unexpected colon".toList
  | .unexpectedWord => "Unexpected word".toList
  | .unexpectedToken => "Unexpected token".toList
  | .secondValue => "Text cannot contain more than one JSON value".toList
  | .invalidEscape => "Invalid escape".toList
  | .doubleQuoteEscaped => "Invalid escape in single quote string".toList
  | .singleQuoteEscaped => "Invalid escape in double quote string".toList
  | .expectedHexDigits => "Expected four hex digits".toList
  | .invalidSurrogate hex why =>
    "Invalid unicode escape sequence. '".toList ++ hex ++ " (".toList ++ why ++
      ")' is not a valid UTF8 character".toList
  | .expectedDigit => "Expected digit".toList
  | .expectedDigitAfterSign => "Expected digit following negative sign".toList
  | .expectedExponent => "Expected plus, minus, or digit in number literal".toList

/-- A fault at the beginning of a part of the text. -/
structure FaultAt where
  fault : Fault
  rest : Text
  deriving DecidableEq, Repr

/-- A token. Numbers are kept as they are written. -/
inductive Token where
  | openBrace
  | closeBrace
  | openBracket
  | closeBracket
  | comma
  | colon
  | null
  | bool (b : Bool)
  | number (source : Text)
  | string (value : Text)
  | word (name : Text)
  deriving DecidableEq, Repr

/-! ## Blanks and comments -/

/-- Where the reader of blanks and comments stands. -/
inductive Blank where
  | outside
  | lineComment
  /-- In a comment that begins with the given part of the text. -/
  | blockComment (start : Text)
  deriving DecidableEq, Repr

/-- Drops blanks and comments. A comment to the end of the line does not end at a carriage return
alone. -/
def skipBlank : Blank → Text → Except FaultAt Text
  | .outside, '/' :: '/' :: cs => skipBlank .lineComment cs
  | .outside, '/' :: '*' :: cs => skipBlank (.blockComment ('/' :: '*' :: cs)) cs
  | .outside, c :: cs => if Text.isWhite c then skipBlank .outside cs else .ok (c :: cs)
  | .lineComment, '\r' :: '\n' :: cs => skipBlank .outside cs
  | .lineComment, '\n' :: cs => skipBlank .outside cs
  | .lineComment, _ :: cs => skipBlank .lineComment cs
  | .blockComment _, '*' :: '/' :: cs => skipBlank .outside cs
  | .blockComment start, _ :: cs => skipBlank (.blockComment start) cs
  | .blockComment start, [] => .error ⟨.unterminatedComment, start⟩
  | _, [] => .ok []

/-! ## Strings -/

/-- Reads four hexadecimal digits, as they are written and as a number. -/
def hexFour? : Text → Option (Text × Nat × Text)
  | a :: b :: c :: d :: rest =>
    match Text.hexValue? a, Text.hexValue? b, Text.hexValue? c, Text.hexValue? d with
    | some w, some x, some y, some z =>
      some ([a, b, c, d], ((w * 16 + x) * 16 + y) * 16 + z, rest)
    | _, _, _, _ => none
  | _ => none

/-- Reads the digits after `\u`. A pair of surrogates makes one character; one alone makes none. -/
def unicodeEscape (t : Text) : Except Fault (Char × Text) :=
  match hexFour? t with
  | none => .error .expectedHexDigits
  | some (hex, n, rest) =>
    if 0xDC00 ≤ n && n ≤ 0xDFFF then
      .error (.invalidSurrogate hex "unpaired low surrogate".toList)
    else if 0xD800 ≤ n && n ≤ 0xDBFF then
      -- The other half of the pair has to follow at once.
      match rest with
      | '\\' :: 'u' :: rest =>
        match hexFour? rest with
        | none => .error .expectedHexDigits
        | some (_, m, rest) =>
          if 0xDC00 ≤ m && m ≤ 0xDFFF then
            .ok (Char.ofNat (0x10000 + (n - 0xD800) * 0x400 + (m - 0xDC00)), rest)
          else .error (.invalidSurrogate hex "high surrogate not followed by low surrogate".toList)
      | _ => .error (.invalidSurrogate hex "unpaired high surrogate".toList)
    else .ok (Char.ofNat n, rest)

/-- Reads an escape after its backslash, in a string between the given quotes. -/
def escape (mark : Char) : Text → Except Fault (Char × Text)
  | [] => .error .unterminatedString
  | c :: cs =>
    if c == 'u' then unicodeEscape cs
    else if c == '"' && mark != '"' then .error .doubleQuoteEscaped
    else if c == '\'' && mark == '"' then .error .singleQuoteEscaped
    else if c == '"' || c == '\'' || c == '\\' || c == '/' then .ok (c, cs)
    else if c == 'b' then .ok ('\x08', cs)
    else if c == 'f' then .ok ('\x0c', cs)
    else if c == 'n' then .ok ('\n', cs)
    else if c == 'r' then .ok ('\r', cs)
    else if c == 't' then .ok ('\t', cs)
    else .error .invalidEscape

/-- Reads a string up to its closing quote. `start` is the text from its opening quote on, and `read`
holds the characters so far in reverse order. Every step takes a character. -/
def stringRest (mark : Char) (start : Text) : (fuel : Nat) → (read : Text) → Text →
    Except FaultAt (Text × Text)
  | 0, _, _ => .error ⟨.unterminatedString, start⟩
  | _ + 1, _, [] => .error ⟨.unterminatedString, start⟩
  | _ + 1, _, ['\\'] => .error ⟨.unterminatedString, start⟩
  | fuel + 1, read, '\\' :: cs =>
    match escape mark cs with
    | .error e => .error ⟨e, '\\' :: cs⟩
    | .ok (c, rest) => stringRest mark start fuel (c :: read) rest
  | fuel + 1, read, c :: cs =>
    if c == mark then .ok (read.reverse, cs) else stringRest mark start fuel (c :: read) cs

/-! ## Numbers and words -/

def dropDigits (t : Text) : Text :=
  t.dropWhile Text.isDigit

/-- Drops digits, of which there must be one. -/
def someDigits (fault : Fault) (t : Text) : Except FaultAt Text :=
  match t with
  | c :: _ => if Text.isDigit c then .ok (dropDigits t) else .error ⟨fault, t⟩
  | [] => .error ⟨fault, t⟩

def afterFraction : Text → Except FaultAt Text
  | '.' :: cs => someDigits .expectedDigit cs
  | t => .ok t

def afterExponent : Text → Except FaultAt Text
  | c :: cs =>
    if c == 'e' || c == 'E' then
      match cs with
      | '+' :: ds | '-' :: ds => someDigits .expectedDigit ds
      | _ => someDigits .expectedExponent cs
    else .ok (c :: cs)
  | [] => .ok []

/-- What is left after a number without its sign. A zero is not followed by further digits. -/
def afterDigits : Text → Except FaultAt Text
  | '0' :: 'x' :: cs | '0' :: 'X' :: cs =>
    match cs with
    | c :: _ =>
      if (Text.hexValue? c).isSome then .ok (cs.dropWhile fun c => (Text.hexValue? c).isSome)
      else .error ⟨.expectedDigit, cs⟩
    | [] => .error ⟨.expectedDigit, cs⟩
  | '0' :: cs => (afterFraction cs).bind afterExponent
  | t => ((someDigits .expectedDigitAfterSign t).bind afterFraction).bind afterExponent

def afterNumber : Text → Except FaultAt Text
  | '+' :: cs | '-' :: cs => afterDigits cs
  | t => afterDigits t

/-- Drops a word that no letter or digit may follow. -/
def afterWord? (word t : Text) : Option Text :=
  match Text.after? word t with
  | some (c :: rest) => if Text.isAlphanumeric c then none else some (c :: rest)
  | r => r

/-- Reads a word up to white space, a colon or the end. Any other character after it is a fault at
the beginning of the word. -/
def word (t : Text) : Except FaultAt (Text × Text) :=
  let isPart := fun c => Text.isAlphanumeric c || c == '-' || c == '_'
  let name := t.takeWhile isPart
  let rest := t.dropWhile isPart
  match name, rest with
  | [], _ => .error ⟨.unexpectedToken, t⟩
  | _, [] => .ok (name, [])
  | _, c :: _ =>
    if Text.isWhite c || c == ':' then .ok (name, rest) else .error ⟨.unexpectedToken, t⟩

def token (c : Char) (cs : Text) : Except FaultAt (Token × Text) :=
  let t := c :: cs
  match c with
  | '\x7b' => .ok (.openBrace, cs)
  | '\x7d' => .ok (.closeBrace, cs)
  | '[' => .ok (.openBracket, cs)
  | ']' => .ok (.closeBracket, cs)
  | ',' => .ok (.comma, cs)
  | ':' => .ok (.colon, cs)
  | '/' => .error ⟨.unexpectedToken, t⟩
  | _ =>
    if c == '"' || c == '\'' then
      (stringRest c t t.length [] cs).map fun (value, rest) => (.string value, rest)
    else if c == '-' || c == '+' || Text.isDigit c then
      (afterNumber t).map fun rest => (.number (t.take (t.length - rest.length)), rest)
    else
      match afterWord? "true".toList t with
      | some rest => .ok (.bool true, rest)
      | none =>
        match afterWord? "false".toList t with
        | some rest => .ok (.bool false, rest)
        | none =>
          match afterWord? "null".toList t with
          | some rest => .ok (.null, rest)
          | none => (word t).map fun (name, rest) => (.word name, rest)

/-- Tokens with the text from their beginning on, and what ends them. -/
inductive Tokens where
  /-- The end of the text. -/
  | done
  | fault (f : FaultAt)
  | token (t : Token) (start : Text) (more : Tokens)
  deriving DecidableEq, Repr

/-- Cuts a text into tokens, up to the first fault. Every step takes a character. -/
def tokens : (fuel : Nat) → Text → Tokens
  | 0, _ => .done
  | fuel + 1, t =>
    match skipBlank .outside t with
    | .error f => .fault f
    | .ok [] => .done
    | .ok (c :: cs) =>
      match token c cs with
      | .error f => .fault f
      | .ok (tok, rest) => .token tok (c :: cs) (tokens fuel rest)

end DocLint.Json
