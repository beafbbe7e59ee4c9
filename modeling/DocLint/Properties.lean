import DocLint.Line

/-!
# Property files

A property file holds keys with values. A backslash at the end of a line continues it on the next
one, lines that begin with `#` or `!` are comments, and a backslash before a character takes its
special meaning away. `entries` reads all definitions in their order.
-/

namespace DocLint.Properties

/-- The character that an escaped character stands for. -/
def unescapeChar : Char → Char
  | 't' => '\t'
  | 'n' => '\n'
  | 'r' => '\r'
  | 'f' => '\x0c'
  | c => c

/-- Resolves the escapes of a text. A backslash at the end stands for nothing. -/
def unescape : Text → Text
  | [] => []
  | ['\\'] => []
  | '\\' :: c :: cs => unescapeChar c :: unescape cs
  | c :: cs => c :: unescape cs

/-- Whether a line goes on with the next one: an odd number of backslashes ends it. -/
def continues (line : Text) : Bool :=
  (line.reverse.takeWhile (· == '\\')).length % 2 == 1

/-- Whether a line outside of a continuation says nothing. -/
def isSkipped : Text → Bool
  | [] => true
  | c :: _ => c == '#' || c == '!'

/-- Joins lines that continue each other. `pending` holds what was read of a line that goes on. -/
def joinLines (pending : Option Text) : List Text → List Text
  | [] => pending.toList
  | raw :: more =>
    let line := Text.trimStart raw
    -- There are no comments inside of a definition.
    if pending.isNone && isSkipped line then joinLines none more
    else if continues line then joinLines (some (pending.getD [] ++ line.dropLast)) more
    else (pending.getD [] ++ line) :: joinLines none more

def logicalLines (t : Text) : List Text :=
  joinLines none t.lines

def valueOf (t : Text) : Text :=
  unescape (Text.trimStart t)

/-- Splits a logical line into key and value. The first `=`, `:` or white space that is not escaped
ends the key; white space may stand before and after one `=` or `:`. -/
def splitLine : Text → Text × Text
  | [] => ([], [])
  | ['\\'] => ([], [])
  | '\\' :: c :: cs =>
    let (key, value) := splitLine cs
    (unescapeChar c :: key, value)
  | c :: cs =>
    if c == '=' || c == ':' then ([], valueOf cs)
    else if Text.isWhite c then
      match Text.trimStart cs with
      | [] => ([], [])
      -- White space and the separator behind it end the key together.
      | d :: ds => ([], valueOf (if d == '=' || d == ':' then ds else d :: ds))
    else
      let (key, value) := splitLine cs
      (c :: key, value)

def entries (t : Text) : List (Text × Text) :=
  (logicalLines t).map splitLine

/-- The value of a key: its last definition counts. -/
def value? (t : Text) (key : Text) : Option Text :=
  ((entries t).reverse.find? (·.1 == key)).map Prod.snd

end DocLint.Properties
