import DocLint.Json.Binary64

/-!
# JSON

JSON values, with the members of objects sorted by key, and their text: `render` on one line, and
`pretty` with one member on each line.
-/

namespace DocLint

/-- A number: whole, or a floating point number with its sign. -/
inductive Json.Number where
  | int (n : Int)
  | float (negative : Bool) (d : Json.Binary64)
  deriving DecidableEq, Repr

/-- A JSON value. -/
inductive Json where
  | null
  | bool (b : Bool)
  | num (n : Json.Number)
  | str (t : Text)
  | arr (xs : List Json)
  | obj (members : List (Text × Json))
  deriving Repr

namespace Json

def Number.text : Number → Text
  | .int n => (if n < 0 then ['-'] else []) ++ Text.ofNat n.natAbs
  | .float negative d => (if negative then ['-'] else []) ++ d.text

/-- Adds a member to others that are sorted by key. A member of the same key is replaced. -/
def insert (key : Text) (value : Json) : List (Text × Json) → List (Text × Json)
  | [] => [(key, value)]
  | (k, v) :: more =>
    match Text.compare key k with
    | .lt => (key, value) :: (k, v) :: more
    | .eq => (key, value) :: more
    | .gt => (k, v) :: insert key value more

/-- The object of some members. Of members of the same key the last one counts. -/
def ofMembers (members : List (Text × Json)) : Json :=
  .obj (members.foldl (fun sorted (k, v) => insert k v sorted) [])

def member? (key : Text) : Json → Option Json
  | .obj members => members.lookup key
  | _ => none

/-! ## Text -/

def hexDigit (n : Nat) : Char :=
  if n < 10 then Char.ofNat (48 + n) else Char.ofNat (87 + n)

/-- A character inside of a string. Only quotes, backslashes and control characters are escaped. -/
def escapeChar (c : Char) : Text :=
  if c == '"' then ['\\', '"']
  else if c == '\\' then ['\\', '\\']
  else if c == '\x08' then ['\\', 'b']
  else if c == '\x0c' then ['\\', 'f']
  else if c == '\n' then ['\\', 'n']
  else if c == '\r' then ['\\', 'r']
  else if c == '\t' then ['\\', 't']
  else if c.toNat < 32 then ['\\', 'u', '0', '0', hexDigit (c.toNat / 16), hexDigit (c.toNat % 16)]
  else [c]

def quote (t : Text) : Text :=
  ['"'] ++ t.flatMap escapeChar ++ ['"']

def boolText (b : Bool) : Text :=
  if b then "true".toList else "false".toList

mutual

/-- The text of a value on one line, without spaces. -/
def render : Json → Text
  | .null => "null".toList
  | .bool b => boolText b
  | .num n => n.text
  | .str t => quote t
  | .arr xs => ['['] ++ Text.joinWith [','] (renderAll xs) ++ [']']
  | .obj ms => ['\x7b'] ++ Text.joinWith [','] (renderMembers ms) ++ ['\x7d']

def renderAll : List Json → List Text
  | [] => []
  | x :: xs => x.render :: renderAll xs

def renderMembers : List (Text × Json) → List Text
  | [] => []
  | (k, v) :: ms => (quote k ++ [':'] ++ v.render) :: renderMembers ms

end

/-- A new line with an indentation of `depth` steps of two spaces. -/
def newline (depth : Nat) : Text :=
  '\n' :: List.replicate (2 * depth) ' '

/-- Puts texts between brackets, each on a line of its own. -/
def layOut (opening closing : Char) (depth : Nat) (parts : List Text) : Text :=
  if parts.isEmpty then [opening, closing]
  else
    [opening] ++ newline (depth + 1) ++ Text.joinWith (',' :: newline (depth + 1)) parts ++
      newline depth ++ [closing]

mutual

/-- The text of a value over several lines, at an indentation of `depth` steps. -/
def prettyAt (depth : Nat) : Json → Text
  | .null => "null".toList
  | .bool b => boolText b
  | .num n => n.text
  | .str t => quote t
  | .arr xs => layOut '[' ']' depth (prettyAll (depth + 1) xs)
  | .obj ms => layOut '\x7b' '\x7d' depth (prettyMembers (depth + 1) ms)

def prettyAll (depth : Nat) : List Json → List Text
  | [] => []
  | x :: xs => x.prettyAt depth :: prettyAll depth xs

def prettyMembers (depth : Nat) : List (Text × Json) → List Text
  | [] => []
  | (k, v) :: ms => (quote k ++ [':', ' '] ++ v.prettyAt depth) :: prettyMembers depth ms

end

def pretty (j : Json) : Text :=
  j.prettyAt 0

end Json

end DocLint
