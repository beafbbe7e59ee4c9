import DocLint.Text.Utf8

/-!
# Globs

A glob is a sequence of tokens that a whole path has to match. Paths are matched byte by byte, so
one wildcard for a single place takes one byte of a character only. Whether wildcards take a slash
is chosen per glob; directories are crossed by the tokens for directories in any case.
-/

namespace DocLint

namespace Glob

/-- A part of a glob. -/
inductive Token where
  | char (c : Char)
  /-- Any byte. -/
  | any
  /-- Any number of bytes. -/
  | many
  /-- The way down from the top: nothing, or anything up to a slash. -/
  | leading
  /-- Everything below: a slash and anything after it. -/
  | under
  /-- Directories in between: a slash, or anything between two slashes. -/
  | between
  /-- One byte of the characters in some ranges, or of no such character. -/
  | oneOf (negated : Bool) (ranges : List (Char × Char))
  /-- One of several sequences. Without any it takes nothing. -/
  | choice (branches : List (List Token))
  deriving Repr

def slash : UInt8 := 0x2F

/-- Whether a byte is in the range of two characters. A character of several bytes brings in all of
them, and the range reaches from the last byte of the first character to the first byte of the
last. -/
def inRange (r : Char × Char) (b : UInt8) : Bool :=
  let first := Text.Utf8.encodeChar r.1
  let last := Text.Utf8.encodeChar r.2
  first.contains b || last.contains b ||
    match first.getLast?, last.head? with
    | some lo, some hi => lo ≤ b && b ≤ hi
    | _, _ => false

/-- What follows a slash, for every slash. -/
def afterSlashes : List UInt8 → List (List UInt8)
  | [] => []
  | b :: bs => if b == slash then bs :: afterSlashes bs else afterSlashes bs

/-- What is left after any number of bytes that satisfy `p`. -/
def afterMany (p : UInt8 → Bool) : List UInt8 → List (List UInt8)
  | [] => [[]]
  | b :: bs => (b :: bs) :: if p b then afterMany p bs else []

def afterBytes : (given bytes : List UInt8) → List (List UInt8)
  | [], bytes => [bytes]
  | _ :: _, [] => []
  | a :: as, b :: bs => if a == b then afterBytes as bs else []

/-- Drops endings of one text that are equal because they are equally long. -/
def distinct (rests : List (List UInt8)) : List (List UInt8) :=
  (rests.foldl (fun kept r => if kept.any (·.length == r.length) then kept else r :: kept)
    []).reverse

mutual

/-- What can be left of a path after a token took its part. `crossing` tells whether wildcards take a
slash. -/
def Token.rests (crossing : Bool) : Token → List UInt8 → List (List UInt8)
  | .char c, bytes => afterBytes (Text.Utf8.encodeChar c) bytes
  | .any, bytes =>
    match bytes with
    | [] => []
    | b :: bs => if crossing || b != slash then [bs] else []
  | .many, bytes => afterMany (fun b => crossing || b != slash) bytes
  | .leading, bytes => bytes :: afterSlashes bytes
  | .under, bytes =>
    match bytes with
    | [] => []
    | b :: bs => if b == slash then afterMany (fun _ => true) bs else []
  | .between, bytes =>
    match bytes with
    | [] => []
    | b :: bs => if b == slash then bs :: afterSlashes bs else []
  | .oneOf negated ranges, bytes =>
    match bytes with
    | [] => []
    | b :: bs => if ranges.any (inRange · b) != negated then [bs] else []
  | .choice branches, bytes => if branches.isEmpty then [bytes] else restsOfAny crossing branches bytes

/-- What can be left of a path after tokens in a row. -/
def restsOfAll (crossing : Bool) : List Token → List UInt8 → List (List UInt8)
  | [], bytes => [bytes]
  | t :: ts, bytes => distinct ((t.rests crossing bytes).flatMap (restsOfAll crossing ts))

/-- What can be left of a path after one of several sequences. -/
def restsOfAny (crossing : Bool) : List (List Token) → List UInt8 → List (List UInt8)
  | [], _ => []
  | ts :: more, bytes => restsOfAll crossing ts bytes ++ restsOfAny crossing more bytes

end

end Glob

/-- A pattern for paths. -/
structure Glob where
  tokens : List Glob.Token
  /-- Whether wildcards take a slash. -/
  crossing : Bool
  deriving Repr

namespace Glob

/-- Whether a path matches. The glob of nothing but directories matches every path. -/
def accepts (g : Glob) (path : Text) : Bool :=
  match g.tokens with
  | [.leading] => true
  | ts => (restsOfAll g.crossing ts (Text.Utf8.encode path)).any List.isEmpty

end Glob

end DocLint
