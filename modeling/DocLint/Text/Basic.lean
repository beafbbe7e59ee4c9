/-!
# Text

Text is a list of characters. This module holds the character class *white space*, trimming, and
the few list operations that every reader of the library shares: splitting at a separator,
dropping a known beginning or ending, and the order of texts by code point.
-/

namespace DocLint

/-- A text is the list of its characters. -/
abbrev Text := List Char

namespace Text

/-- The Unicode property `White_Space`. The separators U+001C to U+001F, the zero width space and
the byte order mark do not have it. -/
def isWhite (c : Char) : Bool :=
  let n := c.toNat
  (9 ≤ n && n ≤ 13) || n == 0x20 || n == 0x85 || n == 0xA0 || n == 0x1680 ||
    (0x2000 ≤ n && n ≤ 0x200A) || n == 0x2028 || n == 0x2029 || n == 0x202F || n == 0x205F ||
    n == 0x3000

/-- A text is blank if it holds white space only. -/
def isBlank (t : Text) : Bool :=
  t.all isWhite

/-- The text without the characters of `p` at its end. -/
def dropEnd (p : Char → Bool) (t : Text) : Text :=
  (t.reverse.dropWhile p).reverse

def trimStart (t : Text) : Text :=
  t.dropWhile isWhite

def trimEnd (t : Text) : Text :=
  dropEnd isWhite t

def trim (t : Text) : Text :=
  trimEnd (trimStart t)

/-- The rest of `t` after `beginning`, if `t` starts with it. -/
def after? : (beginning t : Text) → Option Text
  | [], t => some t
  | _ :: _, [] => none
  | b :: bs, c :: cs => if b = c then after? bs cs else none

def startsWith (beginning t : Text) : Bool :=
  (after? beginning t).isSome

def occursIn (needle : Text) : Text → Bool
  | [] => needle.isEmpty
  | c :: cs => startsWith needle (c :: cs) || occursIn needle cs

/-- The pieces of a text between the occurrences of a separator; a text without it is one piece. -/
def splitAt (sep : Char) : Text → List Text
  | [] => [[]]
  | c :: cs =>
    if c = sep then [] :: splitAt sep cs
    else
      match splitAt sep cs with
      | [] => [[c]]
      | piece :: pieces => (c :: piece) :: pieces

def joinWith (sep : Text) : List Text → Text
  | [] => []
  | [piece] => piece
  | piece :: pieces => piece ++ sep ++ joinWith sep pieces

/-- The order of texts by code point, which is also the order of their UTF-8 bytes. -/
def compare : Text → Text → Ordering
  | [], [] => .eq
  | [], _ :: _ => .lt
  | _ :: _, [] => .gt
  | a :: as, b :: bs =>
    if a.toNat < b.toNat then .lt
    else if b.toNat < a.toNat then .gt
    else compare as bs

/-- `a` stands before `b` or is equal to it. -/
def le (a b : Text) : Bool :=
  compare a b != .gt

def ofNat (n : Nat) : Text :=
  Nat.toDigits 10 n

def isDigit (c : Char) : Bool :=
  '0' ≤ c && c ≤ '9'

def isLetter (c : Char) : Bool :=
  ('a' ≤ c && c ≤ 'z') || ('A' ≤ c && c ≤ 'Z')

def isAlnum (c : Char) : Bool :=
  isLetter c || isDigit c

def hexValue? (c : Char) : Option Nat :=
  if '0' ≤ c && c ≤ '9' then some (c.toNat - 48)
  else if 'a' ≤ c && c ≤ 'f' then some (c.toNat - 87)
  else if 'A' ≤ c && c ≤ 'F' then some (c.toNat - 55)
  else none

/-- The lower case form of an ASCII letter; other characters stay. -/
def lowerAscii (c : Char) : Char :=
  if 'A' ≤ c && c ≤ 'Z' then Char.ofNat (c.toNat + 32) else c

def sameIgnoringAsciiCase (a b : Text) : Bool :=
  a.map lowerAscii == b.map lowerAscii

/-- The texts without later repetitions of an earlier one, in order of first occurrence. -/
def dedup (ts : List Text) : List Text :=
  (ts.foldl (fun kept t => if kept.contains t then kept else t :: kept) []).reverse

end Text

end DocLint
