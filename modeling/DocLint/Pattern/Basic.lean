import DocLint.Pattern.CharSet

/-!
# Patterns

A pattern describes pieces of a text: characters of a set, places with a property such as the start
of a word, and the usual combinations. `ends` lists the places where a piece that starts at a given
place can end, and `occursIn` tells whether a text holds such a piece anywhere.
-/

namespace DocLint

namespace Pattern

/-- A place between two characters of a text. -/
structure Place where
  /-- The number of characters before the place. -/
  index : Nat
  /-- The character before the place. -/
  before : Option Char
  rest : Text
  deriving DecidableEq, Repr

namespace Place

def start (t : Text) : Place :=
  ⟨0, none, t⟩

def next (p : Place) : Option Char :=
  p.rest.head?

/-- The places of a text from a given one on. -/
def onwardFrom (index : Nat) (before : Option Char) : Text → List Place
  | [] => [⟨index, before, []⟩]
  | c :: cs => ⟨index, before, c :: cs⟩ :: onwardFrom (index + 1) (some c) cs

def all (t : Text) : List Place :=
  onwardFrom 0 none t

def distinct (ps : List Place) : List Place :=
  (ps.foldl (fun kept p => if kept.any (·.index == p.index) then kept else p :: kept) []).reverse

end Place

/-- A property of places. Where words matter, the characters of words are given as a set. -/
inductive Anchor where
  | textStart
  | textEnd
  | lineStart
  | lineEnd
  /-- The start of a line, where `\r\n`, `\r` and `\n` end lines. -/
  | anyLineStart
  | anyLineEnd
  | wordEdge (chars : CharSet)
  | noWordEdge (chars : CharSet)
  | wordStart (chars : CharSet)
  | wordEnd (chars : CharSet)
  | beforeNoWord (chars : CharSet)
  | afterNoWord (chars : CharSet)
  deriving DecidableEq, Repr

/-- Whether a place has a property. -/
def Anchor.holds (p : Place) : Anchor → Bool
  | .textStart => p.before.isNone
  | .textEnd => p.next.isNone
  | .lineStart => p.before.all (· == '\n')
  | .lineEnd => p.next.all (· == '\n')
  | .anyLineStart =>
    p.before.all fun c => c == '\n' || (c == '\r' && p.next != some '\n')
  | .anyLineEnd =>
    p.next.all fun c => c == '\r' || (c == '\n' && p.before != some '\r')
  | .wordEdge w => p.before.any w.has != p.next.any w.has
  | .noWordEdge w => p.before.any w.has == p.next.any w.has
  | .wordStart w => !p.before.any w.has && p.next.any w.has
  | .wordEnd w => p.before.any w.has && !p.next.any w.has
  | .beforeNoWord w => !p.next.any w.has
  | .afterNoWord w => !p.before.any w.has

end Pattern

/-- A pattern for pieces of a text. -/
inductive Pattern where
  /-- The empty piece. -/
  | empty
  /-- One character of a set. -/
  | one (s : Pattern.CharSet)
  /-- The empty piece at a place with a property. -/
  | place (a : Pattern.Anchor)
  | seq (a b : Pattern)
  | alt (a b : Pattern)
  /-- At least `least` and at most `most` pieces in a row. -/
  | times (p : Pattern) (least : Nat) (most : Option Nat)
  deriving DecidableEq, Repr

namespace Pattern

/-- The places after exactly `n` steps from some places. -/
def exactly (step : Place → List Place) : Nat → List Place → List Place
  | 0, ps => ps
  | n + 1, ps => exactly step n (Place.distinct (ps.flatMap step))

/-- The places after at most `n` steps that each take a character. -/
def upTo (step : Place → List Place) : Nat → List Place → List Place
  | 0, ps => ps
  | n + 1, ps =>
    let next := Place.distinct (ps.flatMap fun p => (step p).filter fun q => p.index < q.index)
    if next.isEmpty then ps else ps ++ upTo step n next

/-- The places where a piece that starts at `p` can end. A text has no room for more pieces than
characters but for empty ones, and an empty piece can be repeated or left out, so more steps than
places lead nowhere else. -/
def ends : Pattern → Place → List Place
  | .empty, p => [p]
  | .one s, p =>
    match p.rest with
    | [] => []
    | c :: cs => if s.has c then [⟨p.index + 1, some c, cs⟩] else []
  | .place a, p => if a.holds p then [p] else []
  | .seq a b, p => Place.distinct ((a.ends p).flatMap b.ends)
  | .alt a b, p => Place.distinct (a.ends p ++ b.ends p)
  | .times q least most, p =>
    let room := p.rest.length
    let first := exactly q.ends (min least (room + 1)) [p]
    let more :=
      match most with
      | some most => min (most - least) room
      | none => room
    Place.distinct (upTo q.ends more first)

/-- Whether a text holds a piece of the pattern. -/
def occursIn (p : Pattern) (t : Text) : Bool :=
  (Place.all t).any fun q => !(p.ends q).isEmpty

end Pattern

end DocLint
