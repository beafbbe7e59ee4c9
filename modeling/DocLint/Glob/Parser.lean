import DocLint.Glob.Basic

/-!
# Reading globs

The notation of globs: `?`, `*`, `**`, sets in brackets, alternatives in braces, and the backslash
before a character that stands for itself. `parse` reads a glob or tells the first fault in it.
-/

namespace DocLint.Glob

/-- Why a text is no glob. -/
inductive Fault where
  | unclosedSet
  | invalidRange (first last : Char)
  | unopenedChoice
  | unclosedChoice
  | danglingEscape
  deriving DecidableEq, Repr

def Fault.message : Fault → Text
  | .unclosedSet => "unclosed character class; missing ']'".toList
  | .invalidRange a b =>
    "invalid range; '".toList ++ [a] ++ "' > '".toList ++ [b] ++ "'".toList
  | .unopenedChoice =>
    "unopened alternate group; missing '\x7b' (maybe escape '\x7d' with '[\x7d]'?)".toList
  | .unclosedChoice =>
    "unclosed alternate group; missing '\x7d' (maybe escape '\x7b' with '[\x7b]'?)".toList
  | .danglingEscape => "dangling '\\'".toList

/-! ## Sets in brackets -/

/-- Extends the last range, which comes first, to a character. -/
def extendRange (c : Char) : List (Char × Char) → Except Fault (List (Char × Char))
  | [] => .ok []
  | (lo, _) :: before => if c < lo then .error (.invalidRange lo c) else .ok ((lo, c) :: before)

/-- Reads the members of a set up to the closing bracket, which is a member itself if it comes first.
A dash between two members makes a range, also of a range; first or last it is a member. The ranges
so far are in reverse order, and `inRange` tells that a dash waits for its second member. -/
def members (isFirst inRange : Bool) (ranges : List (Char × Char)) :
    Text → Except Fault (List (Char × Char) × Text)
  | [] => .error .unclosedSet
  | c :: cs =>
    if c == ']' && !isFirst then
      .ok ((if inRange then ('-', '-') :: ranges else ranges).reverse, cs)
    -- What a dash means shows at the next character.
    else if c == '-' && !isFirst && !inRange then members false true ranges cs
    else if inRange then
      match extendRange c ranges with
      | .ok ranges => members false false ranges cs
      | .error e => .error e
    else members false false ((c, c) :: ranges) cs

/-- Reads a set after its opening bracket. -/
def set : Text → Except Fault (Token × Text)
  | '!' :: cs | '^' :: cs => (members true false [] cs).map fun (rs, rest) => (.oneOf true rs, rest)
  | cs => (members true false [] cs).map fun (rs, rest) => (.oneOf false rs, rest)

/-! ## Sequences and choices -/

/-- A glob of which a part is read. Tokens and branches are in reverse order. -/
structure Builder where
  /-- The tokens of the present branch. -/
  tokens : List Token := []
  /-- For each open choice, the innermost first: its branches so far, and the tokens before it. -/
  choices : List (List (List Token) × List Token) := []

namespace Builder

def inChoice (b : Builder) : Bool :=
  !b.choices.isEmpty

def push (b : Builder) (t : Token) : Builder :=
  { b with tokens := t :: b.tokens }

def openChoice (b : Builder) : Builder :=
  ⟨[], ([], b.tokens) :: b.choices⟩

def nextBranch (b : Builder) : Builder :=
  match b.choices with
  | [] => b.push (.char ',')
  | (branches, before) :: outer => ⟨[], (b.tokens.reverse :: branches, before) :: outer⟩

/-- Whether a token takes nothing at all. -/
def isVoid : Token → Bool
  | .choice [] => true
  | _ => false

/-- Closes a choice. Branches that take nothing are dropped. -/
def closeChoice (b : Builder) : Except Fault Builder :=
  match b.choices with
  | [] => .error .unopenedChoice
  | (branches, before) :: outer =>
    let all := (b.tokens.reverse :: branches).reverse
    .ok ⟨.choice (all.filter fun ts => !ts.all isVoid) :: before, outer⟩

/-- Adds two stars that are no token for directories. -/
def twoStars (b : Builder) : Builder :=
  (b.push .many).push .many

/-- Puts a token for directories in the place of the last token, unless that one already stands for
directories at the beginning or at the end. -/
def replaceLast (b : Builder) (t : Token) : Builder :=
  match b.tokens with
  | .leading :: _ | .under :: _ => b
  | _ :: before => { b with tokens := t :: before }
  | [] => b.push t

/-- Adds two stars after the character `prev`, before the text `rest`, and answers the text after
them. They stand for directories if slashes or the ends of the branch surround them. -/
def doubleStar (b : Builder) (prev : Option Char) (rest : Text) : Builder × Text :=
  if b.tokens.isEmpty then
    match rest with
    | [] => (b.push .leading, [])
    | '/' :: cs => (b.push .leading, cs)
    | cs => (b.twoStars, cs)
  else if prev == some '/' || (b.inChoice && (prev == some ',' || prev == some '\x7b')) then
    match rest with
    | [] => (b.replaceLast .under, [])
    | '/' :: cs => (b.replaceLast .between, cs)
    | c :: cs =>
      -- A branch ends like the whole glob.
      if b.inChoice && (c == ',' || c == '\x7d') then (b.replaceLast .under, c :: cs)
      else (b.twoStars, c :: cs)
  else (b.twoStars, rest)

end Builder

/-- The last character of what lies between a text and a later part of it. -/
def lastTaken (t rest : Text) : Option Char :=
  (t.take (t.length - rest.length)).getLast?

/-- Reads the tokens of a glob. `prev` is the character before. Every step takes a character. -/
def scan : (fuel : Nat) → (prev : Option Char) → Builder → Text → Except Fault Builder
  | 0, _, b, _ => .ok b
  | _ + 1, _, b, [] => .ok b
  | fuel + 1, prev, b, c :: cs =>
    match c with
    | '?' => scan fuel (some c) (b.push .any) cs
    | '*' =>
      match cs with
      | '*' :: cs =>
        let (b, rest) := b.doubleStar prev cs
        -- The slash behind the stars may have been taken with them.
        scan fuel ((lastTaken cs rest).or (some '*')) b rest
      | _ => scan fuel (some c) (b.push .many) cs
    | '[' =>
      match set cs with
      | .error e => .error e
      | .ok (t, rest) => scan fuel (some ']') (b.push t) rest
    | '\x7b' => scan fuel (some c) b.openChoice cs
    | '\x7d' =>
      match b.closeChoice with
      | .error e => .error e
      | .ok b => scan fuel (some c) b cs
    | ',' => scan fuel (some c) b.nextBranch cs
    | '\\' =>
      match cs with
      | [] => .error .danglingEscape
      | d :: cs => scan fuel (some d) (b.push (.char d)) cs
    | c => scan fuel (some c) (b.push (.char c)) cs

def parse (crossing : Bool) (t : Text) : Except Fault Glob :=
  match scan t.length none {} t with
  | .error e => .error e
  | .ok b => if b.inChoice then .error .unclosedChoice else .ok ⟨b.tokens.reverse, crossing⟩

/-- The report of a fault in the text of a glob. -/
def report (t : Text) (e : Fault) : Text :=
  "error parsing glob '".toList ++ t ++ "': ".toList ++ e.message

/-- Reads globs, and answers the first text that is none with its fault. -/
def parseAll (crossing : Bool) : List Text → Except (Text × Fault) (List Glob)
  | [] => .ok []
  | t :: ts =>
    match parse crossing t with
    | .error e => .error (t, e)
    | .ok g => (parseAll crossing ts).map (g :: ·)

end DocLint.Glob
