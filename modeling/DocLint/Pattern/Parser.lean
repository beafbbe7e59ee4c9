import DocLint.Pattern.Basic

/-!
# Reading patterns

The notation of patterns: literal characters, sets in brackets with the operations `&&`, `--` and
`~~`, escapes, groups, alternatives and repetitions. Flags in groups change how the rest of the
group is read. There is no look-around and there are no back-references. `parse?` reads a pattern
and refuses everything else.
-/

namespace DocLint.Pattern

/-- How a part of a pattern is read. -/
structure Flags where
  /-- Letters also match their variants of case. -/
  anyCase : Bool := false
  /-- `^` and `$` match at lines, not only at the text. -/
  multiLine : Bool := false
  /-- The dot also matches the end of a line. -/
  dotAll : Bool := false
  /-- Lines also end with a carriage return. -/
  carriageReturn : Bool := false
  /-- Classes are those of Unicode, not of ASCII. -/
  unicode : Bool := true
  /-- White space and comments in the pattern do not count. -/
  spaced : Bool := false
  deriving DecidableEq, Repr

namespace Flags

/-- Drops white space and comments. `inComment` tells that a comment has begun. -/
def dropSpace (inComment : Bool) : Text → Text
  | [] => []
  | c :: cs =>
    if inComment then dropSpace (c != '\n') cs
    else if Text.isWhite c then dropSpace false cs
    else if c == '#' then dropSpace true cs
    else c :: cs

/-- Drops what does not count at the beginning of a pattern. -/
def skip (f : Flags) (t : Text) : Text :=
  if f.spaced then dropSpace false t else t

/-- Sets the flag of a letter. Which of two repetitions is preferred does not change whether a
pattern occurs, so `U` changes nothing. -/
def set? (f : Flags) (on : Bool) : Char → Option Flags
  | 'i' => some { f with anyCase := on }
  | 'm' => some { f with multiLine := on }
  | 's' => some { f with dotAll := on }
  | 'R' => some { f with carriageReturn := on }
  | 'u' => some { f with unicode := on }
  | 'x' => some { f with spaced := on }
  | 'U' => some f
  | _ => none

/-- Reads the letters of flags up to `:` or `)`. Those after a minus are turned off; no letter and
no minus may be repeated, and the minus must not be the last. -/
def read? (f : Flags) (seen : Text) : Text → Option (Flags × Text × Text)
  | [] => none
  | c :: cs =>
    if c == ':' || c == ')' then
      if seen.head? == some '-' then none else some (f, seen, c :: cs)
    else if seen.contains c then none
    else if c == '-' then read? f ('-' :: seen) cs
    else
      match f.set? (!seen.contains '-') c with
      | some f => read? f (c :: seen) cs
      | none => none

/-- The characters of words. -/
def wordChars (f : Flags) : CharSet :=
  if f.unicode then .word else CharSet.asciiWord

/-- Adds the variants of case to a set if they count. -/
def close (f : Flags) (s : CharSet) : CharSet :=
  if f.anyCase then
    -- Some variants of ASCII letters are not in ASCII.
    if f.unicode then .anyCase s else .inter (.anyCase s) (.range '\x00' '\x7f')
  else s

/-- The complement of a set. Without Unicode it would hold parts of characters, and is refused. -/
def negate? (f : Flags) (s : CharSet) : Option CharSet :=
  if f.unicode then some (.not s) else none

def choose? (f : Flags) (negated : Bool) (s : CharSet) : Option CharSet :=
  if negated then f.negate? s else some s

end Flags

/-! ## Escapes -/

/-- What a primitive stands for. -/
inductive Atom where
  | char (c : Char)
  | set (s : CharSet)
  | place (a : Anchor)
  deriving DecidableEq, Repr

/-- The character of a code point, if there is one. -/
def charOf? (n : Nat) : Option Char :=
  if h : n.isValidChar then some (Char.ofNatAux n h) else none

def hexDigits (f : Flags) : (n value : Nat) → Text → Option (Nat × Text)
  | 0, value, t => some (value, t)
  | n + 1, value, t =>
    match f.skip t with
    | [] => none
    | c :: cs =>
      match Text.hexValue? c with
      | some d => hexDigits f n (16 * value + d) cs
      | none => none

/-- Reads hexadecimal digits up to a closing brace, at least one. -/
def hexBrace (f : Flags) : (fuel : Nat) → (value : Option Nat) → Text → Option (Nat × Text)
  | 0, _, _ => none
  | fuel + 1, value, t =>
    match f.skip t with
    | [] => none
    | '\x7d' :: cs => value.map (·, cs)
    | c :: cs =>
      match Text.hexValue? c with
      | some d => hexBrace f fuel (some (16 * value.getD 0 + d)) cs
      | none => none

/-- Reads a character by its code point: `digits` hexadecimal digits, or any number of them in
braces. Two digits alone stand for a byte where Unicode is off, and then only ASCII is a character. -/
def hexChar (f : Flags) (digits : Nat) (t : Text) : Option (Char × Text) :=
  match f.skip t with
  | '\x7b' :: cs =>
    match hexBrace f (cs.length + 1) none cs with
    | some (n, rest) => (charOf? n).map (·, rest)
    | none => none
  | cs =>
    match hexDigits f digits 0 cs with
    | some (n, rest) =>
      if !f.unicode && digits == 2 && 128 ≤ n then none else (charOf? n).map (·, rest)
    | none => none

def braceText (f : Flags) : (fuel : Nat) → Text → Option (Text × Text)
  | 0, _ => none
  | fuel + 1, t =>
    match f.skip t with
    | [] => none
    | '\x7d' :: cs => some ([], cs)
    | c :: cs => (braceText f fuel cs).map fun (name, rest) => (c :: name, rest)

/-- Cuts a text at the first occurrence of a separator. -/
def cutAt? (sep : Text) : Text → Option (Text × Text)
  | [] => none
  | c :: cs =>
    match Text.after? sep (c :: cs) with
    | some rest => some ([], rest)
    | none => (cutAt? sep cs).map fun (before, rest) => (c :: before, rest)

/-- The set of a property in braces: a name alone, or a property and its value. -/
def property? (t : Text) : Option (Bool × CharSet) :=
  match cutAt? ['!', '='] t with
  | some (name, value) => (CharSet.ofProperty? name value).map (true, ·)
  | none =>
    match (cutAt? [':'] t).orElse fun _ => cutAt? ['='] t with
    | some (name, value) => (CharSet.ofProperty? name value).map (false, ·)
    | none => (CharSet.ofName? t).map (false, ·)

/-- Reads the name of a property after `\p`: one character, or a text in braces. -/
def propertyName (f : Flags) (t : Text) : Option (Text × Text) :=
  match f.skip t with
  | [] => none
  | '\x7b' :: cs => braceText f (cs.length + 1) cs
  | c :: cs => if c == '\\' then none else some ([c], cs)

/-- Reads a set of characters with a property. -/
def propertySet (f : Flags) (negated : Bool) (t : Text) : Option (CharSet × Text) :=
  match propertyName f t with
  | none => none
  | some (name, rest) =>
    match property? name with
    | none => none
    | some (inverted, s) =>
      if f.unicode then (f.choose? (negated != inverted) (f.close s)).map (·, rest) else none

/-- The set of an escape that stands for a class, and whether it is negated. -/
def classLetter? (f : Flags) : Char → Option (Bool × CharSet)
  | 'd' => some (false, digits)
  | 'D' => some (true, digits)
  | 's' => some (false, spaces)
  | 'S' => some (true, spaces)
  | 'w' => some (false, f.wordChars)
  | 'W' => some (true, f.wordChars)
  | _ => none
where
  digits : CharSet := if f.unicode then .categories [.decimalNumber] else .range '0' '9'
  spaces : CharSet := if f.unicode then .white else CharSet.asciiWhite

/-- The character of an escape that stands for a control character. -/
def controlLetter? : Char → Option Char
  | 'a' => some '\x07'
  | 'f' => some '\x0c'
  | 't' => some '\t'
  | 'n' => some '\n'
  | 'r' => some '\r'
  | 'v' => some '\x0b'
  | _ => none

/-- The letters of a name in braces after `\b`. -/
def edgeLetters (f : Flags) : (fuel : Nat) → Text → Text × Text
  | 0, t => ([], t)
  | fuel + 1, t =>
    match f.skip t with
    | c :: cs =>
      if Text.isLetter c || c == '-' then
        let (name, rest) := edgeLetters f fuel cs
        (c :: name, rest)
      else ([], c :: cs)
    | [] => ([], [])

/-- Reads what follows `\b`: a name in braces makes it one side of a word. Braces that begin with no
letter are a repetition. -/
def wordEdge (f : Flags) (t : Text) : Option (Anchor × Text) :=
  match t with
  | '\x7b' :: cs =>
    match f.skip cs with
    | [] => none
    | c :: rest =>
      if Text.isLetter c || c == '-' then
        match edgeLetters f (rest.length + 1) (c :: rest) with
        | (name, '\x7d' :: rest) =>
          match String.ofList name with
          | "start" => some (.wordStart f.wordChars, rest)
          | "end" => some (.wordEnd f.wordChars, rest)
          | "start-half" => some (.afterNoWord f.wordChars, rest)
          | "end-half" => some (.beforeNoWord f.wordChars, rest)
          | _ => none
        | _ => none
      else some (.wordEdge f.wordChars, t)
  | _ => some (.wordEdge f.wordChars, t)

/-- Reads an escape after its backslash. Letters and digits without a meaning are refused. -/
def escape? (f : Flags) : Text → Option (Atom × Text)
  | [] => none
  | c :: cs =>
    if Text.isDigit c then none
    else if c == 'x' then char (hexChar f 2 cs)
    else if c == 'u' then char (hexChar f 4 cs)
    else if c == 'U' then char (hexChar f 8 cs)
    else if c == 'p' || c == 'P' then
      (propertySet f (c == 'P') cs).map fun (s, rest) => (.set s, rest)
    else
      match classLetter? f c with
      | some (negated, s) => (f.choose? negated s).map fun s => (.set s, cs)
      | none =>
        match controlLetter? c with
        | some d => some (.char d, cs)
        | none =>
          if c == 'A' then some (.place .textStart, cs)
          else if c == 'z' then some (.place .textEnd, cs)
          else if c == 'b' then (wordEdge f cs).map fun (a, rest) => (.place a, rest)
          else if c == 'B' then some (.place (.noWordEdge f.wordChars), cs)
          else if c == '<' then some (.place (.wordStart f.wordChars), cs)
          else if c == '>' then some (.place (.wordEnd f.wordChars), cs)
          -- Any other character of ASCII stands for itself.
          else if c.toNat < 128 && !Text.isLetter c then some (.char c, cs)
          else none
where
  char : Option (Char × Text) → Option (Atom × Text)
    | some (d, rest) => some (.char d, rest)
    | none => none

/-! ## Sets in brackets -/

/-- An operation between the members of a set in brackets. -/
inductive SetOp where
  | inter
  | diff
  | symmDiff
  deriving DecidableEq, Repr

/-- Combines a set with what stands to the left of it. -/
def combine (f : Flags) (left : Option (SetOp × CharSet)) (s : CharSet) : CharSet :=
  match left with
  | none => s
  | some (.inter, l) => .inter (f.close l) (f.close s)
  | some (.diff, l) => .diff (f.close l) (f.close s)
  | some (.symmDiff, l) => .symmDiff (f.close l) (f.close s)

/-- Reads what may stand directly after an opening bracket: `^`, then dashes or a closing bracket
that count as members. -/
def openSet (f : Flags) (t : Text) : Bool × CharSet × Text :=
  match f.skip t with
  | '^' :: cs => (true, first (f.skip cs))
  | cs => (false, first cs)
where
  first (t : Text) : CharSet × Text :=
    match dashes t.length t with
    | (true, rest) => (.single '-', rest)
    | (false, ']' :: rest) => (.single ']', rest)
    | (false, rest) => (.nothing, rest)
  dashes : (fuel : Nat) → Text → Bool × Text
    | fuel + 1, '-' :: cs => (true, (dashes fuel (f.skip cs)).2)
    | _, t => (false, t)

/-- Reads the name of a class between colons, after the bracket before it, and whether it is
negated. -/
def namedSet? : Text → Option (Bool × CharSet × Text)
  | ':' :: '^' :: cs => named true cs
  | ':' :: cs => named false cs
  | _ => none
where
  named (negated : Bool) (t : Text) : Option (Bool × CharSet × Text) :=
    match t.dropWhile (· != ':') with
    | ':' :: ']' :: rest =>
      (CharSet.ofAsciiName? (String.ofList (t.takeWhile (· != ':')))).map (negated, ·, rest)
    | _ => none

/-- Reads one member of a set, without regard to ranges. -/
def member? (f : Flags) : Text → Option (Atom × Text)
  | [] => none
  | '\\' :: cs => escape? f cs
  | c :: cs => some (.char c, cs)

/-- A character as a member of a set. Where Unicode is off, only ASCII can be one. -/
def memberChar? (f : Flags) (c : Char) : Option Char :=
  if f.unicode || c.toNat < 128 then some c else none

/-- Reads one member of a set or a range of characters. -/
def range? (f : Flags) (t : Text) : Option (CharSet × Text) :=
  match member? f t with
  | none => none
  | some (a, rest) =>
    match f.skip rest with
    | [] => none
    | '-' :: cs =>
      match f.skip cs with
      | [] => none
      | c :: after =>
        -- The dash is the last member, or the first half of an operation.
        if c == ']' || c == '-' then single a ('-' :: cs)
        else
          match a, member? f (c :: after) with
          | .char lo, some (.char hi, rest) =>
            match memberChar? f lo, memberChar? f hi with
            | some lo, some hi => if lo ≤ hi then some (.range lo hi, rest) else none
            | _, _ => none
          | _, _ => none
    | rest => single a rest
where
  single (a : Atom) (rest : Text) : Option (CharSet × Text) :=
    match a with
    | .char c => (memberChar? f c).map fun c => (.single c, rest)
    | .set s => some (s, rest)
    | .place _ => none

/-- Reads the members of a set up to its closing bracket. `left` is what an operation waits for, and
`s` holds the members so far. -/
def members (f : Flags) : (fuel : Nat) → (left : Option (SetOp × CharSet)) → (s : CharSet) → Text →
    Option (CharSet × Text)
  | 0, _, _, _ => none
  | fuel + 1, left, s, t =>
    match f.skip t with
    | [] => none
    | ']' :: cs => some (combine f left s, cs)
    | '[' :: cs =>
      -- A bracket that begins no named class opens a set within the set.
      let inner :=
        match namedSet? cs with
        | some named => some named
        | none =>
          let (negated, first, rest) := openSet f cs
          (members f fuel none first rest).map (negated, ·)
      match inner with
      | none => none
      | some (negated, inner, rest) =>
        match f.choose? negated (f.close inner) with
        | none => none
        | some inner => members f fuel left (.union s inner) rest
    | '&' :: '&' :: cs => members f fuel (some (.inter, combine f left s)) .nothing cs
    | '-' :: '-' :: cs => members f fuel (some (.diff, combine f left s)) .nothing cs
    | '~' :: '~' :: cs => members f fuel (some (.symmDiff, combine f left s)) .nothing cs
    | cs =>
      match range? f cs with
      | none => none
      | some (m, rest) => members f fuel left (.union s m) rest

def set? (f : Flags) (t : Text) : Option (CharSet × Text) :=
  let (negated, first, rest) := openSet f t
  match members f (t.length + 1) none first rest with
  | none => none
  | some (s, rest) => (f.choose? negated (f.close s)).map (·, rest)

/-! ## Patterns -/

def ofChar (f : Flags) (c : Char) : Pattern :=
  if f.unicode || c.toNat < 128 then .one (f.close (.single c)) else .one (.single c)

/-- The pattern of the dot. Without Unicode it would match parts of characters, and is refused. -/
def dot? (f : Flags) : Option Pattern :=
  if f.unicode then
    if f.dotAll then some (.one .any)
    else if f.carriageReturn then some (.one (.not (.ofText ['\n', '\r'])))
    else some (.one (.not (.single '\n')))
  else none

/-- The place that `^` stands for. -/
def caret (f : Flags) : Anchor :=
  if f.multiLine then if f.carriageReturn then .anyLineStart else .lineStart else .textStart

def dollar (f : Flags) : Anchor :=
  if f.multiLine then if f.carriageReturn then .anyLineEnd else .lineEnd else .textEnd

/-- Reads a pattern of one part that is neither a group nor a set in brackets. -/
def primitive? (f : Flags) : Text → Option (Pattern × Text)
  | [] => none
  | '\\' :: cs =>
    match escape? f cs with
    | some (.char c, rest) => some (ofChar f c, rest)
    | some (.set s, rest) => some (.one s, rest)
    | some (.place a, rest) => some (.place a, rest)
    | none => none
  | '.' :: cs => (dot? f).map (·, cs)
  | '^' :: cs => some (.place (caret f), cs)
  | '$' :: cs => some (.place (dollar f), cs)
  | c :: cs => some (ofChar f c, cs)

def digits (f : Flags) : (fuel : Nat) → Text → Text × Text
  | 0, t => ([], t)
  | fuel + 1, t =>
    match f.skip t with
    | c :: cs =>
      if Text.isDigit c then
        let (ds, rest) := digits f fuel cs
        (c :: ds, rest)
      else ([], c :: cs)
    | [] => ([], [])

/-- Reads a number below 2³² with white space around it. -/
def decimal? (f : Flags) (t : Text) : Option (Nat × Text) :=
  let (ds, rest) := digits f (t.length + 1) (Text.trimStart t)
  let n := ds.foldl (fun n d => 10 * n + (d.toNat - 48)) 0
  if ds.isEmpty || Nat.pow 2 32 ≤ n then none else some (n, f.skip (Text.trimStart rest))

/-- Reads the counts of a repetition after its opening brace: one number, a least number, or both
bounds. -/
def counts? (f : Flags) (t : Text) : Option (Nat × Option Nat × Text) :=
  match decimal? f (f.skip t) with
  | some (least, '\x7d' :: rest) => some (least, some least, rest)
  | some (least, ',' :: cs) =>
    match f.skip cs with
    | '\x7d' :: rest => some (least, none, rest)
    | cs =>
      match decimal? f cs with
      | some (most, '\x7d' :: rest) => if least ≤ most then some (least, some most, rest) else none
      | _ => none
  | _ => none

/-- Drops the mark of a repetition that prefers few pieces. -/
def dropLazyMark : Text → Text
  | '?' :: cs => cs
  | t => t

/-- What a parenthesis opens: flags for the rest of the group around it, or a group. -/
inductive GroupStart where
  | flags (f : Flags)
  | group (f : Flags) (name : Option Text)
  deriving DecidableEq, Repr

def groupName? (t : Text) : Option (Text × Text) :=
  let isPart := fun c => c == '_' || c == '.' || c == '[' || c == ']' || Text.isAlphanumeric c
  let name := t.takeWhile isPart
  match name, t.dropWhile isPart with
  | c :: _, '>' :: rest => if c == '_' || Text.isAlphabetic c then some (name, rest) else none
  | _, _ => none

def groupStart? (f : Flags) (t : Text) : Option (GroupStart × Text) :=
  match f.skip t with
  | '?' :: '=' :: _ | '?' :: '!' :: _ | '?' :: '<' :: '=' :: _ | '?' :: '<' :: '!' :: _ => none
  | '?' :: 'P' :: '<' :: cs | '?' :: '<' :: cs =>
    (groupName? cs).map fun (name, rest) => (.group f (some name), rest)
  | '?' :: cs =>
    match f.read? [] cs with
    | some (g, _, ':' :: rest) => some (.group g none, rest)
    | some (g, seen, ')' :: rest) => if seen.isEmpty then none else some (.flags g, rest)
    | _ => none
  | cs => some (.group f none, cs)

/-- The parts of a branch, the last first. Flags are a part that cannot be repeated. -/
abbrev Parts := List (Option Pattern)

def Parts.join (ps : Parts) : Pattern :=
  ps.foldl (fun after p => p.elim after (.seq · after)) .empty

def Parts.repeat? (least : Nat) (most : Option Nat) : Parts → Option Parts
  | some p :: ps => some (some (.times p least most) :: ps)
  | _ => none

def alternatives : List Pattern → Pattern
  | [] => .empty
  | p :: ps => ps.foldl (fun after q => .alt q after) p

/-- Reads alternatives up to the end of a group or of the text. `done` holds the alternatives before,
`parts` the parts of the present one, and `names` the names of groups so far, which are answered
with those read here. -/
def branches : (fuel : Nat) → (f : Flags) → (names : List Text) → (done : List Pattern) → Parts →
    Text → Option (Pattern × List Text × Text)
  | 0, _, _, _, _, _ => none
  | fuel + 1, f, names, done, parts, t =>
    match f.skip t with
    | [] => some (alternatives (parts.join :: done), names, [])
    | ')' :: cs => some (alternatives (parts.join :: done), names, ')' :: cs)
    | '|' :: cs => branches fuel f names (parts.join :: done) [] cs
    | '(' :: cs =>
      match groupStart? f cs with
      | none => none
      | some (.flags g, rest) => branches fuel g names done (none :: parts) rest
      | some (.group g name, rest) =>
        if name.any names.contains then none
        else
          match branches fuel g (name.toList ++ names) [] [] rest with
          | some (p, names, ')' :: rest) => branches fuel f names done (some p :: parts) rest
          | _ => none
    | '[' :: cs =>
      match set? f cs with
      | none => none
      | some (s, rest) => branches fuel f names done (some (.one s) :: parts) rest
    | '?' :: cs => again fuel (parts.repeat? 0 (some 1)) f names done (dropLazyMark cs)
    | '*' :: cs => again fuel (parts.repeat? 0 none) f names done (dropLazyMark cs)
    | '+' :: cs => again fuel (parts.repeat? 1 none) f names done (dropLazyMark cs)
    | '\x7b' :: cs =>
      match counts? f cs with
      | none => none
      | some (least, most, rest) =>
        again fuel (parts.repeat? least most) f names done (dropLazyMark (f.skip rest))
    | cs =>
      match primitive? f cs with
      | none => none
      | some (p, rest) => branches fuel f names done (some p :: parts) rest
where
  /-- Goes on after a repetition. -/
  again (fuel : Nat) (parts : Option Parts) (f : Flags) (names : List Text) (done : List Pattern)
      (t : Text) : Option (Pattern × List Text × Text) :=
    match parts with
    | none => none
    | some parts => branches fuel f names done parts t

/-- Reads a pattern. Every step takes a character of it. -/
def parse? (t : Text) : Option Pattern :=
  match branches (t.length + 1) {} [] [] [] t with
  | some (p, _, []) => some p
  | _ => none

/-- Reads patterns, and answers the first text that is none. -/
def parseAll : List Text → Except Text (List Pattern)
  | [] => .ok []
  | t :: ts =>
    match parse? t with
    | none => .error t
    | some p => (parseAll ts).map (p :: ·)

end DocLint.Pattern
