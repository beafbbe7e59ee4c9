import DocLint.Json.Token

/-!
# Reading relaxed JSON

Commas between members may be missing, one may follow the last member, and keys may be words or
numbers. A text of blanks and comments holds no value. `parse` reads a text or tells the first fault
with its position.
-/

namespace DocLint.Json

/-! ## Numbers -/

def decimalValue (t : Text) : Nat :=
  t.foldl (fun n c => 10 * n + (c.toNat - 48)) 0

def hexadecimalValue (t : Text) : Nat :=
  t.foldl (fun n c => 16 * n + (hexValue c)) 0
where
  hexValue (c : Char) : Nat := (Text.hexValue? c).getD 0

/-- Takes digits as long as their number has 64 bits, and counts the digits that are left. -/
def leadingDigits (value : Nat) : Text → Nat × Nat
  | [] => (value, 0)
  | c :: cs =>
    let next := 10 * value + (c.toNat - 48)
    -- The digits that are left move the point, but are not rounded.
    if Nat.pow 2 64 ≤ next then (value, cs.length + 1) else leadingDigits next cs

/-- A decimal notation cut into its digits before and after the point, and its exponent. -/
structure Decimal where
  whole : Text
  fraction : Text
  exponent : Int
  /-- Whether there is a point or an exponent. -/
  isFloat : Bool

/-- Cuts a decimal notation without its sign. -/
def Decimal.ofText (t : Text) : Decimal :=
  let whole := t.takeWhile Text.isDigit
  let rest := t.dropWhile Text.isDigit
  let (fraction, tail) :=
    match rest with
    | '.' :: cs => (cs.takeWhile Text.isDigit, cs.dropWhile Text.isDigit)
    | cs => ([], cs)
  let exponent : Int :=
    match tail with
    | _ :: '-' :: ds => -(decimalValue ds : Int)
    | _ :: '+' :: ds => decimalValue ds
    | _ :: ds => decimalValue ds
    | [] => 0
  ⟨whole, fraction, exponent, !rest.isEmpty⟩

/-- The floating point number of a decimal notation. Digits beyond 64 bits count for its size only. -/
def Decimal.toBinary64? (d : Decimal) : Option Binary64 :=
  let (value, left) := leadingDigits 0 d.whole
  let (value, rest) := leadingDigits value d.fraction
  Binary64.ofDecimal? value (d.exponent + left - (d.fraction.length - rest : Nat))

/-- The value of a number as it is written. What is too large for a number stays text. -/
def ofNumber (source : Text) : Json :=
  let negative := source.head? == some '-'
  let t := source.dropWhile fun c => c == '-' || c == '+'
  match t with
  | '0' :: 'x' :: ds | '0' :: 'X' :: ds =>
    let n := hexadecimalValue ds
    if Nat.pow 2 63 ≤ n then .str source else .num (.int (if negative then -(n : Int) else n))
  | _ =>
    let d := Decimal.ofText t
    let n := decimalValue d.whole
    if !d.isFloat && !negative && n < Nat.pow 2 64 then .num (.int n)
    -- Minus zero has no whole number, so it becomes a floating point number.
    else if !d.isFloat && negative && 0 < n && n ≤ Nat.pow 2 63 then .num (.int (-(n : Int)))
    else
      match d.toBinary64? with
      | some f => .num (.float negative f)
      | none => .str source

/-! ## Values -/

def Tokens.afterComma : Tokens → Tokens
  | .token .comma _ more => more
  | ts => ts

mutual

/-- Reads a value that begins with the given token. -/
def value : (fuel : Nat) → Token → (start : Text) → Tokens → Except FaultAt (Json × Tokens)
  | 0, _, start, _ => .error ⟨.unexpectedToken, start⟩
  | fuel + 1, t, start, ts =>
    match t with
    | .openBrace =>
      match members fuel start [] ts with
      | .error f => .error f
      | .ok (ms, ts) => .ok (ofMembers ms, ts)
    | .openBracket =>
      match elements fuel start ts with
      | .error f => .error f
      | .ok (xs, ts) => .ok (.arr xs, ts)
    | .string s => .ok (.str s, ts)
    | .bool b => .ok (.bool b, ts)
    | .number source => .ok (ofNumber source, ts)
    | .null => .ok (.null, ts)
    | .closeBracket => .error ⟨.unexpectedCloseBracket, start⟩
    | .closeBrace => .error ⟨.unexpectedCloseBrace, start⟩
    | .comma => .error ⟨.unexpectedComma, start⟩
    | .colon => .error ⟨.unexpectedColon, start⟩
    | .word _ => .error ⟨.unexpectedWord, start⟩

/-- Reads the members of an object, which begins at `start`, up to its closing brace. `read` holds the
members so far in reverse order. -/
def members : (fuel : Nat) → (start : Text) → (read : List (Text × Json)) → Tokens →
    Except FaultAt (List (Text × Json) × Tokens)
  | 0, start, _, _ => .error ⟨.unterminatedObject, start⟩
  | fuel + 1, start, read, ts =>
    match ts with
    | .done => .error ⟨.unterminatedObject, start⟩
    | .fault f => .error f
    | .token .closeBrace _ more => .ok (read.reverse, more)
    | .token (.string key) _ more | .token (.word key) _ more | .token (.number key) _ more =>
      match property fuel more with
      | .error f => .error f
      | .ok (v, more) => members fuel start ((key, v) :: read) more.afterComma
    | .token _ here _ => .error ⟨.unexpectedTokenInObject, here⟩

def property : (fuel : Nat) → Tokens → Except FaultAt (Json × Tokens)
  | 0, _ => .error ⟨.expectedColon, []⟩
  | fuel + 1, ts =>
    match ts with
    | .done => .error ⟨.expectedColon, []⟩
    | .fault f => .error f
    | .token .colon _ more =>
      match more with
      | .done => .error ⟨.expectedValue, []⟩
      | .fault f => .error f
      | .token t here more => value fuel t here more
    | .token _ here _ => .error ⟨.expectedColon, here⟩

/-- Reads the elements of an array, which begins at `start`, up to its closing bracket. -/
def elements : (fuel : Nat) → (start : Text) → Tokens → Except FaultAt (List Json × Tokens)
  | 0, start, _ => .error ⟨.unterminatedArray, start⟩
  | fuel + 1, start, ts =>
    match ts with
    | .done => .error ⟨.unterminatedArray, start⟩
    | .fault f => .error f
    | .token .closeBracket _ more => .ok ([], more)
    | .token t here more =>
      match value fuel t here more with
      | .error f => .error f
      | .ok (v, more) =>
        match elements fuel start more.afterComma with
        | .error f => .error f
        | .ok (vs, more) => .ok (v :: vs, more)

end

/-- Reads a text. It may hold no value. -/
def parse (t : Text) : Except FaultAt (Option Json) :=
  match tokens (t.length + 1) t with
  | .done => .ok none
  | .fault f => .error f
  | .token tok start more =>
    match value (2 * t.length + 2) tok start more with
    | .error f => .error f
    | .ok (v, .done) => .ok (some v)
    | .ok (_, .fault f) => .error f
    | .ok (_, .token _ start _) => .error ⟨.secondValue, start⟩

/-! ## Positions -/

/-- The line and the column at which a later part of a text begins. Both count from 1; only a line
feed ends a line. -/
def position (t rest : Text) : Nat × Nat :=
  let before := t.take (t.length - rest.length)
  ((before.filter (· == '\n')).length + 1,
    (before.reverse.takeWhile (· != '\n')).length + 1)

def report (t : Text) (f : FaultAt) : Text :=
  let (line, column) := position t f.rest
  f.fault.message ++ " on line ".toList ++ Text.ofNat line ++ " column ".toList ++ Text.ofNat column

end DocLint.Json
