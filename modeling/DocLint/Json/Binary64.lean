import DocLint.Text.Basic

/-!
# Floating point numbers

The non-negative finite binary floating point numbers of 64 bits, in exact arithmetic on natural
numbers: `round?` gives the nearest one of a fraction, and `shortest` the shortest decimal number
that is nearer to it than to its neighbours.
-/

namespace DocLint.Json

/-- The number `mantissa * 2 ^ exponent`. -/
structure Binary64 where
  mantissa : Nat
  exponent : Int
  deriving DecidableEq, Repr

namespace Binary64

def minExponent : Int := -1074

def maxExponent : Int := 971

def zero : Binary64 :=
  ⟨0, minExponent⟩

/-- The value as a fraction. -/
def num (d : Binary64) : Nat :=
  d.mantissa * Nat.pow 2 d.exponent.toNat

/-- The denominator that belongs to `num`. -/
def den (d : Binary64) : Nat :=
  Nat.pow 2 (-d.exponent).toNat

/-- Rounds a fraction to a whole number; halves go to the even neighbour. -/
def roundQuotient (n d : Nat) : Nat :=
  let q := n / d
  let twice := 2 * (n % d)
  if d < twice || (twice == d && q % 2 == 1) then q + 1 else q

/-- The exponent of the number nearest to a fraction: the mantissa gets 53 bits if the exponent
allows. -/
def exponentOf (n d : Nat) : Int :=
  let e : Int := (n.log2 : Int) - d.log2 - 53
  -- The lengths of `n` and `d` give the exponent or the one below it.
  let q := n * Nat.pow 2 (-e).toNat / (d * Nat.pow 2 e.toNat)
  max minExponent (if Nat.pow 2 53 ≤ q then e + 1 else e)

/-- The number nearest to `n / d`, unless that is too large. -/
def round? (n d : Nat) : Option Binary64 :=
  if n == 0 then some zero
  else
    let e := exponentOf n d
    let m := roundQuotient (n * Nat.pow 2 (-e).toNat) (d * Nat.pow 2 e.toNat)
    -- Rounding up may carry into a further bit.
    let r : Binary64 := if m == Nat.pow 2 53 then ⟨Nat.pow 2 52, e + 1⟩ else ⟨m, e⟩
    if maxExponent < r.exponent then none else some r

def mul? (a b : Binary64) : Option Binary64 :=
  round? (a.num * b.num) (a.den * b.den)

def div? (a b : Binary64) : Option Binary64 :=
  round? (a.num * b.den) (a.den * b.num)

/-- The greatest power of ten that is a number. -/
def maxPower : Nat := 308

/-- The number nearest to `value / 10 ^ (308 * steps + power)`, rounded after each division. -/
def divPowers (power : Nat) : (steps : Nat) → (value : Binary64) → Option Binary64
  | 0, value => (round? (Nat.pow 10 power) 1).bind value.div?
  | steps + 1, value =>
    if value.mantissa == 0 then some value
    else ((round? (Nat.pow 10 maxPower) 1).bind value.div?).bind (divPowers power steps)

/-- The number of a decimal notation: the digits are rounded first, then scaled by powers of ten, and
rounded after each step. A number that is too large is refused. -/
def ofDecimal? (digits : Nat) (exponent : Int) : Option Binary64 :=
  match round? digits 1 with
  | none => none
  | some f =>
    if 0 ≤ exponent then
      if exponent.toNat ≤ maxPower then (round? (Nat.pow 10 exponent.toNat) 1).bind f.mul?
      else if f.mantissa == 0 then some f
      else none
    else
      let n := (-exponent).toNat
      -- More than four divisions by the greatest power leave nothing.
      let steps := (n - 1) / maxPower
      if 4 < steps then some zero else divPowers (n - steps * maxPower) steps f

/-! ## Shortest decimals -/

/-- Compares `digits * 10 ^ power` with `quarters / 4 * 2 ^ exponent`. -/
def compareDecimal (digits : Nat) (power : Int) (quarters : Nat) (exponent : Int) : Ordering :=
  compare (4 * digits * Nat.pow 10 power.toNat * Nat.pow 2 (-exponent).toNat)
    (quarters * Nat.pow 2 exponent.toNat * Nat.pow 10 (-power).toNat)

/-- Whether a decimal number is rounded to `d`: it is nearer to `d` than to both neighbours, or in the
middle if the mantissa is even. -/
def isNearest (d : Binary64) (digits : Nat) (power : Int) : Bool :=
  -- The neighbour below a power of two is only half as far away as the one above.
  let below := if d.mantissa == Nat.pow 2 52 && minExponent < d.exponent then 1 else 2
  let low := compareDecimal digits power (4 * d.mantissa - below) d.exponent
  let high := compareDecimal digits power (4 * d.mantissa + 2) d.exponent
  let even := d.mantissa % 2 == 0
  (low == .gt || (even && low == .eq)) && (high == .lt || (even && high == .eq))

/-- The power of ten of the first digit of a number other than zero. -/
def leadingPower (d : Binary64) : Int :=
  -- `30103 / 100000` stands for the decimal logarithm of two.
  let guess : Int := ((d.mantissa.log2 : Int) + d.exponent) * 30103 / 100000
  if compareDecimal 1 (guess + 1) (4 * d.mantissa) d.exponent != .gt then guess + 1
  else if compareDecimal 1 guess (4 * d.mantissa) d.exponent == .gt then guess - 1
  else guess

/-- The decimal number next to `d` with its last digit at `power`, if one of the two there is rounded
to `d`. Of two the nearer one counts, and of two that are equally near the even one. -/
def nearestAt? (d : Binary64) (power : Int) : Option Nat :=
  let n := d.mantissa * Nat.pow 2 d.exponent.toNat * Nat.pow 10 (-power).toNat
  let m := Nat.pow 2 (-d.exponent).toNat * Nat.pow 10 power.toNat
  let low := n / m
  match isNearest d low power, isNearest d (low + 1) power with
  | true, true => some (roundQuotient n m)
  | true, false => some low
  | false, true => some (low + 1)
  | false, false => none

/-- Tries one digit more until a decimal number is rounded to `d`. -/
def search (d : Binary64) (first : Int) : (fuel : Nat) → (count : Nat) → Nat × Int
  | 0, count => (0, first - count)
  | fuel + 1, count =>
    match nearestAt? d (first - count) with
    | some digits => (digits, first - count)
    | none => search d first fuel (count + 1)

def dropZeros : (fuel : Nat) → (digits : Nat) → (power : Int) → Nat × Int
  | 0, digits, power => (digits, power)
  | fuel + 1, digits, power =>
    if digits % 10 == 0 then dropZeros fuel (digits / 10) (power + 1) else (digits, power)

/-- The shortest decimal number that is rounded to `d`, as digits and a power of ten. Seventeen
digits are always enough. -/
def shortest (d : Binary64) : Nat × Int :=
  if d.mantissa == 0 then (0, 0)
  else
    let (digits, power) := search d d.leadingPower 17 0
    dropZeros 17 digits power

/-- The power of the first digit from which on numbers are written with an exponent. -/
def maxPlain : Int := 15

/-- The least power of the first digit of numbers that are written without an exponent. -/
def minPlain : Int := -5

/-- The text of a number: its shortest decimal number with at least one digit after the point, or
with an exponent if it is very large or very small. -/
def text (d : Binary64) : Text :=
  let (digits, power) := d.shortest
  let ds := Text.ofNat digits
  let first := power + ds.length - 1
  if 0 ≤ power && first ≤ maxPlain then ds ++ List.replicate power.toNat '0' ++ ['.', '0']
  else if 0 ≤ first && first ≤ maxPlain then
    ds.take (first.toNat + 1) ++ ['.'] ++ ds.drop (first.toNat + 1)
  else if minPlain ≤ first && first < 0 then
    ['0', '.'] ++ List.replicate (-first - 1).toNat '0' ++ ds
  else
    let sign := if first < 0 then '-' else '+'
    ds.take 1 ++ (if ds.length == 1 then [] else '.' :: ds.drop 1) ++ ['e', sign] ++
      Text.ofNat first.natAbs

end Binary64

end DocLint.Json
