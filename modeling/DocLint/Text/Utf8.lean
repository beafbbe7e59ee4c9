import DocLint.Text.Basic

/-!
# UTF-8

Characters and texts as bytes. `decode?` accepts exactly the well-formed sequences: no
overlong form, no surrogate, nothing beyond U+10FFFF.
-/

namespace DocLint.Text.Utf8

def encodeChar (c : Char) : List UInt8 :=
  let n := c.toNat
  if n < 0x80 then [UInt8.ofNat n]
  else if n < 0x800 then [UInt8.ofNat (0xC0 + n / 64), UInt8.ofNat (0x80 + n % 64)]
  else if n < 0x10000 then
    [UInt8.ofNat (0xE0 + n / 4096), UInt8.ofNat (0x80 + n / 64 % 64), UInt8.ofNat (0x80 + n % 64)]
  else
    [UInt8.ofNat (0xF0 + n / 262144), UInt8.ofNat (0x80 + n / 4096 % 64),
      UInt8.ofNat (0x80 + n / 64 % 64), UInt8.ofNat (0x80 + n % 64)]

def encode (t : Text) : List UInt8 :=
  t.flatMap encodeChar

def charSize (c : Char) : Nat :=
  if c.toNat < 0x80 then 1 else if c.toNat < 0x800 then 2 else if c.toNat < 0x10000 then 3 else 4

def size (t : Text) : Nat :=
  t.foldl (fun n c => n + charSize c) 0

/-- The payload of a continuation byte `10xxxxxx`. -/
def tail? (b : UInt8) : Option Nat :=
  if 0x80 ≤ b.toNat && b.toNat < 0xC0 then some (b.toNat - 0x80) else none

/-- The character with number `n`, if `n` is at least `least` and is the number of one. -/
def scalar? (least n : Nat) : Option Char :=
  if n < least || (0xD800 ≤ n && n ≤ 0xDFFF) || 0x10FFFF < n then none else some (Char.ofNat n)

/-- Reads characters off the front and collects them in reverse order. -/
def decodeLoop (read : Text) : List UInt8 → Option Text
  | [] => some read.reverse
  | a :: rest =>
    let n := a.toNat
    if n < 0x80 then decodeLoop (Char.ofNat n :: read) rest
    else if n < 0xC2 then none
    else if n < 0xE0 then
      match rest with
      | b :: rest =>
        match tail? b with
        | some x => decodeLoop (Char.ofNat ((n - 0xC0) * 64 + x) :: read) rest
        | none => none
      | _ => none
    else if n < 0xF0 then
      match rest with
      | b :: c :: rest =>
        match tail? b, tail? c with
        | some x, some y =>
          match scalar? 0x800 (((n - 0xE0) * 64 + x) * 64 + y) with
          | some ch => decodeLoop (ch :: read) rest
          | none => none
        | _, _ => none
      | _ => none
    else if n < 0xF5 then
      match rest with
      | b :: c :: d :: rest =>
        match tail? b, tail? c, tail? d with
        | some x, some y, some z =>
          match scalar? 0x10000 ((((n - 0xF0) * 64 + x) * 64 + y) * 64 + z) with
          | some ch => decodeLoop (ch :: read) rest
          | none => none
        | _, _, _ => none
      | _ => none
    else none

/-- The text of a byte sequence, if it is well-formed. -/
def decode? (bytes : List UInt8) : Option Text :=
  decodeLoop [] bytes

end DocLint.Text.Utf8
