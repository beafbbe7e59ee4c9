import DocLint.Line

/-!
# Line decoration

The markup that stands around the words of a line: white space, block quote markers, the hashes of
a heading on both sides, and one list marker. `Decoration.strip` removes it, so that the words of a
block can be compared with the words of a line.
-/

namespace DocLint.Decoration

/-- A marker ends where white space or the end of the line follows. -/
def endsMarker : Text → Bool
  | [] => true
  | c :: _ => Text.isWhite c

/-- Removes block quote markers, each with the white space after it. -/
def dropQuotes : Text → Text
  | [] => []
  | c :: cs => if c = '>' then skip cs else c :: cs
where
  /-- Inside the white space that follows a marker. -/
  skip : Text → Text
    | [] => []
    | c :: cs => if Text.isWhite c then skip cs else if c = '>' then skip cs else c :: cs

/-- Removes the hashes that close a heading. They close it if white space stands before them or
nothing does; otherwise they belong to the words. -/
def dropClosingHashes (t : Text) : Text :=
  let trimmed := Text.trimEnd t
  let without := Text.dropEnd (· == '#') trimmed
  if without.length = trimmed.length || without.isEmpty then without
  else if (without.getLast?.map Text.isWhite).getD false then Text.trimEnd without
  else trimmed

/-- Removes one bullet, or one number of up to nine digits with its delimiter. -/
def dropListMarker (t : Text) : Text :=
  match t with
  | [] => []
  | c :: rest =>
    if c = '-' || c = '*' || c = '+' then
      if endsMarker rest then rest else t
    else
      let digits := t.takeWhile Text.isDigit
      match t.dropWhile Text.isDigit with
      | d :: rest =>
        if 1 ≤ digits.length && digits.length ≤ 9 && (d == '.' || d == ')') && endsMarker rest then
          rest
        else t
      | [] => t

/-- The words of a line without the markup around them. -/
def strip (t : Text) : Text :=
  let rest := dropQuotes (Text.trim t)
  match rest with
  | '#' :: _ =>
    let words := rest.dropWhile (· == '#')
    -- Hashes without white space behind them are words.
    if endsMarker words then dropClosingHashes (Text.trimStart words) else rest
  | _ => Text.trim (dropListMarker rest)

end DocLint.Decoration
