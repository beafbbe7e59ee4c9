import DocLint.Text.Fold
import DocLint.Text.Property
import DocLint.Text.Script

/-!
# Sets of characters

A set of characters is written with ranges, properties and the operations on sets. `has` decides
membership. The names of properties are those of Unicode, long or short.
-/

namespace DocLint.Pattern

open Text (Category Script)

/-- A set of characters. -/
inductive CharSet where
  | nothing
  | range (first last : Char)
  | categories (ks : List Category)
  | script (s : Script)
  | alphabetic
  | lowercase
  | uppercase
  | white
  /-- The characters of words. -/
  | word
  | not (s : CharSet)
  | union (a b : CharSet)
  | inter (a b : CharSet)
  | diff (a b : CharSet)
  /-- The characters that are in one of two sets and not in the other. -/
  | symmDiff (a b : CharSet)
  /-- The characters that differ from one of the set in case at most. -/
  | anyCase (s : CharSet)
  deriving DecidableEq, Repr

namespace CharSet

def has : CharSet → Char → Bool
  | .nothing, _ => false
  | .range first last, c => first ≤ c && c ≤ last
  | .categories ks, c => Text.hasAny ks c
  | .script s, c => s.has c
  | .alphabetic, c => Text.isAlphabetic c
  | .lowercase, c => Text.isLowercase c
  | .uppercase, c => Text.isUppercase c
  | .white, c => Text.isWhite c
  | .word, c => Text.isWordChar c
  | .not s, c => !s.has c
  | .union a b, c => a.has c || b.has c
  | .inter a b, c => a.has c && b.has c
  | .diff a b, c => a.has c && !b.has c
  | .symmDiff a b, c => a.has c != b.has c
  | .anyCase s, c => (Text.variants c).any s.has

def single (c : Char) : CharSet :=
  .range c c

def ofText (t : Text) : CharSet :=
  t.foldr (fun c s => .union (single c) s) .nothing

def any : CharSet :=
  .not .nothing

def asciiAlnum : CharSet :=
  .union (.range '0' '9') (.union (.range 'A' 'Z') (.range 'a' 'z'))

def asciiWord : CharSet :=
  .union asciiAlnum (single '_')

def asciiWhite : CharSet :=
  .union (.range '\t' '\r') (single ' ')

/-- The set that a name in brackets and colons stands for, as in `[[:alpha:]]`. -/
def ofAsciiName? : String → Option CharSet
  | "alnum" => some asciiAlnum
  | "alpha" => some (.union (.range 'A' 'Z') (.range 'a' 'z'))
  | "ascii" => some (.range '\x00' '\x7f')
  | "blank" => some (ofText ['\t', ' '])
  | "cntrl" => some (.union (.range '\x00' '\x1f') (single '\x7f'))
  | "digit" => some (.range '0' '9')
  | "graph" => some (.range '!' '~')
  | "lower" => some (.range 'a' 'z')
  | "print" => some (.range ' ' '~')
  | "punct" =>
    some (.union (.union (.range '!' '/') (.range ':' '@'))
      (.union (.range '[' '\x60') (.range '\x7b' '~')))
  | "space" => some asciiWhite
  | "upper" => some (.range 'A' 'Z')
  | "word" => some asciiWord
  | "xdigit" => some (.union (.range '0' '9') (.union (.range 'A' 'F') (.range 'a' 'f')))
  | _ => none

/-- A name of a property without case and separators. The beginning `is` does not count. -/
def normalName (t : Text) : Text :=
  let bare := fun (t : Text) =>
    (t.filter fun c => c.toNat < 128 && c != ' ' && c != '_' && c != '-').map Text.lowerAscii
  match t with
  | a :: b :: rest =>
    if Text.lowerAscii a == 'i' && Text.lowerAscii b == 's' then
      if bare rest == ['c'] then ['i', 's', 'c'] else bare rest
    else bare t
  | _ => bare t

/-- The set of a general category, by its normal name. -/
def ofCategoryName? : String → Option CharSet
  | "any" => some any
  | "ascii" => some (.range '\x00' '\x7f')
  | "assigned" => some (.categories Category.all)
  | "l" | "letter" => some (.categories Category.letters)
  | "lc" | "casedletter" =>
    some (.categories [.uppercaseLetter, .lowercaseLetter, .titlecaseLetter])
  | "lu" | "uppercaseletter" => some (.categories [.uppercaseLetter])
  | "ll" | "lowercaseletter" => some (.categories [.lowercaseLetter])
  | "lt" | "titlecaseletter" => some (.categories [.titlecaseLetter])
  | "lm" | "modifierletter" => some (.categories [.modifierLetter])
  | "lo" | "otherletter" => some (.categories [.otherLetter])
  | "m" | "mark" | "combiningmark" => some (.categories Category.marks)
  | "mn" | "nonspacingmark" => some (.categories [.nonspacingMark])
  | "mc" | "spacingmark" => some (.categories [.spacingMark])
  | "me" | "enclosingmark" => some (.categories [.enclosingMark])
  | "n" | "number" => some (.categories Category.numbers)
  | "nd" | "decimalnumber" | "digit" => some (.categories [.decimalNumber])
  | "nl" | "letternumber" => some (.categories [.letterNumber])
  | "no" | "othernumber" => some (.categories [.otherNumber])
  | "p" | "punctuation" | "punct" => some (.categories Category.punctuation)
  | "pc" | "connectorpunctuation" => some (.categories [.connectorPunctuation])
  | "pd" | "dashpunctuation" => some (.categories [.dashPunctuation])
  | "ps" | "openpunctuation" => some (.categories [.openPunctuation])
  | "pe" | "closepunctuation" => some (.categories [.closePunctuation])
  | "pi" | "initialpunctuation" => some (.categories [.initialPunctuation])
  | "pf" | "finalpunctuation" => some (.categories [.finalPunctuation])
  | "po" | "otherpunctuation" => some (.categories [.otherPunctuation])
  | "s" | "symbol" => some (.categories Category.symbols)
  | "sm" | "mathsymbol" => some (.categories [.mathSymbol])
  | "sc" | "currencysymbol" => some (.categories [.currencySymbol])
  | "sk" | "modifiersymbol" => some (.categories [.modifierSymbol])
  | "so" | "othersymbol" => some (.categories [.otherSymbol])
  | "z" | "separator" => some (.categories Category.separators)
  | "zs" | "spaceseparator" => some (.categories [.spaceSeparator])
  | "zl" | "lineseparator" => some (.categories [.lineSeparator])
  | "zp" | "paragraphseparator" => some (.categories [.paragraphSeparator])
  | "c" | "other" =>
    some (.union (.categories [.control, .format, .privateUse]) (.not (.categories Category.all)))
  | "cc" | "control" | "cntrl" => some (.categories [.control])
  | "cf" | "format" => some (.categories [.format])
  | "cn" | "unassigned" => some (.not (.categories Category.all))
  | "co" | "privateuse" => some (.categories [.privateUse])
  | _ => none

/-- The set of a binary property, by its normal name. -/
def ofBinaryName? : String → Option CharSet
  | "alphabetic" | "alpha" => some .alphabetic
  | "lowercase" | "lower" => some .lowercase
  | "uppercase" | "upper" => some .uppercase
  | "whitespace" | "wspace" | "space" => some .white
  | "asciihexdigit" | "ahex" => ofAsciiName? "xdigit"
  | _ => none

/-- The set that a name alone stands for: a binary property, a category or a script. -/
def ofName? (t : Text) : Option CharSet :=
  let name := String.ofList (normalName t)
  (ofBinaryName? name).orElse fun _ =>
    (ofCategoryName? name).orElse fun _ => (Script.ofName? name).map .script

/-- The set that a property and its value stand for. -/
def ofProperty? (property value : Text) : Option CharSet :=
  let value := String.ofList (normalName value)
  match String.ofList (normalName property) with
  | "gc" | "generalcategory" => ofCategoryName? value
  | "sc" | "script" => (Script.ofName? value).map .script
  | _ => none

end CharSet

end DocLint.Pattern
