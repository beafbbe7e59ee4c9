import DocLint.Text.Basic

/-!
# Blocks

The top-level blocks of a document, as far as the rules look at them: headers, lists, code, and
anything else. A block carries the text of its first line and the number of lines it spans.
-/

namespace DocLint

/-- How a code block is set off from the text around it. -/
inductive Fence where
  | backtick
  | tilde
  | indented
  deriving DecidableEq, Repr

namespace Fence

def marker : Fence → Option Char
  | .backtick => some '`'
  | .tilde => some '~'
  | .indented => none

def isFenced : Fence → Bool
  | .indented => false
  | _ => true

def name : Fence → Text
  | .backtick => "backtick".toList
  | .tilde => "tilde".toList
  | .indented => "indented".toList

end Fence

/-- An item of a list: its words, and whether it spans more than one line. -/
structure ListItem where
  text : Text
  isMultiline : Bool
  deriving DecidableEq, Repr

/-- What a block is. -/
inductive BlockKind where
  /-- A heading; `isLink` if it consists of one link. -/
  | header (level : Nat) (text : Text) (isLink : Bool)
  | list (ordered : Bool) (items : List ListItem)
  /-- Code with the lines between its fences, and whether a closing fence was found. -/
  | code (fence : Fence) (body : List Text) (closed : Bool)
  | paragraph (text : Text)
  | other
  deriving DecidableEq, Repr

namespace BlockKind

def name : BlockKind → Text
  | .header .. => "Header".toList
  | .list .. => "List".toList
  | .code .. => "CodeBlock".toList
  | .paragraph _ => "Paragraph".toList
  | .other => "Other".toList

def isHeader : BlockKind → Bool
  | .header .. => true
  | _ => false

def isList : BlockKind → Bool
  | .list .. => true
  | _ => false

def isCode : BlockKind → Bool
  | .code .. => true
  | _ => false

end BlockKind

/-- A top-level block: its kind, the text of its first line, and the number of lines it spans. -/
structure Block where
  kind : BlockKind
  anchor : Text
  span : Nat
  deriving DecidableEq, Repr

end DocLint
