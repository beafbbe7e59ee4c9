import DocLint.Path
import DocLint.Text.Utf8

/-!
# File trees

A tree of files, directories and symbolic links, as a value. `find` follows a path through it the
way an operating system does, `readText` reads a file, and `filesBelow` lists the regular files below
a directory without following links.
-/

namespace DocLint

/-- The bytes of a file: a piece, and how often it is repeated. -/
structure Content where
  piece : List UInt8
  times : Nat := 1
  deriving DecidableEq, Repr

namespace Content

def ofText (t : Text) : Content :=
  ⟨Text.Utf8.encode t, 1⟩

def size (c : Content) : Nat :=
  c.piece.length * c.times

def bytes (c : Content) : List UInt8 :=
  (List.replicate c.times c.piece).flatten

/-- A text in front of another one, a number of times. -/
def repeatText (t : Text) : Nat → Text → Text
  | 0, rest => rest
  | n + 1, rest => repeatText t n (t ++ rest)

/-- The text of the bytes, if they are well-formed. -/
def text? (c : Content) : Option Text :=
  match Text.Utf8.decode? c.piece with
  | some t => some (repeatText t c.times [])
  -- A piece may be cut inside a character that the next one completes.
  | none => Text.Utf8.decode? c.bytes

end Content

/-- A file, a directory or a link. -/
inductive Tree where
  | file (content : Content)
  | dir (entries : List (Text × Tree))
  | link (target : Text)
  deriving Repr

namespace Tree

/-- Why a path leads nowhere, or a file cannot be read, created or removed. -/
inductive Failure where
  | noEntry
  | alreadyExists
  | notDirectory
  | isDirectory
  | tooManyLinks
  | invalidText
  deriving DecidableEq, Repr

def Failure.message : Failure → Text
  | .noEntry => "No such file or directory (os error 2)".toList
  | .alreadyExists => "File exists (os error 17)".toList
  | .notDirectory => "Not a directory (os error 20)".toList
  | .isDirectory => "Is a directory (os error 21)".toList
  | .tooManyLinks => "Too many levels of symbolic links (os error 40)".toList
  | .invalidText => "stream did not contain valid UTF-8".toList

/-! ## Following paths -/

/-- Follows the pieces of a path from `here`, a directory below those in `above`. `onLink` goes on
where a link has to be followed, with the pieces of its target in front of those that are left. -/
def walk (followLast : Bool)
    (onLink : (above : List Tree) → (here : Tree) → List Text → Except Failure Tree) :
    (above : List Tree) → (here : Tree) → List Text → Except Failure Tree
  | _, here, [] => .ok here
  | above, here, piece :: more =>
    match here with
    | .dir entries =>
      if piece.isEmpty || piece == ['.'] then walk followLast onLink above here more
      else if piece == ['.', '.'] then
        match above with
        -- Nothing of what is above the tree exists.
        | [] => .error .noEntry
        | d :: ds => walk followLast onLink ds d more
      else
        match entries.lookup piece with
        | none => .error .noEntry
        | some (.link target) =>
          -- A link in the middle of a path is followed in any case.
          if followLast || !more.isEmpty then
            if Path.isAbsolute target then .error .noEntry
            else onLink above here (Text.splitAt '/' target ++ more)
          else .ok (.link target)
        | some t => walk followLast onLink (here :: above) t more
    | _ => .error .notDirectory

/-- Follows the pieces of a path through at most `links` links. -/
def walkLinks (followLast : Bool) :
    (links : Nat) → (above : List Tree) → (here : Tree) → List Text → Except Failure Tree
  | 0 => walk followLast fun _ _ _ => .error .tooManyLinks
  | links + 1 => walk followLast (walkLinks followLast links)

/-- The number of links that one path may lead through. -/
def maxLinks : Nat := 40

/-- What a path leads to. A link at its end is followed only if `followLast` says so. Nothing outside
of the tree exists. -/
def find (followLast : Bool) (t : Tree) (path : Text) : Except Failure Tree :=
  if path.isEmpty || Path.isAbsolute path then .error .noEntry
  else walkLinks followLast maxLinks [] t (Text.splitAt '/' path)

def isFile (t : Tree) (path : Text) : Bool :=
  match t.find true path with
  | .ok (.file _) => true
  | _ => false

def readText (t : Tree) (path : Text) : Except Failure Text :=
  match t.find true path with
  | .error e => .error e
  | .ok (.file c) =>
    match c.text? with
    | some text => .ok text
    | none => .error .invalidText
  | .ok _ => .error .isDirectory

/-! ## Listing files -/

mutual

/-- The regular files in a tree, as the names that lead to them from `above` on. -/
def files (above : List Text) : Tree → List (List Text)
  | .file _ => [above]
  | .dir entries => filesIn above entries
  | .link _ => []

def filesIn (above : List Text) : List (Text × Tree) → List (List Text)
  | [] => []
  | (name, t) :: more => files (above ++ [name]) t ++ filesIn above more

end

/-- The regular files from a path on, as the names that lead to them. The path may lead to a
directory through a link at its end; no other link is followed. -/
def filesBelow (t : Tree) (start : Text) : List (List Text) :=
  match t.find false start with
  | .error _ => []
  | .ok (.link _) =>
    match t.find true start with
    | .ok (.dir entries) => filesIn [] entries
    | _ => []
  | .ok here => files [] here

def pathBelow (start : Text) (names : List Text) : Text :=
  names.foldl Path.join start

/-! ## Changing a tree -/

/-- Replaces an entry of a directory, or adds it. -/
def replaceEntry (name : Text) (t : Tree) : List (Text × Tree) → List (Text × Tree)
  | [] => [(name, t)]
  | (n, old) :: more =>
    if n == name then (name, t) :: more else (n, old) :: replaceEntry name t more

/-- The entries of a directory; nothing else has any. -/
def entriesOf : Option Tree → List (Text × Tree)
  | some (.dir entries) => entries
  | _ => []

/-- Puts a tree below entries, where the names lead to. Directories on the way are created. -/
def putIn (t : Tree) : (names : List Text) → List (Text × Tree) → List (Text × Tree)
  | [], entries => entries
  | [name], entries => replaceEntry name t entries
  | name :: more, entries =>
    replaceEntry name (.dir (putIn t more (entriesOf (entries.lookup name)))) entries

def eraseIn : (names : List Text) → List (Text × Tree) → List (Text × Tree)
  | [], entries => entries
  | [name], entries => entries.filter fun (n, _) => n != name
  | name :: more, entries =>
    match entries.lookup name with
    | some (.dir below) => replaceEntry name (.dir (eraseIn more below)) entries
    | _ => entries

def namesOf (path : Text) : List Text :=
  (Path.steps path).filterMap fun
    | .name t => some t
    | _ => none

def put (t : Tree) (path : Text) (new : Tree) : Tree :=
  .dir (putIn new (namesOf path) (entriesOf (some t)))

/-- The tree with a directory at a path. One that is already there stays as it is. -/
def putDir (t : Tree) (path : Text) : Tree :=
  match t.find false path with
  | .ok (.dir _) => t
  | _ => t.put path (.dir [])

/-- The tree without what is at a path, unless there is nothing. -/
def erase? (t : Tree) (path : Text) : Option Tree :=
  match t.find false path with
  | .ok _ => some (.dir (eraseIn (namesOf path) (entriesOf (some t))))
  | .error _ => none

/-! ## Files at the top -/

/-- Whether a directory has an entry of a name, be it a link that leads nowhere. -/
def hasEntry (t : Tree) (name : Text) : Bool :=
  match t with
  | .dir entries => (entries.lookup name).isSome
  | _ => false

/-- Creates a file in a directory. An entry that has the name already stays, whatever it is. -/
def create (t : Tree) (name : Text) (c : Content) : Except Failure Tree :=
  match t with
  | .dir entries =>
    if t.hasEntry name then .error .alreadyExists else .ok (.dir (entries ++ [(name, .file c)]))
  | _ => .error .notDirectory

/-- Removes a file or a link from a directory. The target of the link stays. -/
def unlink (t : Tree) (name : Text) : Except Failure Tree :=
  match t with
  | .dir entries =>
    match entries.lookup name with
    | none => .error .noEntry
    | some (.dir _) => .error .isDirectory
    | some _ => .ok (.dir (entries.filter fun e => e.1 != name))
  | _ => .error .notDirectory

section

variable {t t' : Tree} {name : Text} {c : Content}

theorem hasEntry_of_create (h : t.create name c = .error .alreadyExists) :
    t.hasEntry name = true := by
  unfold create at h
  split at h
  · split at h
    · next hentry => exact hentry
    · cases h
  · cases h

theorem hasEntry_of_unlink (h : t.unlink name = .ok t') : t'.hasEntry name = false := by
  unfold unlink at h
  split at h
  · split at h
    · cases h
    · cases h
    · cases h
      show (List.lookup name _).isSome = false
      rw [Option.isSome_eq_false_iff, Option.isNone_iff_eq_none, List.lookup_eq_none_iff]
      intro e he
      rw [bne_comm]
      exact (List.mem_filter.mp he).2
  · cases h

theorem hasEntry_of_unlink_noEntry (h : t.unlink name = .error .noEntry) :
    t.hasEntry name = false := by
  unfold unlink at h
  split at h
  · split at h
    · next hlookup =>
      show (List.lookup name _).isSome = false
      rw [hlookup]
      rfl
    · cases h
    · cases h
  · cases h

end

end Tree

end DocLint
