import DocLint.Error
import DocLint.Tree

/-!
# Finding files

Which files are checked: those that the patterns name, unless the globs of the configuration leave
them out. A pattern is the path of a file, the path of a directory, of which the documentation files
are taken, or else a glob for the files below a base directory.
-/

namespace DocLint

/-- Reads globs whose wildcards take slashes. -/
def Glob.readAll (ts : List Text) : Except ConfigError (List Glob) :=
  match Glob.parseAll true ts with
  | .ok gs => .ok gs
  | .error (t, e) => .error (.invalidGlob t e)

/-- What is needed to find files. -/
structure Finder where
  includes : List Glob
  excludes : List Glob
  /-- The name of documentation files. -/
  docFileName : Text
  deriving Repr

namespace Finder

def ofGlobs (includes excludes : List Text) (docFileName : Text) : Except ConfigError Finder :=
  match Glob.readAll includes with
  | .error e => .error e
  | .ok includes =>
    match Glob.readAll excludes with
    | .error e => .error e
    | .ok excludes => .ok ⟨includes, excludes, docFileName⟩

/-- Whether a path is left out: it is excluded, or others only are included. -/
def ignores (f : Finder) (path : Text) : Bool :=
  f.excludes.any (·.accepts path) ||
    (!f.includes.isEmpty && !f.includes.any (·.accepts path))

/-- The path of a file relative to where its names start. -/
def relative (names : List Text) : Text :=
  Text.joinWith ['/'] names

/-- The files below a path that satisfy `p` and are not left out. -/
def filesWhere (f : Finder) (t : Tree) (start : Text) (p : List Text → Bool) : List Text :=
  ((t.filesBelow start).filter fun names => p names && !f.ignores (relative names)).map
    (Tree.pathBelow start)

def docFilesIn (f : Finder) (t : Tree) (dir : Text) : List Text :=
  f.filesWhere t dir fun names => names.getLast? == some f.docFileName

/-- What a pattern stands for. -/
inductive Target where
  | files (paths : List Text)
  | glob (g : Glob)
  deriving Repr

/-- What a pattern stands for in a tree. A link is neither a file nor a directory here. -/
def target (f : Finder) (t : Tree) (pattern : Text) : Except ConfigError Target :=
  match t.find false pattern with
  | .ok (.file _) => .ok (.files (if f.ignores pattern then [] else [pattern]))
  | .ok (.dir _) => .ok (.files (f.docFilesIn t pattern))
  | _ =>
    -- A link, or a path to nothing, is read as a glob.
    match Glob.parse true pattern with
    | .ok g => .ok (.glob g)
    | .error e => .error (.invalidPattern pattern e)

/-- What patterns stand for, or the first one that stands for nothing. -/
def targets (f : Finder) (t : Tree) : List Text → Except ConfigError (List Target)
  | [] => .ok []
  | p :: ps =>
    match f.target t p with
    | .error e => .error e
    | .ok x =>
      match targets f t ps with
      | .error e => .error e
      | .ok xs => .ok (x :: xs)

/-- The files that patterns name, in the order of paths and each once. Globs are matched below the
base directory. -/
def discover (f : Finder) (t : Tree) (patterns : List Text) (base : Text) :
    Except ConfigError (List Text) :=
  match f.targets t patterns with
  | .error e => .error e
  | .ok targets =>
    let named := targets.flatMap fun
      | .files paths => paths
      | .glob _ => []
    let globs := targets.filterMap fun
      | .files _ => none
      | .glob g => some g
    -- Without a glob the base directory is not visited.
    let matched :=
      if globs.isEmpty then []
      else f.filesWhere t base fun names => globs.any (·.accepts (relative names))
    .ok (Path.sort (named ++ matched))

end Finder

/-- The files below a directory that match a glob, relative to it and sorted as texts. -/
def Tree.matching (t : Tree) (dir : Text) (globs : List Glob) : List Text :=
  if globs.isEmpty then []
  else
    (((t.filesBelow dir).map Finder.relative).filter fun p =>
      globs.any (·.accepts p)).mergeSort Text.le

end DocLint
