import DocLint.Finder
import DocLint.Manifest
import DocLint.Markdown.Outline
import DocLint.Pattern.Parser
import DocLint.Rules

/-!
# Checking files

A linter is a configuration whose patterns and globs are read. It checks the text of a document,
a file in a tree together with the build manifest next to it, or all files that patterns name.
-/

namespace DocLint

/-- A configuration that is ready for use. -/
structure Linter where
  config : Config
  /-- The patterns for the headers that may end a document. -/
  exceptions : List Pattern
  finder : Finder
  deriving Repr

/-- The reports of the files that could be checked, and the others with the reason. -/
structure LintOutcome where
  reports : List Report
  failures : List (Text × LintError)
  deriving Repr

namespace Linter

/-- Reads the patterns and globs of a configuration. The globs for files that must be packaged are
only tried here; a manifest that is checked reads them again. -/
def ofConfig (c : Config) : Except ConfigError Linter :=
  match Pattern.parseAll c.headerExceptions with
  | .error p => .error (.headerException p)
  | .ok exceptions =>
    match Finder.ofGlobs c.includes c.excludes c.docFileName with
    | .error e => .error e
    | .ok finder =>
      match Glob.readAll c.manifest.requiredIncludes with
      | .error e => .error e
      | .ok _ => .ok ⟨c, exceptions, finder⟩

/-- Whether a header may end a document. -/
def isExempt (exceptions : List Pattern) (header : Text) : Bool :=
  exceptions.any (·.occursIn header)

/-! ## Documents -/

/-- The findings about the text of a document. A blank document is not read as Markdown. -/
def findings (exceptions : List Pattern) (file text : Text) : List Diagnostic :=
  let index := LineIndex.ofText text
  let blocks := if index.isBlankDocument then [] else Markdown.blocks text
  (Rules.check (Locator.forward index) () (isExempt exceptions) file index blocks).findings

def lintText (l : Linter) (file text : Text) : Report :=
  .ofFindings file (l.config.applyOptions (findings l.exceptions file text))

/-! ## Files -/

def maxFileSize : Nat := 10 * 1024 * 1024

/-- The text of a file that is to be checked. -/
def readFile (t : Tree) (path : Text) : Except FileError Text :=
  match t.find true path with
  | .error e => .error (.noMetadata path e.message)
  | .ok (.file content) =>
    -- Nothing is read of a file that is too large.
    if maxFileSize < content.size then .error (.tooLarge path maxFileSize)
    else
      match content.text? with
      | some text => .ok text
      | none => .error (.unreadable path Tree.Failure.invalidText.message)
  | .ok _ => .error (.notRegular path)

def dirOf (path : Text) : Text :=
  match Path.parent? path with
  | some dir => if dir.isEmpty then ['.'] else dir
  | none => ['.']

/-- The report about the manifest in a directory. -/
def lintManifest (l : Linter) (t : Tree) (dir : Text) : Except LintError Report :=
  let settings := l.config.manifest
  let path := Path.join dir settings.fileName
  match t.readText path with
  | .error e => .error (.manifest path e.message)
  | .ok text =>
    -- They could be read when the linter was made, so no fault is expected here.
    match Glob.readAll settings.requiredIncludes with
    | .error e => .error (.config e)
    | .ok required =>
      let m := Manifest.parse text
      let findings := m.check l.config.docFileName l.config.docFolderName ++
        m.checkRequired settings.fileName (t.matching dir required)
      .ok (.ofFindings path (l.config.applyOptions findings))

/-- Checks a file. A documentation file is reported together with the manifest next to it. -/
def lintFile (l : Linter) (t : Tree) (path : Text) : Except LintError (List Report) :=
  match readFile t path with
  | .error e => .error (.file e)
  | .ok text =>
    let name := (Path.fileName? path).getD []
    let report := { l.lintText name text with path := path }
    if l.config.manifest.enabled && Text.sameIgnoringAsciiCase name l.config.docFileName then
      match l.lintManifest t (dirOf path) with
      | .error e => .error e
      | .ok manifest => .ok [report, manifest]
    else .ok [report]

def lintFiles (l : Linter) (t : Tree) : List Text → LintOutcome
  | [] => ⟨[], []⟩
  | p :: ps =>
    let rest := lintFiles l t ps
    match l.lintFile t p with
    | .ok reports => ⟨reports ++ rest.reports, rest.failures⟩
    | .error e => ⟨rest.reports, (p, e) :: rest.failures⟩

/-- The directory below which globs are matched: that of the configuration, or the present one. -/
def baseDir (l : Linter) : Text :=
  match l.config.baseDir with
  | some dir => if dir.isEmpty then ['.'] else dir
  | none => ['.']

def discover (l : Linter) (t : Tree) (patterns : List Text) : Except ConfigError (List Text) :=
  l.finder.discover t patterns l.baseDir

def lintPatterns (l : Linter) (t : Tree) (patterns : List Text) : Except LintError LintOutcome :=
  match l.discover t patterns with
  | .error e => .error (.config e)
  | .ok paths => .ok (l.lintFiles t paths)

end Linter

end DocLint
