import DocLint.Command.Arguments
import DocLint.Linter

/-!
# Commands

What the commands do, as a function from a tree and the arguments to what is printed, what is
logged, the exit code and the tree afterwards.
-/

namespace DocLint.Command

/-- A line of the log. A fatal line ends the command. -/
inductive LogLine where
  | info (message : Text)
  | warn (message : Text)
  | error (message : Text)
  | fatal (reason : Text)
  deriving DecidableEq, Repr

/-- What a command does. -/
structure Outcome where
  exit : Nat
  stdout : Text := []
  log : List LogLine := []
  tree : Tree
  deriving Repr

def version : Text := "rdlint 0.1.0".toList

/-- The files that may hold the configuration; the first that exists counts. -/
def configFiles : List Text :=
  [".readmelint.jsonc".toList, ".readmelint.json".toList]

def newConfigFile : Text := ".readmelint.json".toList

def newConfigText : Text :=
  ("\x7b\n" ++
    "  \"docFileName\": \"README.md\",\n" ++
    "  \"docFolderName\": \"doc\",\n" ++
    "  \"manifest\": \x7b\n" ++
    "    \"enabled\": true,\n" ++
    "    \"fileName\": \"build.properties\",\n" ++
    "    \"requiredIncludes\": [\"ESH-INF/**/*.xml\"]\n" ++
    "  \x7d,\n" ++
    "  \"options\": \x7b\x7d\n" ++
    "\x7d\n").toList

/-! ## Configuration files -/

def discoverConfig (t : Tree) (dir : Text) : Option Text :=
  (configFiles.map (Path.join dir)).find? t.isFile

/-- Reads the configuration in a file. Globs are then matched below the directory of the file. -/
def readConfig (t : Tree) (path : Text) : Except ConfigError Config :=
  match t.readText path with
  | .error e => .error (.unreadable e.message)
  | .ok text =>
    match Config.parse text with
    | .error e => .error e
    | .ok c => .ok { c with baseDir := Path.parent? path }

/-- The configuration that a command uses, and what is logged about it. -/
def chooseConfig (t : Tree) (given : Option Text) : List LogLine × Except ConfigError Config :=
  match given with
  | some path => ([], readConfig t path)
  | none =>
    match discoverConfig t ['.'] with
    | some path => ([.info ("Using config: ".toList ++ path)], readConfig t path)
    | none => ([.info "No config file found, using defaults".toList], .ok {})

/-! ## Printing -/

def findingLine (d : Diagnostic) : Text :=
  "  ".toList ++ Text.ofNat d.line ++ ": ".toList ++ d.severity.name ++ " [".toList ++ d.rule ++
    "]: ".toList ++ d.message ++ "\n".toList

/-- A report with its findings, or nothing if it has none. -/
def reportText (r : Report) : Text :=
  if r.diagnostics.isEmpty then []
  else "\n".toList ++ r.path ++ ":\n".toList ++ r.diagnostics.flatMap findingLine

def total (f : Report → Nat) (rs : List Report) : Nat :=
  (rs.map f).foldl (· + ·) 0

/-- Reports as text, with a summary at the end. -/
def printText (rs : List Report) : Text :=
  rs.flatMap reportText ++ "\nChecked ".toList ++ Text.ofNat rs.length ++ " files, found ".toList ++
    Text.ofNat (total (·.diagnostics.length) rs) ++ " issues (".toList ++
    Text.ofNat (total Report.errorCount rs) ++ " errors)\n".toList

def findingJson (d : Diagnostic) : Json :=
  .ofMembers
    [("rule_id".toList, .str d.rule), ("line".toList, .num (.int d.line)),
      ("message".toList, .str d.message), ("severity".toList, .str d.severity.name)]

def reportJson (r : Report) : Json :=
  .ofMembers
    [("path".toList, .str r.path), ("diagnostics".toList, .arr (r.diagnostics.map findingJson))]

def printJson (rs : List Report) : Text :=
  (Json.arr (rs.map reportJson)).pretty ++ ['\n']

def print (format : Format) (rs : List Report) : Text :=
  match format with
  | .text => printText rs
  | .json => printJson rs

/-! ## The commands -/

def fail (t : Tree) (log : List LogLine) (reason : Text) : Outcome where
  exit := 2
  log := log ++ [.fatal reason]
  tree := t

/-- What is logged about the files that could not be checked: all once while they are checked, and
all again at the end. -/
def failureLog (failures : List (Text × LintError)) : List LogLine :=
  (failures.map fun (path, e) =>
    .warn ("Failed to lint ".toList ++ path ++ ": ".toList ++ e.message)) ++
  failures.map fun (path, e) => .error (path ++ ": ".toList ++ e.message)

def discoveredLine (count : Nat) : LogLine :=
  .info ("Discovered ".toList ++ Text.ofNat count ++ " files to lint".toList)

def lintWith (l : Linter) (t : Tree) (log : List LogLine) (patterns : List Text)
    (format : Format) : Outcome :=
  match l.discover t patterns with
  | .error e => fail t log (LintError.config e).message
  | .ok paths =>
    let outcome := l.lintFiles t paths
    -- Files that could not be checked count like errors.
    { exit := if outcome.reports.any Report.hasErrors || !outcome.failures.isEmpty then 1 else 0
      stdout := print format outcome.reports
      log := log ++ [discoveredLine paths.length] ++ failureLog outcome.failures
      tree := t }

/-- The command that checks files. -/
def lint (t : Tree) (config : Option Text) (patterns : List Text) (format : Format)
    (noManifest : Bool) : Outcome :=
  let (log, chosen) := chooseConfig t config
  match chosen with
  | .error e => fail t log (LintError.config e).message
  | .ok c =>
    let c := if noManifest then { c with manifest := { c.manifest with enabled := false } } else c
    match Linter.ofConfig c with
    | .error e => fail t log (LintError.config e).message
    | .ok l => lintWith l t log patterns format

/-- What an attempt to create the configuration file leads to. -/
inductive Attempt where
  | created (t : Tree)
  /-- What stood in the way is gone, and creating the file has to be tried again. -/
  | cleared (t : Tree)
  | failed (reason : Text)
  deriving Repr

/-- Tries to create the configuration file. What stands in the way is removed with `force` only. -/
def attempt (t : Tree) (force : Bool) : Attempt :=
  match t.create newConfigFile (.ofText newConfigText) with
  | .ok t => .created t
  | .error .alreadyExists =>
    if !force then .failed "Config file already exists. Use --force to overwrite.".toList
    else
      match t.unlink newConfigFile with
      | .ok t => .cleared t
      -- It is gone already, which is as good.
      | .error .noEntry => .cleared t
      | .error e => .failed e.message
  | .error e => .failed e.message

/-- Once the way is cleared, nothing stands in it any more. -/
theorem hasEntry_of_cleared {t t' : Tree} {force : Bool} (h : attempt t force = .cleared t') :
    t.hasEntry newConfigFile = true ∧ t'.hasEntry newConfigFile = false := by
  unfold attempt at h
  split at h
  · cases h
  · next hcreate =>
    have hbefore := Tree.hasEntry_of_create hcreate
    split at h
    · cases h
    · split at h
      · next hunlink =>
        cases h
        exact ⟨hbefore, Tree.hasEntry_of_unlink hunlink⟩
      · next hunlink =>
        -- An entry that was in the way of creating the file is there to be removed.
        rw [Tree.hasEntry_of_unlink_noEntry hunlink] at hbefore
        cases hbefore
      · cases h
  · cases h

def written (t : Tree) : Outcome where
  exit := 0
  log := [.info ("Created ".toList ++ newConfigFile)]
  tree := t

/-- How writing a new configuration ends, and how often creating the file was tried. -/
structure Setup where
  outcome : Outcome
  attempts : Nat
  deriving Repr

/-- Tries to create the configuration file until this succeeds or fails for good. -/
def setUp (t : Tree) (force : Bool) : Setup :=
  match _ : attempt t force with
  | .created t => ⟨written t, 1⟩
  | .cleared t' =>
    let rest := setUp t' force
    { rest with attempts := rest.attempts + 1 }
  | .failed reason => ⟨fail t [] reason, 1⟩
termination_by (t.hasEntry newConfigFile).toNat
decreasing_by
  obtain ⟨hbefore, hafter⟩ := hasEntry_of_cleared ‹_›
  rw [hbefore, hafter]
  decide

/-- The command that writes a new configuration. Whatever is there already stays, but with `force` a
file or a link is replaced; a link's target stays in any case. -/
def init (t : Tree) (force : Bool) : Outcome :=
  (setUp t force).outcome

/-- Runs a command line in a tree. -/
def run (t : Tree) (args : List Text) : Outcome :=
  match Invocation.parse? args with
  | none => { exit := 2, tree := t }
  | some .version => { exit := 0, stdout := version ++ ['\n'], tree := t }
  | some (.lint config patterns format noManifest) => lint t config patterns format noManifest
  | some (.init force) => init t force

end DocLint.Command
