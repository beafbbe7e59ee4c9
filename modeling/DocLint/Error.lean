import DocLint.Config.Basic
import DocLint.Glob.Parser

/-!
# Errors

Why a configuration cannot be used and why a file cannot be checked, each cause with its text. A
broken rule is no error but a finding.
-/

namespace DocLint

/-- Why a configuration, or a pattern for files, cannot be used. -/
inductive ConfigError where
  | unreadable (reason : Text)
  | invalidJson (source : Text) (fault : Json.FaultAt)
  | violation (v : Schema.Violation)
  /-- A JSON value that is no configuration although its schema allows it. -/
  | mismatch
  | headerException (pattern : Text)
  | invalidGlob (glob : Text) (fault : Glob.Fault)
  /-- A pattern for files that is neither a path nor a glob. -/
  | invalidPattern (pattern : Text) (fault : Glob.Fault)
  deriving Repr

def ConfigError.message : ConfigError → Text
  | .unreadable reason => "Failed to read config: ".toList ++ reason
  | .invalidJson source fault => "Invalid JSON: ".toList ++ Json.report source fault
  | .violation v => "Config validation failed: ".toList ++ v.message
  | .mismatch => "Invalid config".toList
  | .headerException pattern => "Invalid header exception '".toList ++ pattern ++ "'".toList
  | .invalidGlob glob fault => "Invalid glob pattern: ".toList ++ Glob.report glob fault
  | .invalidPattern pattern fault =>
    "Invalid pattern '".toList ++ pattern ++ "': ".toList ++ Glob.report pattern fault

/-- Why a file cannot be read. -/
inductive FileError where
  | noMetadata (path reason : Text)
  | notRegular (path : Text)
  | tooLarge (path : Text) (limit : Nat)
  | unreadable (path reason : Text)
  deriving DecidableEq, Repr

def FileError.message : FileError → Text
  | .noMetadata path reason =>
    "Failed to read metadata for ".toList ++ path ++ ": ".toList ++ reason
  | .notRegular path => "Not a regular file: ".toList ++ path
  | .tooLarge path limit =>
    "File size exceeds limit of ".toList ++ Text.ofNat limit ++ " bytes: ".toList ++ path
  | .unreadable path reason => "Failed to read ".toList ++ path ++ ": ".toList ++ reason

/-- Why a check cannot be made. -/
inductive LintError where
  | config (e : ConfigError)
  | file (e : FileError)
  | manifest (path reason : Text)
  deriving Repr

def LintError.message : LintError → Text
  | .config e => "Configuration error: ".toList ++ e.message
  | .file e => "File error: ".toList ++ e.message
  | .manifest path reason =>
    "Build manifest ".toList ++ path ++ " could not be read: ".toList ++ reason

namespace Config

/-- Reads a configuration. A text without a value is the default configuration. -/
def parse (t : Text) : Except ConfigError Config :=
  match Json.parse t with
  | .error f => .error (.invalidJson t f)
  | .ok j =>
    let j := j.getD (.obj [])
    match schema.violation? j with
    | some v => .error (.violation v)
    | none =>
      match ofJson? j with
      | some c => .ok c
      | none => .error .mismatch

end Config

end DocLint
