import DocLint.Config.Schema
import DocLint.Diagnostic
import DocLint.Json.Parser

/-!
# Configuration

What can be chosen about the checks, how it is written as JSON, and what the options of rules do to
findings. `parse` reads a configuration, `ofJson?` and `toJson` convert between a configuration and
its JSON form, and `schema` describes that form.
-/

namespace DocLint

/-- What is chosen for a rule: on or off, or the name of a severity. -/
inductive RuleOption where
  | switch (on : Bool)
  | level (name : Text)
  deriving DecidableEq, Repr

namespace RuleOption

/-- Whether the findings of the rule are reported. -/
def isEnabled : RuleOption → Bool
  | .switch on => on
  | .level name => name != "off".toList

/-- The severity that the findings of the rule get, if one is named. -/
def severity? : RuleOption → Option Severity
  | .switch _ => none
  | .level name => Severity.ofName? name

end RuleOption

/-- What is chosen about build manifests. -/
structure ManifestConfig where
  enabled : Bool := true
  fileName : Text := "build.properties".toList
  /-- Globs for the files that must be packaged. -/
  requiredIncludes : List Text := ["ESH-INF/**/*.xml".toList]
  deriving DecidableEq, Repr

/-- A configuration. -/
structure Config where
  docFileName : Text := "README.md".toList
  docFolderName : Text := "doc".toList
  /-- Patterns for the headers that may end a document. -/
  headerExceptions : List Text := ["^[^\\p\x7bL\x7d\\p\x7bN\x7d]*$".toList]
  manifest : ManifestConfig := {}
  /-- Options by the identifier of their rule, sorted. -/
  options : List (Text × RuleOption) := []
  /-- Globs for the files to check; all files if there are none. -/
  includes : List Text := []
  /-- Globs for the files not to check. -/
  excludes : List Text := []
  /-- The directory of the file that the configuration was read from. -/
  baseDir : Option Text := none
  deriving DecidableEq, Repr

namespace Config

/-! ## JSON -/

def optionWords : List Text :=
  ["error".toList, "warning".toList, "info".toList, "off".toList]

def stringsSchema : Schema :=
  .array (.string false)

def manifestSchema : Schema :=
  .record
    [("enabled".toList, .boolean), ("fileName".toList, .string true),
      ("requiredIncludes".toList, stringsSchema)]

def schema : Schema :=
  .record
    [("$schema".toList, .string false), ("docFileName".toList, .string true),
      ("docFolderName".toList, .string true), ("headerExceptions".toList, stringsSchema),
      ("manifest".toList, manifestSchema), ("options".toList, .table (.switch optionWords)),
      ("include".toList, stringsSchema), ("exclude".toList, stringsSchema)]

/-- Reads a member of an object, or takes the default if it is missing. -/
def field? (j : Json) (key : String) (default : α) (read : Json → Option α) : Option α :=
  match j.member? key.toList with
  | none => some default
  | some v => read v

def readText : Json → Option Text
  | .str t => some t
  | _ => none

def readBool : Json → Option Bool
  | .bool b => some b
  | _ => none

def readTexts : Json → Option (List Text)
  | .arr xs => xs.mapM readText
  | _ => none

def readOption : Json → Option RuleOption
  | .bool b => some (.switch b)
  | .str t => some (.level t)
  | _ => none

def readOptions : Json → Option (List (Text × RuleOption))
  | .obj members => members.mapM fun (key, v) => (readOption v).map (key, ·)
  | _ => none

def readManifest (j : Json) : Option ManifestConfig :=
  match j with
  | .obj _ => do
    let default : ManifestConfig := {}
    let enabled ← field? j "enabled" default.enabled readBool
    let fileName ← field? j "fileName" default.fileName readText
    let requiredIncludes ← field? j "requiredIncludes" default.requiredIncludes readTexts
    return { enabled, fileName, requiredIncludes }
  | _ => none

/-- Reads a configuration. What is missing has its default. -/
def ofJson? (j : Json) : Option Config :=
  match j with
  | .obj _ => do
    let default : Config := {}
    let docFileName ← field? j "docFileName" default.docFileName readText
    let docFolderName ← field? j "docFolderName" default.docFolderName readText
    let headerExceptions ← field? j "headerExceptions" default.headerExceptions readTexts
    let manifest ← field? j "manifest" default.manifest readManifest
    let options ← field? j "options" default.options readOptions
    let includes ← field? j "include" default.includes readTexts
    let excludes ← field? j "exclude" default.excludes readTexts
    return { docFileName, docFolderName, headerExceptions, manifest, options, includes, excludes }
  | _ => none

def ofTexts (ts : List Text) : Json :=
  .arr (ts.map .str)

def ofOption : RuleOption → Json
  | .switch on => .bool on
  | .level name => .str name

/-- A configuration as JSON. The directory it was read from does not belong to it. -/
def toJson (c : Config) : Json :=
  .ofMembers
    [("docFileName".toList, .str c.docFileName), ("docFolderName".toList, .str c.docFolderName),
      ("headerExceptions".toList, ofTexts c.headerExceptions),
      ("manifest".toList, .ofMembers
        [("enabled".toList, .bool c.manifest.enabled),
          ("fileName".toList, .str c.manifest.fileName),
          ("requiredIncludes".toList, ofTexts c.manifest.requiredIncludes)]),
      ("options".toList, .ofMembers (c.options.map fun (key, o) => (key, ofOption o))),
      ("include".toList, ofTexts c.includes), ("exclude".toList, ofTexts c.excludes)]

/-! ## Options -/

/-- The finding as the option of its rule wants it, or nothing if the rule is off. -/
def applyOption (c : Config) (d : Diagnostic) : Option Diagnostic :=
  match c.options.lookup d.rule with
  | none => some d
  | some o =>
    if o.isEnabled then
      match o.severity? with
      | some s => some { d with severity := s }
      | none => some d
    else none

def applyOptions (c : Config) (ds : List Diagnostic) : List Diagnostic :=
  ds.filterMap c.applyOption

end Config

end DocLint
