import DocLint.Text.Basic

/-!
# Diagnostics

A finding about one file, and the report that collects the findings of a file in the order of
their lines.
-/

namespace DocLint

/-- How serious a finding is; errors come first. -/
inductive Severity where
  | error
  | warning
  | info
  deriving DecidableEq, Repr

namespace Severity

def name : Severity → Text
  | .error => "error".toList
  | .warning => "warning".toList
  | .info => "info".toList

def ofName? (t : Text) : Option Severity :=
  [Severity.error, .warning, .info].find? (·.name == t)

def rank : Severity → Nat
  | .error => 0
  | .warning => 1
  | .info => 2

end Severity

/-- A finding. Lines count from 1; line 0 stands for the file as a whole. -/
structure Diagnostic where
  rule : Text
  line : Nat
  message : Text
  severity : Severity := .error
  deriving DecidableEq, Repr

namespace Diagnostic

/-- Whether the finding is about the file as a whole. -/
def isFileLevel (d : Diagnostic) : Bool :=
  d.line == 0

def isError (d : Diagnostic) : Bool :=
  d.severity == .error

/-- The order of a report: by line, then rule, then message. Severity does not count. -/
def compareInReport (a b : Diagnostic) : Ordering :=
  ((compare a.line b.line).then (Text.compare a.rule b.rule)).then
    (Text.compare a.message b.message)

/-- The natural order: by rule, then line, message and severity. -/
def compareNaturally (a b : Diagnostic) : Ordering :=
  (((Text.compare a.rule b.rule).then (compare a.line b.line)).then
    (Text.compare a.message b.message)).then (compare a.severity.rank b.severity.rank)

/-- Findings in the order of a report; findings that compare equal keep their order. -/
def sortForReport (ds : List Diagnostic) : List Diagnostic :=
  ds.mergeSort (fun a b => compareInReport a b != .gt)

def sortNaturally (ds : List Diagnostic) : List Diagnostic :=
  ds.mergeSort (fun a b => compareNaturally a b != .gt)

end Diagnostic

/-- The findings of one file. -/
structure Report where
  path : Text
  diagnostics : List Diagnostic
  deriving DecidableEq, Repr

namespace Report

/-- The report of a file: its findings, sorted. -/
def ofFindings (path : Text) (ds : List Diagnostic) : Report :=
  ⟨path, Diagnostic.sortForReport ds⟩

def errorCount (r : Report) : Nat :=
  (r.diagnostics.filter Diagnostic.isError).length

def hasErrors (r : Report) : Bool :=
  r.diagnostics.any Diagnostic.isError

end Report

end DocLint
