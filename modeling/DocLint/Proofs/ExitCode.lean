import DocLint.Proofs.Config
import DocLint.Proofs.Summary

/-!
# The exit code of checking files

A run that checks files has three stages before it: the configuration is chosen, the linter is made
of it, and the files are found. If one of them fails, the exit code is 2 and nothing is printed. Once
they are through, the exit code is 1 or 0, and it depends on the files only and not on the format;
the numbers that are printed agree with it.
-/

namespace DocLint

namespace Linter

def FailsOn (l : Linter) (t : Tree) (paths : List Text) : Prop :=
  ∃ p ∈ paths, ∃ e, l.lintFile t p = .error e

theorem failures_eq_nil_iff {l : Linter} {t : Tree} {paths : List Text} :
    (l.lintFiles t paths).failures = [] ↔ ¬l.FailsOn t paths := by
  unfold FailsOn
  induction paths with
  | nil => simp [lintFiles]
  | cons p ps ih =>
    rw [lintFiles]
    cases h : l.lintFile t p with
    | ok reports => simp [h, ih]
    | error e => simp [h]

theorem failsOn_congr {l : Linter} {t t' : Tree} {paths : List Text}
    (h : ∀ p ∈ paths, (l.lintFile t' p).toOption = (l.lintFile t p).toOption) :
    l.FailsOn t' paths ↔ l.FailsOn t paths := by
  unfold FailsOn
  simp only [← toOption_eq_none_iff]
  refine exists_congr fun p => and_congr_right fun hp => ?_
  rw [h p hp]

end Linter

namespace Command

open Text

/-! ## Errors in reports -/

def HoldsError (rs : List Report) : Prop :=
  ∃ r ∈ rs, ∃ d ∈ r.diagnostics, d.severity = .error

theorem isError_iff {d : Diagnostic} : d.isError = true ↔ d.severity = .error := by
  unfold Diagnostic.isError
  exact beq_iff_eq

theorem any_hasErrors_iff {rs : List Report} :
    rs.any Report.hasErrors = true ↔ HoldsError rs := by
  simp only [List.any_eq_true, Report.hasErrors, isError_iff, HoldsError]

theorem length_errors_pos_iff {rs : List Report} :
    0 < ((rs.flatMap Report.diagnostics).filter Diagnostic.isError).length ↔ HoldsError rs := by
  rw [List.length_filter_pos_iff]
  simp only [List.mem_flatMap, isError_iff, HoldsError]
  constructor
  · rintro ⟨d, ⟨r, hr, hd⟩, he⟩
    exact ⟨r, hr, d, hd, he⟩
  · rintro ⟨r, hr, d, hd, he⟩
    exact ⟨d, ⟨r, hr, hd⟩, he⟩

/-! ## The stages -/

/-- The configuration as the command line leaves it. -/
def adjust (c : Config) (noManifest : Bool) : Config :=
  if noManifest then { c with manifest := { c.manifest with enabled := false } } else c

/-- A stage before the check fails: choosing the configuration, making the linter of it, or finding
the files. -/
inductive Aborts (t : Tree) (config : Option Text) (patterns : List Text) (noManifest : Bool) : Prop
  | loading {e : ConfigError} (h : (chooseConfig t config).2 = .error e)
  | building {c : Config} {e : ConfigError} (hc : (chooseConfig t config).2 = .ok c)
      (h : Linter.ofConfig (adjust c noManifest) = .error e)
  | discovering {c : Config} {l : Linter} {e : ConfigError} (hc : (chooseConfig t config).2 = .ok c)
      (hl : Linter.ofConfig (adjust c noManifest) = .ok l) (h : l.discover t patterns = .error e)

/-- All stages before the check end well, with a linter and the paths of the files. -/
def Ready (t : Tree) (config : Option Text) (patterns : List Text) (noManifest : Bool) (l : Linter)
    (paths : List Text) : Prop :=
  ∃ c, (chooseConfig t config).2 = .ok c ∧ Linter.ofConfig (adjust c noManifest) = .ok l ∧
    l.discover t patterns = .ok paths

variable {t : Tree} {config : Option Text} {patterns : List Text} {noManifest : Bool} {l : Linter}
  {paths : List Text}

theorem Ready.unique {l' : Linter} {paths' : List Text}
    (h : Ready t config patterns noManifest l paths)
    (h' : Ready t config patterns noManifest l' paths') : l = l' ∧ paths = paths' := by
  obtain ⟨c, hc, hl, hpaths⟩ := h
  obtain ⟨c', hc', hl', hpaths'⟩ := h'
  cases hc.symm.trans hc'
  cases hl.symm.trans hl'
  cases hpaths.symm.trans hpaths'
  exact ⟨rfl, rfl⟩

theorem Ready.not_aborts (h : Ready t config patterns noManifest l paths) :
    ¬Aborts t config patterns noManifest := by
  obtain ⟨c, hc, hl, hpaths⟩ := h
  intro habort
  cases habort with
  | loading h' =>
    rw [hc] at h'
    cases h'
  | building hc' h' =>
    cases hc.symm.trans hc'
    rw [hl] at h'
    cases h'
  | discovering hc' hl' h' =>
    cases hc.symm.trans hc'
    cases hl.symm.trans hl'
    rw [hpaths] at h'
    cases h'

/-- What a run does once all stages are through, whatever its format. -/
structure Finishes (t : Tree) (l : Linter) (paths : List Text) (format : Format) (o : Outcome) :
    Prop where
  stdout : o.stdout = print format (l.lintFiles t paths).reports
  exit_eq_one : o.exit = 1 ↔ l.FailsOn t paths ∨ HoldsError (l.lintFiles t paths).reports
  exit_eq_zero : o.exit = 0 ↔ ¬(l.FailsOn t paths ∨ HoldsError (l.lintFiles t paths).reports)

theorem finishes_lintWith (h : l.discover t patterns = .ok paths) (log : List LogLine)
    (format : Format) : Finishes t l paths format (lintWith l t log patterns format) := by
  have hexit : ((l.lintFiles t paths).reports.any Report.hasErrors ||
      !(l.lintFiles t paths).failures.isEmpty) = true ↔
      l.FailsOn t paths ∨ HoldsError (l.lintFiles t paths).reports := by
    rw [Bool.or_eq_true, any_hasErrors_iff, or_comm, Bool.not_eq_true', ← Bool.not_eq_true,
      List.isEmpty_iff, Linter.failures_eq_nil_iff, Classical.not_not]
  unfold lintWith
  rw [h]
  refine ⟨rfl, ?_, ?_⟩
  · rw [← hexit]
    simp only [ite_eq_left_iff, Nat.zero_ne_one, imp_false, Classical.not_not]
  · rw [← hexit]
    simp only [ite_eq_right_iff, Nat.one_ne_zero, imp_false]

theorem Finishes.exit_ne_two {format : Format} {o : Outcome} (h : Finishes t l paths format o) :
    o.exit ≠ 2 := by
  by_cases hbad : l.FailsOn t paths ∨ HoldsError (l.lintFiles t paths).reports
  · rw [h.exit_eq_one.mpr hbad]
    decide
  · rw [h.exit_eq_zero.mpr hbad]
    decide

/-- The exit code is the same wherever the same files fail and the same reports are made. -/
theorem Finishes.exit_eq_of_reports {t' : Tree} {l' : Linter} {paths' : List Text}
    {format format' : Format} {o o' : Outcome} (h : Finishes t l paths format o)
    (h' : Finishes t' l' paths' format' o') (hfails : l.FailsOn t paths ↔ l'.FailsOn t' paths')
    (hreports : (l.lintFiles t paths).reports = (l'.lintFiles t' paths').reports) :
    o.exit = o'.exit := by
  by_cases hbad : l'.FailsOn t' paths' ∨ HoldsError (l'.lintFiles t' paths').reports
  · rw [h'.exit_eq_one.mpr hbad, h.exit_eq_one]
    rwa [hfails, hreports]
  · rw [h'.exit_eq_zero.mpr hbad, h.exit_eq_zero]
    rwa [hfails, hreports]

theorem Finishes.exit_eq {format format' : Format} {o o' : Outcome}
    (h : Finishes t l paths format o) (h' : Finishes t l paths format' o') : o.exit = o'.exit :=
  h.exit_eq_of_reports h' Iff.rfl rfl

/-- The stages of a run, one behind the other. -/
theorem lint_eq (t : Tree) (config : Option Text) (patterns : List Text) (format : Format)
    (noManifest : Bool) :
    lint t config patterns format noManifest =
      let log := (chooseConfig t config).1
      match (chooseConfig t config).2 with
      | .error e => fail t log (LintError.config e).message
      | .ok c =>
        match Linter.ofConfig (adjust c noManifest) with
        | .error e => fail t log (LintError.config e).message
        | .ok l => lintWith l t log patterns format := rfl

theorem Ready.finishes (h : Ready t config patterns noManifest l paths) (format : Format) :
    Finishes t l paths format (lint t config patterns format noManifest) := by
  obtain ⟨c, hc, hl, hpaths⟩ := h
  simp only [lint_eq, hc, hl]
  exact finishes_lintWith hpaths _ format

/-- A run of the command either stops at a stage, with nothing printed, or checks the files that
were found. -/
theorem lint_cases (t : Tree) (config : Option Text) (patterns : List Text) (noManifest : Bool) :
    (Aborts t config patterns noManifest ∧ ∀ format,
      (lint t config patterns format noManifest).exit = 2 ∧
      (lint t config patterns format noManifest).stdout = []) ∨
    ∃ l paths, Ready t config patterns noManifest l paths ∧ ∀ format,
      Finishes t l paths format (lint t config patterns format noManifest) := by
  simp only [lint_eq]
  cases hc : (chooseConfig t config).2 with
  | error e => exact .inl ⟨.loading hc, fun format => ⟨rfl, rfl⟩⟩
  | ok c =>
    cases hl : Linter.ofConfig (adjust c noManifest) with
    | error e =>
      refine .inl ⟨.building hc hl, fun format => ?_⟩
      simp only [hl]
      exact ⟨rfl, rfl⟩
    | ok l =>
      simp only [hl]
      cases hpaths : l.discover t patterns with
      | error e =>
        refine .inl ⟨.discovering hc hl hpaths, fun format => ?_⟩
        unfold lintWith
        rw [hpaths]
        exact ⟨rfl, rfl⟩
      | ok paths =>
        refine .inr ⟨l, paths, ⟨c, hc, hl, hpaths⟩, fun format => ?_⟩
        exact finishes_lintWith hpaths _ format

/-! ## The command line -/

/-- The exit code tells what happened, in every format. It is 2, and nothing is printed, if and only
if a stage before the check fails. Otherwise it is 1 if a file could not be checked or an error was
found, and 0 if not. Printed as text, every finding stands there once, and the numbers in the last
line are those of the reports, of the findings and of the errors. -/
theorem exit_of_lint {args : List Text} {format : Format}
    (hargs : Invocation.parse? args = some (.lint config patterns format noManifest)) (t : Tree) :
    let o := run t args
    (o.exit = 2 ↔ Aborts t config patterns noManifest) ∧
    (o.stdout = [] ↔ Aborts t config patterns noManifest) ∧
    (∀ args' format', Invocation.parse? args' = some (.lint config patterns format' noManifest) →
      (run t args').exit = o.exit) ∧
    (¬Aborts t config patterns noManifest →
      ∃ l paths, Ready t config patterns noManifest l paths ∧
        let rs := (l.lintFiles t paths).reports
        let ds := rs.flatMap Report.diagnostics
        (o.exit = 1 ↔ l.FailsOn t paths ∨ HoldsError rs) ∧
        (o.exit = 0 ↔ ¬(l.FailsOn t paths ∨ HoldsError rs)) ∧
        (format = .text →
          o.stdout = (rs.flatMap pieces).flatMap Piece.text ++
            '\n' :: (lastLine o.stdout ++ ['\n']) ∧
          (rs.flatMap pieces).filterMap Piece.finding? = ds ∧
          ∃ errors, numbersIn (lastLine o.stdout) = [rs.length, ds.length, errors] ∧
            errors = (ds.filter Diagnostic.isError).length ∧
            (¬l.FailsOn t paths → (o.exit = 1 ↔ 0 < errors)))) := by
  have hrun : ∀ {args' : List Text} {format' : Format},
      Invocation.parse? args' = some (.lint config patterns format' noManifest) →
      run t args' = lint t config patterns format' noManifest := by
    intro args' format' h
    unfold run
    rw [h]
  intro o
  have ho : o = lint t config patterns format noManifest := hrun hargs
  rcases lint_cases t config patterns noManifest with ⟨habort, hall⟩ | ⟨l, paths, hready, hall⟩
  -- A stage fails before the format is looked at.
  · obtain ⟨hexit, hstdout⟩ := ho ▸ hall format
    refine ⟨by simp [hexit, habort], by simp [hstdout, habort], ?_, fun h => absurd habort h⟩
    intro args' format' h
    rw [hrun h, hexit]
    exact (hall format').1
  · have hfinish : Finishes t l paths format o := ho ▸ hall format
    have hno := hready.not_aborts
    refine ⟨?_, ?_, ?_, fun _ => ⟨l, paths, hready, hfinish.exit_eq_one, hfinish.exit_eq_zero, ?_⟩⟩
    · exact ⟨fun h => absurd h hfinish.exit_ne_two, fun h => absurd h hno⟩
    · rw [hfinish.stdout]
      exact ⟨fun h => absurd h (print_ne_nil _ _), fun h => absurd h hno⟩
    · intro args' format' h
      rw [hrun h]
      exact (hall format').exit_eq hfinish
    · rintro rfl
      obtain ⟨htext, hfindings, hnumbers⟩ := printText_summary (l.lintFiles t paths).reports
      have hstdout : o.stdout = printText (l.lintFiles t paths).reports := hfinish.stdout
      rw [hstdout]
      refine ⟨htext, hfindings, _, hnumbers, rfl, fun hfails => ?_⟩
      rw [hfinish.exit_eq_one, length_errors_pos_iff, or_iff_right hfails]

/-- A configuration without header exceptions, a blank file, and bytes that are no text. -/
def mixedFolder : Tree :=
  .dir [("c.json".toList, .file (.ofText "\x7b\"headerExceptions\":[]\x7d".toList)),
    ("a.md".toList, .file (.ofText " \n".toList)), ("b.md".toList, .file ⟨[0xC3], 2⟩)]

def mixedPaths : List Text :=
  ["a.md".toList, "b.md".toList]

def mixedLinter : Linter :=
  ⟨{ headerExceptions := [], baseDir := some [] }, [], ⟨[], [], "README.md".toList⟩⟩

theorem ready_mixedFolder :
    Ready mixedFolder (some "c.json".toList) mixedPaths false mixedLinter mixedPaths := by
  have hdiscover : mixedLinter.discover mixedFolder mixedPaths = .ok (Path.sort mixedPaths) := rfl
  have hsort : mixedPaths.mergeSort Path.le = mixedPaths := List.mergeSort_of_pairwise (by decide)
  refine ⟨mixedLinter.config, eq_ok_of_toOption (by decide +kernel), rfl, ?_⟩
  rw [hdiscover, Path.sort, hsort]
  unfold mixedPaths
  rw [Path.dropRepeated, if_neg (by decide), Path.dropRepeated]
  rintro _ _ _ ⟨⟩

theorem lintFiles_mixedFolder :
    mixedLinter.lintFiles mixedFolder mixedPaths =
      ⟨[⟨"a.md".toList, [Rule.emptyFile.finding "a.md".toList 0]⟩],
        [("b.md".toList, .file (.unreadable "b.md".toList Tree.Failure.invalidText.message))]⟩ := by
  have hblank : mixedLinter.lintFile mixedFolder "a.md".toList =
      .ok [.ofFindings "a.md".toList [Rule.emptyFile.finding "a.md".toList 0]] := rfl
  have hbytes : mixedLinter.lintFile mixedFolder "b.md".toList =
      .error (.file (.unreadable "b.md".toList Tree.Failure.invalidText.message)) := rfl
  unfold mixedPaths
  simp only [Linter.lintFiles, hblank, hbytes, Report.ofFindings, Diagnostic.sortForReport,
    List.mergeSort_singleton, List.append_nil]

theorem exit_of_lint_mixedFolder :
    let text := run mixedFolder ["-cc.json".toList, "lint".toList, "a.md".toList, "b.md".toList]
    let json := run mixedFolder
      ["lint".toList, "-fjson".toList, "a.md".toList, "-cc.json".toList, "b.md".toList]
    let lost := run mixedFolder ["-cd.json".toList, "lint".toList, "a.md".toList]
    text.exit = 1 ∧ numbersIn (lastLine text.stdout) = [1, 1, 1] ∧
      "\na.md:\n  0: error [empty-file]: The file a.md should not be empty.\n".toList <+:
        text.stdout ∧
      json.exit = 1 ∧ lost.exit = 2 ∧ lost.stdout = [] := by
  intro text json lost
  have htext : Invocation.parse? ["-cc.json".toList, "lint".toList, "a.md".toList, "b.md".toList] =
      some (.lint (some "c.json".toList) mixedPaths .text false) := by decide +kernel
  have hjson : Invocation.parse?
      ["lint".toList, "-fjson".toList, "a.md".toList, "-cc.json".toList, "b.md".toList] =
      some (.lint (some "c.json".toList) mixedPaths .json false) := by decide +kernel
  have hlost : Invocation.parse? ["-cd.json".toList, "lint".toList, "a.md".toList] =
      some (.lint (some "d.json".toList) ["a.md".toList] .text false) := by decide +kernel
  have habort : Aborts mixedFolder (some "d.json".toList) ["a.md".toList] false := .loading rfl
  obtain ⟨hexit, hstdout, -⟩ := exit_of_lint hlost mixedFolder
  obtain ⟨-, -, hsame, hfinish⟩ := exit_of_lint htext mixedFolder
  obtain ⟨l, paths, hready, hone, -, hsummary⟩ := hfinish ready_mixedFolder.not_aborts
  obtain ⟨rfl, rfl⟩ := ready_mixedFolder.unique hready
  have hfails : mixedLinter.FailsOn mixedFolder mixedPaths :=
    ⟨"b.md".toList, by decide, _, rfl⟩
  have hcode : text.exit = 1 := hone.mpr (.inl hfails)
  obtain ⟨hprinted, -, errors, hnumbers, rfl, -⟩ := hsummary rfl
  refine ⟨hcode, ?_, ?_, (hsame _ _ hjson).trans hcode, hexit.mpr habort, hstdout.mpr habort⟩
  · rw [hnumbers, lintFiles_mixedFolder]
    rfl
  · rw [hprinted, lintFiles_mixedFolder]
    exact List.prefix_append _ _

end Command

end DocLint
