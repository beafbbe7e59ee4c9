import DocLint.Linter
import DocLint.Proofs.Decoding

/-!
# Why a file cannot be checked

Checking a file reads it, and behind it the manifest next to a documentation file. What the tree
holds at these two paths decides on the outcome: an error about the file, an error about the
manifest, or reports. The globs that are read for the manifest are those that the linter was made
with, so they never fail again.
-/

namespace DocLint

namespace Tree

/-- A path does not lead to a text: there is nothing, there is something other than a regular file,
or the bytes of the file are not the bytes of a text. -/
inductive Unreadable (t : Tree) (path : Text) : Prop
  | missing {e : Failure} (h : t.find true path = .error e)
  | notRegular {x : Tree} (h : t.find true path = .ok x) (hx : ∀ content, x ≠ .file content)
  | notText {content : Content} (h : t.find true path = .ok (.file content))
      (htext : ∀ text, Text.Utf8.encode text ≠ content.bytes)

theorem readText_of_file {t : Tree} {path text : Text} {content : Content}
    (h : t.find true path = .ok (.file content)) (htext : content.text? = some text) :
    t.readText path = .ok text := by
  unfold readText
  rw [h]
  dsimp only
  rw [htext]

theorem not_unreadable_of_file {t : Tree} {path text : Text} {content : Content}
    (h : t.find true path = .ok (.file content)) (htext : content.text? = some text) :
    ¬t.Unreadable path := by
  intro hbad
  cases hbad with
  | missing h' =>
    rw [h] at h'
    cases h'
  | notRegular h' hx =>
    rw [h] at h'
    cases h'
    exact hx content rfl
  | notText h' hno =>
    rw [h] at h'
    cases h'
    exact hno text (Content.text?_eq_some_iff.mp htext)

/-- Reading fails exactly on the paths that do not lead to a text. -/
theorem readText_eq_error_iff {t : Tree} {path : Text} :
    (∃ e, t.readText path = .error e) ↔ t.Unreadable path := by
  unfold readText
  split
  · rename_i e h
    exact ⟨fun _ => .missing h, fun _ => ⟨e, rfl⟩⟩
  · rename_i content h
    split
    · rename_i text htext
      constructor
      · rintro ⟨e, he⟩
        cases he
      · intro hbad
        exact absurd hbad (not_unreadable_of_file h htext)
    · rename_i hnone
      exact ⟨fun _ => .notText h (Content.text?_eq_none_iff.mp hnone), fun _ => ⟨_, rfl⟩⟩
  · rename_i x hx h
    exact ⟨fun _ => .notRegular h hx, fun _ => ⟨_, rfl⟩⟩

end Tree

namespace Linter

/-! ## Reading the file -/

/-- A path leads to a regular file with more bytes than are checked. -/
def TooLarge (t : Tree) (path : Text) : Prop :=
  ∃ content, t.find true path = .ok (.file content) ∧ maxFileSize < content.bytes.length

/-- A file is read unless its path does not lead to a text, or to too much of it. -/
theorem readFile_eq_error_iff {t : Tree} {path : Text} :
    (∃ e, readFile t path = .error e) ↔ t.Unreadable path ∨ TooLarge t path := by
  unfold readFile
  split
  · rename_i e h
    exact ⟨fun _ => .inl (.missing h), fun _ => ⟨_, rfl⟩⟩
  · rename_i content h
    rw [← Content.length_bytes]
    by_cases hlarge : maxFileSize < content.bytes.length
    · rw [if_pos hlarge]
      exact ⟨fun _ => .inr ⟨content, h, hlarge⟩, fun _ => ⟨_, rfl⟩⟩
    · rw [if_neg hlarge]
      split
      · rename_i text htext
        constructor
        · rintro ⟨e, he⟩
          cases he
        · rintro (hbad | ⟨content', h', hlarge'⟩)
          · exact absurd hbad (Tree.not_unreadable_of_file h htext)
          · rw [h] at h'
            cases h'
            exact absurd hlarge' hlarge
      · rename_i hnone
        exact ⟨fun _ => .inl (.notText h (Content.text?_eq_none_iff.mp hnone)), fun _ => ⟨_, rfl⟩⟩
  · rename_i x hx h
    exact ⟨fun _ => .inl (.notRegular h hx), fun _ => ⟨_, rfl⟩⟩

/-! ## Checking the manifest -/

/-- Whether a file is reported together with the manifest next to it. -/
def ChecksManifest (c : Config) (path : Text) : Prop :=
  c.manifest.enabled = true ∧
    Text.sameIgnoringAsciiCase ((Path.fileName? path).getD []) c.docFileName = true

instance (c : Config) (path : Text) : Decidable (ChecksManifest c path) :=
  inferInstanceAs (Decidable (_ ∧ _))

def manifestOf (c : Config) (path : Text) : Text :=
  Path.join (dirOf path) c.manifest.fileName

/-- A linter keeps its configuration, of which it has read the globs for the manifest. -/
theorem config_of_ofConfig {c : Config} {l : Linter} (h : ofConfig c = .ok l) :
    l.config = c ∧ ∃ globs, Glob.readAll c.manifest.requiredIncludes = .ok globs := by
  unfold ofConfig at h
  split at h
  · cases h
  · split at h
    · cases h
    · split at h
      · cases h
      · rename_i globs hglobs
        cases h
        exact ⟨rfl, globs, hglobs⟩

/-- A change of a configuration that keeps its patterns and globs carries over to its linter. -/
theorem ofConfig_of_same {f : Config → Config} {c : Config}
    (hheaders : (f c).headerExceptions = c.headerExceptions)
    (hincludes : (f c).includes = c.includes) (hexcludes : (f c).excludes = c.excludes)
    (hdoc : (f c).docFileName = c.docFileName)
    (hrequired : (f c).manifest.requiredIncludes = c.manifest.requiredIncludes) :
    ofConfig (f c) = (ofConfig c).map fun l => { l with config := f l.config } := by
  unfold ofConfig
  rw [hheaders, hincludes, hexcludes, hdoc, hrequired]
  cases Pattern.parseAll c.headerExceptions with
  | error p => rfl
  | ok exceptions =>
    dsimp only
    cases Finder.ofGlobs c.includes c.excludes c.docFileName with
    | error e => rfl
    | ok finder =>
      dsimp only
      cases Glob.readAll c.manifest.requiredIncludes <;> rfl

/-- With globs that can be read, a manifest is reported if and only if it is text. -/
theorem lintManifest_cases (l : Linter) (t : Tree) (dir : Text)
    (hglobs : ∃ globs, Glob.readAll l.config.manifest.requiredIncludes = .ok globs) :
    let path := Path.join dir l.config.manifest.fileName
    (t.Unreadable path ∧ ∃ reason, l.lintManifest t dir = .error (.manifest path reason)) ∨
      (¬t.Unreadable path ∧ ∃ report, l.lintManifest t dir = .ok report ∧ report.path = path) := by
  intro path
  obtain ⟨globs, hglobs⟩ := hglobs
  unfold lintManifest
  cases hread : t.readText path with
  | error e =>
    left
    refine ⟨Tree.readText_eq_error_iff.mp ⟨e, hread⟩, e.message, ?_⟩
    simp only [path] at hread
    simp only [hread, path]
  | ok text =>
    right
    constructor
    · intro hbad
      obtain ⟨e, he⟩ := Tree.readText_eq_error_iff.mpr hbad
      rw [hread] at he
      cases he
    · simp only [path] at hread
      simp only [hread, hglobs]
      exact ⟨_, rfl, rfl⟩

/-! ## The outcomes -/

def fileReport (l : Linter) (path text : Text) : Report :=
  { l.lintText ((Path.fileName? path).getD []) text with path := path }

/-- A file that was read is reported, alone or in front of its manifest. -/
theorem lintFile_of_readFile (l : Linter) {t : Tree} {path text : Text}
    (h : readFile t path = .ok text) :
    l.lintFile t path =
      if ChecksManifest l.config path then
        (l.lintManifest t (dirOf path)).map fun manifest => [l.fileReport path text, manifest]
      else .ok [l.fileReport path text] := by
  unfold lintFile
  simp only [h, Bool.and_eq_true]
  show ite (ChecksManifest l.config path) _ _ = _
  congr 1
  cases l.lintManifest t (dirOf path) <;> rfl

/-- What checking a file can come to, with the condition for each. -/
theorem lintFile_cases {c : Config} {l : Linter} (hl : ofConfig c = .ok l) (t : Tree)
    (path : Text) :
    ((t.Unreadable path ∨ TooLarge t path) ∧ ∃ e, l.lintFile t path = .error (.file e)) ∨
    (¬(t.Unreadable path ∨ TooLarge t path) ∧
      ((ChecksManifest c path ∧ t.Unreadable (manifestOf c path) ∧
          ∃ reason, l.lintFile t path = .error (.manifest (manifestOf c path) reason)) ∨
        (ChecksManifest c path ∧ ¬t.Unreadable (manifestOf c path) ∧
          ∃ reports, l.lintFile t path = .ok reports ∧
            reports.map Report.path = [path, manifestOf c path]) ∨
        (¬ChecksManifest c path ∧
          ∃ reports, l.lintFile t path = .ok reports ∧ reports.map Report.path = [path]))) := by
  obtain ⟨rfl, hglobs⟩ := config_of_ofConfig hl
  cases hread : readFile t path with
  | error e =>
    left
    refine ⟨readFile_eq_error_iff.mp ⟨e, hread⟩, e, ?_⟩
    unfold lintFile
    rw [hread]
  | ok text =>
    right
    have hfit : ¬(t.Unreadable path ∨ TooLarge t path) := by
      rw [← readFile_eq_error_iff, hread]
      simp
    refine ⟨hfit, ?_⟩
    -- Only the manifest can fail now, and only if it is looked at.
    rw [lintFile_of_readFile l hread]
    by_cases hchecks : ChecksManifest l.config path
    · rw [if_pos hchecks]
      rcases lintManifest_cases l t (dirOf path) hglobs with ⟨hbad, reason, h⟩ | ⟨hgood, r, h, hr⟩
      · rw [h]
        exact .inl ⟨hchecks, hbad, reason, rfl⟩
      · rw [h]
        refine .inr (.inl ⟨hchecks, hgood, _, rfl, ?_⟩)
        rw [List.map_cons, List.map_singleton, hr]
        rfl
    · rw [if_neg hchecks]
      exact .inr (.inr ⟨hchecks, _, rfl, rfl⟩)

/-- A linter fails on a file exactly if the file is missing, not regular, too large or not UTF-8;
and otherwise exactly if the manifest has to be checked and cannot be read, which is then named.
In all other cases there is a report about the file, with one about the manifest behind it if that
has to be checked. There is never an error about the configuration. -/
theorem lintFile_outcomes {c : Config} {l : Linter} (hl : ofConfig c = .ok l) (t : Tree)
    (path : Text) :
    let unfit := t.Unreadable path ∨ TooLarge t path
    let lacksManifest := ChecksManifest c path ∧ t.Unreadable (manifestOf c path)
    ((∃ e, l.lintFile t path = .error (.file e)) ↔ unfit) ∧
    ((∃ m reason, l.lintFile t path = .error (.manifest m reason)) ↔ ¬unfit ∧ lacksManifest) ∧
    (∀ m reason, l.lintFile t path = .error (.manifest m reason) → m = manifestOf c path) ∧
    ((∃ reports, l.lintFile t path = .ok reports) ↔ ¬unfit ∧ ¬lacksManifest) ∧
    (∀ reports, l.lintFile t path = .ok reports → reports.map Report.path =
      if ChecksManifest c path then [path, manifestOf c path] else [path]) ∧
    ∀ e, l.lintFile t path ≠ .error (.config e) := by
  intro unfit lacksManifest
  rcases lintFile_cases hl t path with ⟨hunfit, e, h⟩ | ⟨hfit, hrest⟩
  · simp [h, unfit, hunfit]
  · rcases hrest with ⟨hchecks, hbad, reason, h⟩ | ⟨hchecks, hgood, reports, h, hpaths⟩ |
      ⟨hchecks, reports, h, hpaths⟩
    · simp [h, unfit, hfit, lacksManifest, hchecks, hbad]
    · simp [h, unfit, hfit, lacksManifest, hchecks, hgood, hpaths]
    · simp [h, unfit, hfit, lacksManifest, hchecks, hpaths, -List.map_eq_singleton_iff]

/-- A bundle whose manifest is a link to bytes that are no text. -/
def brokenBundle : Tree :=
  .dir [("b".toList, .dir [("ReadMe.MD".toList, .file (.ofText "# T\n".toList)),
    ("build.properties".toList, .link "manifest".toList),
    ("manifest".toList, .file ⟨[0xC3], 2⟩)])]

/-- The default configuration without header exceptions. -/
def bundleConfig : Config :=
  { headerExceptions := [] }

theorem lintFile_outcomes_brokenBundle :
    ∃ l, ofConfig bundleConfig = .ok l ∧
      (∃ m reason, l.lintFile brokenBundle "b//ReadMe.MD".toList = .error (.manifest m reason) ∧
        m = "b/build.properties".toList) ∧
      ∃ e, l.lintFile brokenBundle "b/manifest/../ReadMe.MD".toList = .error (.file e) := by
  have hl : ofConfig bundleConfig = .ok ⟨bundleConfig, [], ⟨[], [], "README.md".toList⟩⟩ := rfl
  refine ⟨_, hl, ?_, ?_⟩
  · obtain ⟨-, hmanifest, hname, -⟩ :=
      lintFile_outcomes hl brokenBundle "b//ReadMe.MD".toList
    have hfile : brokenBundle.find true "b//ReadMe.MD".toList =
        .ok (.file (.ofText "# T\n".toList)) := rfl
    have hfit : ¬(brokenBundle.Unreadable "b//ReadMe.MD".toList ∨
        TooLarge brokenBundle "b//ReadMe.MD".toList) := by
      rintro (hbad | ⟨content, h, hlarge⟩)
      · have htext : (Content.ofText "# T\n".toList).text? = some "# T\n".toList := by decide
        exact Tree.not_unreadable_of_file hfile htext hbad
      · rw [hfile] at h
        cases h
        revert hlarge
        decide
    have hpath : manifestOf bundleConfig "b//ReadMe.MD".toList = "b/build.properties".toList := by
      decide
    have hbad : brokenBundle.Unreadable (manifestOf bundleConfig "b//ReadMe.MD".toList) := by
      have hlink : brokenBundle.find true (manifestOf bundleConfig "b//ReadMe.MD".toList) =
          .ok (.file ⟨[0xC3], 2⟩) := by
        rw [hpath]
        rfl
      exact .notText hlink (Content.text?_eq_none_iff.mp (by decide))
    obtain ⟨m, reason, h⟩ := hmanifest.mpr ⟨hfit, by decide, hbad⟩
    exact ⟨m, reason, h, (hname m reason h).trans hpath⟩
  · obtain ⟨hfile, -⟩ := lintFile_outcomes hl brokenBundle "b/manifest/../ReadMe.MD".toList
    exact hfile.mpr (.inl (.missing (e := .notDirectory) rfl))

end Linter

end DocLint
