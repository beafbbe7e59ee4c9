import Mathlib.Data.Set.Function
import DocLint.Proofs.Includes
import DocLint.Proofs.Options
import DocLint.Proofs.Places

/-!
# Required files

A manifest is reported together with the files below its directory that are required and that it
does not package. Between the files and the report stand a walk through the tree, the joining of
names to paths, the globs, the options and two sorts. None of them loses a file or takes it twice:
joining keeps proper names apart, and so does the message about a path, although it says the path in
the middle of other text. So there is one finding for each of the files, and no other finding of
that rule.
-/

namespace DocLint

/-! ## Globs -/

namespace Glob

theorem exists_parseAll {crossing : Bool} {ts : List Text}
    (h : ∀ t ∈ ts, ∃ g, parse crossing t = .ok g) :
    ∃ gs, parseAll crossing ts = .ok gs ∧ ∀ g, g ∈ gs ↔ ∃ t ∈ ts, parse crossing t = .ok g := by
  induction ts with
  | nil => exact ⟨[], rfl, by simp⟩
  | cons t ts ih =>
    obtain ⟨⟨g, hg⟩, hts⟩ := List.forall_mem_cons.mp h
    obtain ⟨gs, hgs, hmem⟩ := ih hts
    refine ⟨g :: gs, ?_, ?_⟩
    · rw [parseAll, hg, hgs]
      rfl
    · intro g'
      rw [List.mem_cons, hmem, List.exists_mem_cons_iff, hg, Except.ok.injEq, eq_comm]

theorem exists_readAll {ts : List Text} (h : ∀ t ∈ ts, ∃ g, parse true t = .ok g) :
    ∃ gs, readAll ts = .ok gs ∧ ∀ g, g ∈ gs ↔ ∃ t ∈ ts, parse true t = .ok g := by
  obtain ⟨gs, hgs, hmem⟩ := exists_parseAll h
  refine ⟨gs, ?_, hmem⟩
  unfold readAll
  rw [hgs]

end Glob

/-! ## Paths of files -/

/-- The names of something below a directory can be read off its path. -/
theorem Tree.Contains.splitAt_relative {entries : List (Text × Tree)} {names : List Text}
    {c : Content} (h : (Tree.dir entries).Contains names (.file c))
    (hsound : (Tree.dir entries).isSound = true) :
    Text.splitAt '/' (Finder.relative names) = names := by
  refine Text.splitAt_joinWith (fun n hn => (h.isName hsound n hn).2.2.2) ?_
  rintro rfl
  cases h

theorem Tree.matching_perm (t : Tree) (dir : Text) (globs : List Glob) :
    (t.matching dir globs).Perm
      (((t.filesBelow dir).filter fun names => globs.any (·.accepts (Finder.relative names))).map
        Finder.relative) := by
  unfold matching
  cases globs with
  | nil => simp
  | cons g gs =>
    -- The paths are filtered after the names are joined, so the test moves behind the joining.
    rw [List.isEmpty_cons, if_neg Bool.false_ne_true]
    refine (List.mergeSort_perm _ _).trans ?_
    rw [List.filter_map]
    exact List.Perm.refl _

/-! ## Messages -/

namespace Manifest

theorem suggestedEntry_of_not_mem {path : Text} (h : '/' ∉ path) : suggestedEntry path = path := by
  unfold suggestedEntry
  rw [if_neg]
  rwa [List.contains_iff_mem]

theorem suggestedEntry_append {top : Text} (h : '/' ∉ top) (below : Text) :
    suggestedEntry (top ++ '/' :: below) = top ++ ['/'] := by
  unfold suggestedEntry
  rw [if_pos (by simp), List.takeWhile_append_of_pos, List.takeWhile_cons_of_neg (by decide),
    List.append_nil]
  intro c hc
  rw [bne_iff_ne]
  rintro rfl
  exact h hc

/-- A path that goes on has the same topmost folder, or one with a name that goes on. -/
theorem suggestedEntry_isPrefix {p q : Text} (h : p <+: q) :
    suggestedEntry p <+: suggestedEntry q := by
  obtain ⟨rest, rfl⟩ := h
  by_cases hp : '/' ∈ p
  · -- The topmost folder of the longer path is that of the shorter one.
    obtain ⟨top, below, rfl, htop⟩ := List.eq_append_cons_of_mem hp
    refine ⟨[], ?_⟩
    rw [List.append_nil, List.append_assoc, List.cons_append, suggestedEntry_append htop,
      suggestedEntry_append htop]
  · -- Without a slash the path itself is suggested, and it begins whatever follows.
    rw [suggestedEntry_of_not_mem hp]
    by_cases hrest : '/' ∈ rest
    · obtain ⟨top, below, rfl, htop⟩ := List.eq_append_cons_of_mem hrest
      rw [← List.append_assoc, suggestedEntry_append (by simp [hp, htop]), List.append_assoc]
      exact List.prefix_append p _
    · rw [suggestedEntry_of_not_mem (by simp [hp, hrest])]
      exact List.prefix_append p rest

/-- Messages about different paths differ. Of two paths with the same message one begins the other,
and then the longer one would make the longer message. -/
theorem missingMessage_injective (name : Text) : Function.Injective (missingMessage name) := by
  intro p q h
  unfold missingMessage at h
  simp only [List.append_assoc] at h
  have htail := List.append_cancel_left h
  -- Apart from the path and the suggested entry, both messages have the same length.
  have hlength := congrArg List.length htail
  simp only [List.length_append] at hlength
  rcases List.prefix_or_prefix_of_prefix (List.prefix_append p _)
    (htail ▸ List.prefix_append q _) with hpq | hqp
  · have hentry := (suggestedEntry_isPrefix hpq).length_le
    exact hpq.eq_of_length_le (by omega)
  · have hentry := (suggestedEntry_isPrefix hqp).length_le
    exact (hqp.eq_of_length_le (by omega)).symm

/-! ## Findings of the rule -/

/-- Whether a finding is about a file that is not packaged. -/
def isMissing (d : Diagnostic) : Bool :=
  d.rule == Rule.missingInclude.id

theorem filter_isMissing_check (m : Manifest) (docFile docFolder : Text) :
    (m.check docFile docFolder).filter isMissing = [] := by
  rw [List.filter_eq_nil_iff]
  intro d hd hmissing
  have hrule : d.rule ∈ (m.check docFile docFolder).map Diagnostic.rule := List.mem_map_of_mem hd
  rw [map_rule_check, beq_iff_eq.mp hmissing, List.mem_append, List.mem_ite_nil_right,
    List.mem_ite_nil_right] at hrule
  rcases hrule with ⟨-, h⟩ | ⟨-, h⟩
  · exact absurd h (by decide)
  · exact absurd h (by decide)

theorem filter_isMissing_checkRequired (m : Manifest) (name : Text) (paths : List Text) :
    (m.checkRequired name paths).filter isMissing = m.checkRequired name paths := by
  unfold checkRequired
  rw [List.filter_map]
  exact congrArg _ (List.filter_eq_self.mpr fun _ _ => rfl)

theorem filter_isMissing_applyOptions {c : Config} (hon : c.isOff Rule.missingInclude.id = false)
    (ds : List Diagnostic) :
    (c.applyOptions ds).filter isMissing = (ds.filter isMissing).map c.regrade := by
  rw [Config.applyOptions_eq, List.filter_map, List.filter_filter]
  congr 1
  refine List.filter_congr fun d _ => ?_
  show (isMissing d && !c.isOff d.rule) = isMissing d
  by_cases hmissing : isMissing d = true
  · rw [beq_iff_eq.mp hmissing, hon, hmissing]
    rfl
  · rw [Bool.not_eq_true] at hmissing
    rw [hmissing]
    rfl

end Manifest

/-! ## Reports -/

namespace Linter

open Manifest

/-- The finding about a file that is not packaged, as the options want it. -/
def missingFile (c : Config) (names : List Text) : Diagnostic :=
  c.regrade (missing c.manifest.fileName (Finder.relative names))

/-- The files in a directory that are required and not packaged, as the names that lead to them:
their paths match a glob for required files, and no entry of the manifest stands for them. -/
def unpackaged (c : Config) (m : Manifest) (dir : Tree) : Set (List Text) :=
  {names | (∃ content, dir.Contains names (.file content)) ∧
    (∃ pattern ∈ c.manifest.requiredIncludes, ∃ g, Glob.parse true pattern = .ok g ∧
      g.accepts (Finder.relative names) = true) ∧
    ¬m.Packages (Finder.relative names)}

/-- Different files have different findings. -/
theorem injOn_missingFile (c : Config) (m : Manifest) {entries : List (Text × Tree)}
    (hsound : (Tree.dir entries).isSound = true) :
    Set.InjOn (missingFile c) (unpackaged c m (.dir entries)) := by
  rintro names ⟨⟨content, hnames⟩, -⟩ names' ⟨⟨content', hnames'⟩, -⟩ hsame
  have hpath : Finder.relative names = Finder.relative names' :=
    missingMessage_injective c.manifest.fileName (congrArg Diagnostic.message hsame)
  rw [← hnames.splitAt_relative hsound, hpath, hnames'.splitAt_relative hsound]

/-- The files below a directory that match a glob and are not packaged. -/
def unpackagedBelow (t : Tree) (dir : Text) (globs : List Glob) (m : Manifest) :
    List (List Text) :=
  (t.filesBelow dir).filter fun names =>
    !m.includesPath (Finder.relative names) && globs.any (·.accepts (Finder.relative names))

theorem checkRequired_matching_perm (t : Tree) (dir : Text) (globs : List Glob) (m : Manifest)
    (name : Text) :
    (m.checkRequired name (t.matching dir globs)).Perm
      ((unpackagedBelow t dir globs m).map fun names => missing name (Finder.relative names)) := by
  have hperm := ((t.matching_perm dir globs).filter fun path => !m.includesPath path).map
    (missing name)
  rw [List.filter_map, List.filter_filter, List.map_map] at hperm
  exact hperm

theorem exists_report_missing {l : Linter} {t : Tree} {dir text : Text} {globs : List Glob}
    (hread : t.readText (Path.join dir l.config.manifest.fileName) = .ok text)
    (hglobs : Glob.readAll l.config.manifest.requiredIncludes = .ok globs)
    (hon : l.config.isOff Manifest.Rule.missingInclude.id = false) :
    ∃ report, l.lintManifest t dir = .ok report ∧
      (report.diagnostics.filter isMissing).Perm
        ((unpackagedBelow t dir globs (Manifest.parse text)).map (missingFile l.config)) := by
  unfold lintManifest
  dsimp only
  rw [hread, hglobs]
  refine ⟨_, rfl, ?_⟩
  -- Sorting only moves the findings of the rule, options keep them, and `check` has none.
  refine ((List.mergeSort_perm _ _).filter isMissing).trans ?_
  rw [filter_isMissing_applyOptions hon, List.filter_append, filter_isMissing_check,
    List.nil_append, filter_isMissing_checkRequired]
  have hperm := (checkRequired_matching_perm t dir globs (Manifest.parse text)
    l.config.manifest.fileName).map l.config.regrade
  rw [List.map_map] at hperm
  exact hperm

theorem mem_unpackagedBelow_iff {c : Config} {t : Tree} {dir : Text} {globs : List Glob}
    {m : Manifest} {entries : List (Text × Tree)} (hdir : t.find true dir = .ok (.dir entries))
    (hglobs : ∀ g, g ∈ globs ↔
      ∃ pattern ∈ c.manifest.requiredIncludes, Glob.parse true pattern = .ok g)
    {names : List Text} :
    names ∈ unpackagedBelow t dir globs m ↔ names ∈ unpackaged c m (.dir entries) := by
  unfold unpackagedBelow unpackaged
  rw [List.mem_filter, Tree.mem_filesBelow_iff hdir, Bool.and_eq_true, Bool.not_eq_true',
    ← Bool.not_eq_true, includesPath_iff, List.any_eq_true, Set.mem_ofPred_eq]
  refine and_congr_right fun _ => ?_
  rw [and_comm]
  refine and_congr_left fun _ => ?_
  constructor
  · rintro ⟨g, hg, haccepts⟩
    obtain ⟨pattern, hpattern, hparse⟩ := (hglobs g).mp hg
    exact ⟨pattern, hpattern, g, hparse, haccepts⟩
  · rintro ⟨pattern, hpattern, g, hparse, haccepts⟩
    exact ⟨g, (hglobs g).mpr ⟨pattern, hpattern, hparse⟩, haccepts⟩

/-- If a manifest and the globs for required files can be read, there is a report, and its findings
about files that are not packaged are one for each such file in the directory, also where several
globs match. What stands behind a link does not count, and without globs there is no such
finding. -/
theorem lintManifest_lists_unpackaged (l : Linter) {t : Tree} {dir text : Text}
    {entries : List (Text × Tree)} (ht : t.isSound = true)
    (hdir : t.find true dir = .ok (.dir entries))
    (hread : t.readText (Path.join dir l.config.manifest.fileName) = .ok text)
    (hglobs : ∀ pattern ∈ l.config.manifest.requiredIncludes, ∃ g, Glob.parse true pattern = .ok g)
    (hon : l.config.isOff Manifest.Rule.missingInclude.id = false) :
    ∃ report, l.lintManifest t dir = .ok report ∧
      let found := report.diagnostics.filter isMissing
      found.Nodup ∧
      Set.BijOn (missingFile l.config) (unpackaged l.config (Manifest.parse text) (.dir entries))
        {d | d ∈ found} ∧
      (l.config.manifest.requiredIncludes = [] → found = []) := by
  obtain ⟨globs, hparsed, hmem⟩ := Glob.exists_readAll hglobs
  obtain ⟨report, hreport, hperm⟩ := exists_report_missing hread hparsed hon
  refine ⟨report, hreport, ?_⟩
  intro found
  have hfiles : ∀ {names}, names ∈ unpackagedBelow t dir globs (Manifest.parse text) ↔
      names ∈ unpackaged l.config (Manifest.parse text) (.dir entries) :=
    mem_unpackagedBelow_iff hdir hmem
  have hinj := injOn_missingFile l.config (Manifest.parse text) (Tree.isSound_of_find ht hdir)
  refine ⟨?_, ⟨?_, hinj, ?_⟩, ?_⟩
  · refine hperm.nodup_iff.mpr (((Tree.nodup_filesBelow ht hdir).filter _).map_on ?_)
    intro names hnames names' hnames' hsame
    exact hinj (hfiles.mp hnames) (hfiles.mp hnames') hsame
  · intro names hnames
    exact hperm.mem_iff.mpr (List.mem_map_of_mem (hfiles.mpr hnames))
  · intro d hd
    obtain ⟨names, hnames, rfl⟩ := List.mem_map.mp (hperm.mem_iff.mp hd)
    exact ⟨names, hfiles.mp hnames, rfl⟩
  · intro hnone
    rw [List.eq_nil_iff_forall_not_mem]
    intro d hd
    obtain ⟨names, hnames, -⟩ := List.mem_map.mp (hperm.mem_iff.mp hd)
    obtain ⟨-, ⟨pattern, hpattern, -⟩, -⟩ := hfiles.mp hnames
    rw [hnone] at hpattern
    cases hpattern

/-- A bundle of which one folder is packaged, with a file beside that folder and a link to it. -/
def descriptorEntries : List (Text × Tree) :=
  [("build.properties".toList, .file (.ofText "bin.includes = ./ESH-INF/thing/".toList)),
    ("ESH-INF".toList, .dir
      [("thing".toList, .dir [("a.xml".toList, .file ⟨[], 1⟩)]), ("b.xml".toList, .file ⟨[], 1⟩),
        ("c.xml".toList, .link "b.xml".toList)])]

/-- Two globs that match the same files, and files that are not packaged are warned about. -/
def warningConfig : Config :=
  { manifest := { requiredIncludes := ["ESH-INF/**/*.xml".toList, "**/[a-c].xml".toList] }
    options := [(Manifest.Rule.missingInclude.id, .level "warning".toList)] }

theorem lintManifest_lists_descriptorEntries :
    let l : Linter := ⟨warningConfig, [], ⟨[], [], "README.md".toList⟩⟩
    let t : Tree := .dir [("p".toList, .dir descriptorEntries), ("q".toList, .link "p".toList)]
    let d := missingFile warningConfig ["ESH-INF".toList, "b.xml".toList]
    t.isSound = true ∧ t.find true "q".toList = .ok (.dir descriptorEntries) ∧
      t.readText "q/build.properties".toList = .ok "bin.includes = ./ESH-INF/thing/".toList ∧
      (∀ pattern ∈ warningConfig.manifest.requiredIncludes,
        ∃ g, Glob.parse true pattern = .ok g) ∧
      warningConfig.isOff Manifest.Rule.missingInclude.id = false ∧ d.severity = .warning ∧
      ∃ report, l.lintManifest t "q".toList = .ok report ∧ d ∈ report.diagnostics ∧
        (report.diagnostics.filter isMissing).Nodup := by
  intro l t d
  have ht : t.isSound = true := by decide +kernel
  have hdir : t.find true "q".toList = .ok (.dir descriptorEntries) := rfl
  have hread : t.readText "q/build.properties".toList =
      .ok "bin.includes = ./ESH-INF/thing/".toList := by decide +kernel
  have hglobs : ∀ pattern ∈ warningConfig.manifest.requiredIncludes,
      ∃ g, Glob.parse true pattern = .ok g := by
    have hparse : ∀ pattern ∈ warningConfig.manifest.requiredIncludes,
        (Glob.parse true pattern).toBool = true := by decide
    intro pattern hpattern
    have htrue := hparse pattern hpattern
    cases hg : Glob.parse true pattern with
    | ok g => exact ⟨g, rfl⟩
    | error fault =>
      rw [hg] at htrue
      cases htrue
  have hon : warningConfig.isOff Manifest.Rule.missingInclude.id = false := by decide
  refine ⟨ht, hdir, hread, hglobs, hon, by decide, ?_⟩
  obtain ⟨report, hreport, hnodup, hbij, -⟩ :=
    l.lintManifest_lists_unpackaged ht hdir hread hglobs hon
  refine ⟨report, hreport, ?_, hnodup⟩
  refine (List.mem_filter.mp (hbij.mapsTo ⟨⟨⟨[], 1⟩, ?_⟩, ?_, ?_⟩)).1
  · exact .entry (.tail _ (.head _)) (.entry (.tail _ (.head _)) (.self _))
  · exact ⟨"ESH-INF/**/*.xml".toList, by decide, _, rfl, by decide +kernel⟩
  · decide +kernel

end Linter

end DocLint
