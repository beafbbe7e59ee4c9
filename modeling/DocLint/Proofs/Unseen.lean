import Mathlib.Algebra.GroupWithZero.Nat
import Mathlib.Algebra.Order.BigOperators.Group.List
import Mathlib.Algebra.Order.Group.Nat
import DocLint.Proofs.Config
import DocLint.Proofs.Discovery
import DocLint.Proofs.Extended
import DocLint.Proofs.Pool

/-!
# A file that a check does not look at

One more file at the top of a tree changes what a check finds and reports only if a pattern stands
for it, if it is a documentation file or has to be packaged, or if it is the manifest of a
documentation file. In this last case the check reports more than without it.
-/

namespace DocLint

variable {entries : List (Text × Tree)} {name : Text} {c : Content}

open DocLint.Tree (extended)

/-! ## Finding -/

namespace Finder

variable {f : Finder} {patterns : List Text} {base start p : Text}

/-- A pattern stands for the file at a place: it is its path, or a glob that matches it. -/
def Meets (t : Tree) (place : List Text) (p : Text) : Prop :=
  ((∃ c, t.find false p = .ok (.file c)) ∧ t.Denotes p place) ∨
    (IsGlob t p ∧ ∃ g, Glob.parse true p = .ok g ∧ g.accepts (relative place) = true)

theorem filesWhere_extended {q : List Text → Bool} (hname : q [name] = false)
    (hnil : (extended entries name c).Denotes start [name] → q [] = false) :
    f.filesWhere (extended entries name c) start q = f.filesWhere (.dir entries) start q := by
  obtain ⟨more, hmore, hnew⟩ := Tree.exists_filesBelow_extended entries name c start
  have hnone : more.filter (fun names => q names && !f.ignores (relative names)) = [] := by
    rw [List.filter_eq_nil_iff]
    intro names hnames
    rcases hnew names hnames with rfl | ⟨rfl, hstart⟩
    · rw [hname]
      exact Bool.false_ne_true
    · rw [hnil hstart]
      exact Bool.false_ne_true
  unfold filesWhere
  rw [hmore, List.filter_append, hnone, List.append_nil]

theorem docFilesIn_extended (hdoc : name ≠ f.docFileName) :
    f.docFilesIn (extended entries name c) start = f.docFilesIn (.dir entries) start := by
  refine filesWhere_extended ?_ fun _ => rfl
  rw [List.getLast?_singleton, beq_eq_false_iff_ne]
  exact fun h => hdoc (Option.some.inj h)

theorem target_extended (hdoc : name ≠ f.docFileName)
    (hp : ¬Meets (extended entries name c) [name] p) :
    f.target (extended entries name c) p = f.target (.dir entries) p := by
  have halike := Tree.alike_find entries name c false p
  generalize hfind : (Tree.dir entries).find false p = r,
    hfind' : (extended entries name c).find false p = r' at halike
  cases halike with
  | new e hnew => exact absurd (.inl ⟨⟨c, hfind'⟩, hnew⟩) hp
  -- The trees differ, but both are directories that are searched for documentation files.
  | top => rw [target_of_dir hfind, target_of_dir hfind', docFilesIn_extended hdoc]
  | nowhere e e' =>
    unfold target
    rw [hfind, hfind']
  | same x =>
    unfold target
    rw [hfind, hfind', docFilesIn_extended hdoc]

theorem targets_extended (hdoc : name ≠ f.docFileName)
    (h : ∀ p ∈ patterns, ¬Meets (extended entries name c) [name] p) :
    f.targets (extended entries name c) patterns = f.targets (.dir entries) patterns := by
  induction patterns with
  | nil => rfl
  | cons p ps ih =>
    obtain ⟨hp, hps⟩ := List.forall_mem_cons.mp h
    rw [targets, targets, target_extended hdoc hp, ih hps]

/-- The same files are found if no pattern stands for the new one. -/
theorem discover_extended (hdoc : name ≠ f.docFileName)
    (hbase : ¬(extended entries name c).Denotes base [name])
    (h : ∀ p ∈ patterns, ¬Meets (extended entries name c) [name] p) :
    f.discover (extended entries name c) patterns base =
      f.discover (.dir entries) patterns base := by
  have htargets := targets_extended hdoc h
  unfold discover
  rw [htargets]
  cases hxs : f.targets (.dir entries) patterns with
  | error e => rfl
  | ok xs =>
    dsimp only
    rw [filesWhere_extended _ fun hnew => absurd hnew hbase]
    -- A glob that matches the new file is the target of a pattern that stands for it.
    rw [List.any_eq_false]
    intro g hg hmatch
    obtain ⟨p, hp, htarget⟩ := (mem_targets_iff (htargets.trans hxs)).mp (mem_globs_iff.mp hg)
    obtain ⟨hglob, hparse⟩ := target_eq_glob_iff.mp htarget
    exact h p hp (.inr ⟨hglob, g, hparse, hmatch⟩)

end Finder

/-- The same files have to be packaged if no glob for such files matches the new one. -/
theorem Tree.matching_extended {dir : Text} {globs : List Glob}
    (h : ∀ g ∈ globs, g.accepts name = false ∧ g.accepts [] = false) :
    (extended entries name c).matching dir globs = (Tree.dir entries).matching dir globs := by
  obtain ⟨more, hmore, hnew⟩ := exists_filesBelow_extended entries name c dir
  have hnone : (more.map Finder.relative).filter (fun p => globs.any (·.accepts p)) = [] := by
    rw [List.filter_eq_nil_iff]
    simp only [List.mem_map, Bool.not_eq_true, List.any_eq_false]
    rintro _ ⟨names, hnames, rfl⟩ g hg
    rcases hnew names hnames with rfl | ⟨rfl, -⟩
    · exact (h g hg).1
    · exact (h g hg).2
  unfold matching
  rw [hmore, List.map_append, List.filter_append, hnone, List.append_nil]

/-! ## Checking -/

namespace Linter

variable {l : Linter} {path : Text} {paths : List Text}

/-- A documentation file is checked with the file at a place as its manifest, and that can be
read. -/
structure UsesAsManifest (c : Config) (t : Tree) (place : List Text) (path : Text) : Prop where
  fit : ¬(t.Unreadable path ∨ TooLarge t path)
  checks : ChecksManifest c path
  leads : t.Denotes (manifestOf c path) place
  readable : ¬t.Unreadable (manifestOf c path)

/-- Without links a manifest is at a place that has its name. -/
theorem not_usesAsManifest_of_isLinkFree {cfg : Config} {t : Tree} {place : List Text}
    (ht : t.isLinkFree = true) (hfile : Path.IsName cfg.manifest.fileName)
    (hplace : place.getLast? ≠ some cfg.manifest.fileName) :
    ¬UsesAsManifest cfg t place path := by
  intro h
  have hleads := h.leads
  unfold manifestOf Tree.Denotes at hleads
  rw [Path.steps_join hfile] at hleads
  exact hplace (hleads.getLast?_of_isLinkFree ht)

theorem toOption_readFile_extended (h : ¬(extended entries name c).Denotes path [name]) :
    (readFile (extended entries name c) path).toOption =
      (readFile (.dir entries) path).toOption := by
  have halike := Tree.alike_find entries name c true path
  generalize hfind : (Tree.dir entries).find true path = r,
    hfind' : (extended entries name c).find true path = r' at halike
  unfold readFile
  rw [hfind, hfind']
  cases halike with
  | same x => rfl
  | top => rfl
  | nowhere e e' => rfl
  | new e hnew => exact absurd hnew h

/-- The manifest in a directory is reported alike, unless the new file is that manifest. -/
theorem toOption_lintManifest_extended {dir : Text}
    (hglobs : ∀ globs, Glob.readAll l.config.manifest.requiredIncludes = .ok globs →
      ∀ g ∈ globs, g.accepts name = false ∧ g.accepts [] = false)
    (h : (extended entries name c).Denotes (Path.join dir l.config.manifest.fileName) [name] →
      (extended entries name c).Unreadable (Path.join dir l.config.manifest.fileName)) :
    (l.lintManifest (extended entries name c) dir).toOption =
      (l.lintManifest (.dir entries) dir).toOption := by
  have hread := Tree.toOption_readText_extended h
  unfold lintManifest
  dsimp only
  cases hbefore : (Tree.dir entries).readText (Path.join dir l.config.manifest.fileName) with
  | error e =>
    rw [hbefore] at hread
    obtain ⟨e', hafter⟩ := toOption_eq_none_iff.mp hread
    rw [hafter]
    rfl
  | ok text =>
    rw [hbefore] at hread
    rw [eq_ok_of_toOption hread]
    dsimp only
    cases hrequired : Glob.readAll l.config.manifest.requiredIncludes with
    | error e => rfl
    | ok globs =>
      dsimp only
      rw [Tree.matching_extended (hglobs globs hrequired)]

/-- A file is reported alike, unless the new file is its manifest. -/
theorem toOption_lintFile_extended
    (hglobs : ∀ globs, Glob.readAll l.config.manifest.requiredIncludes = .ok globs →
      ∀ g ∈ globs, g.accepts name = false ∧ g.accepts [] = false)
    (hpath : ¬(extended entries name c).Denotes path [name])
    (h : ¬UsesAsManifest l.config (extended entries name c) [name] path) :
    (l.lintFile (extended entries name c) path).toOption =
      (l.lintFile (.dir entries) path).toOption := by
  have hread := toOption_readFile_extended hpath
  cases hbefore : readFile (.dir entries) path with
  | error e =>
    rw [hbefore] at hread
    obtain ⟨e', hafter⟩ := toOption_eq_none_iff.mp hread
    unfold lintFile
    rw [hbefore, hafter]
    rfl
  | ok text =>
    rw [hbefore] at hread
    have hafter := eq_ok_of_toOption hread
    have hfit : ¬((extended entries name c).Unreadable path ∨
        TooLarge (extended entries name c) path) := by
      rw [← readFile_eq_error_iff, hafter]
      rintro ⟨e, he⟩
      cases he
    rw [lintFile_of_readFile l hbefore, lintFile_of_readFile l hafter]
    by_cases hchecks : ChecksManifest l.config path
    · rw [if_pos hchecks, if_pos hchecks, toOption_map, toOption_map,
        toOption_lintManifest_extended hglobs fun hleads =>
          by_contra fun hreadable => h ⟨hfit, hchecks, hleads, hreadable⟩]
    · rw [if_neg hchecks, if_neg hchecks]

/-- With the new file as its manifest a documentation file is reported, and without it is not. -/
theorem lintFile_of_usesAsManifest {cfg : Config} (hl : ofConfig cfg = .ok l)
    (ht : (Tree.dir entries).isSound = true) (hname : Path.IsName name)
    (habsent : ∀ x, ¬(Tree.dir entries).Contains [name] x)
    (h : UsesAsManifest cfg (extended entries name c) [name] path) :
    (∃ e, l.lintFile (.dir entries) path = .error e) ∧
      ∃ reports, l.lintFile (extended entries name c) path = .ok reports ∧ reports ≠ [] := by
  constructor
  · have hbad := Tree.unreadable_of_denotes_file ht hname habsent h.leads
    rcases lintFile_cases hl (.dir entries) path with ⟨-, e, herror⟩ | ⟨-, hrest⟩
    · exact ⟨_, herror⟩
    · rcases hrest with ⟨-, -, reason, herror⟩ | ⟨-, hgood, -⟩ | ⟨hchecks, -⟩
      · exact ⟨_, herror⟩
      · exact absurd hbad hgood
      · exact absurd h.checks hchecks
  · rcases lintFile_cases hl (extended entries name c) path with ⟨hunfit, -⟩ | ⟨-, hrest⟩
    · exact absurd hunfit h.fit
    · rcases hrest with ⟨-, hbad, -⟩ | ⟨-, -, reports, hreports, hpaths⟩ | ⟨hchecks, -⟩
      · exact absurd hbad h.readable
      · refine ⟨reports, hreports, ?_⟩
        rintro rfl
        cases hpaths
      · exact absurd h.checks hchecks

/-! ## Checking in two trees -/

section Trees

variable {t t' : Tree} {w : Report → Nat}

theorem reports_eq_of_toOption
    (h : ∀ p ∈ paths, (l.lintFile t' p).toOption = (l.lintFile t p).toOption) :
    (l.lintFiles t' paths).reports = (l.lintFiles t paths).reports := by
  rw [reports_lintFiles, reports_lintFiles, List.filterMap_congr h]

theorem sum_reports (w : Report → Nat) (t : Tree) (paths : List Text) :
    ((l.lintFiles t paths).reports.map w).sum =
      (paths.map fun p => (((l.lintFile t p).toOption.getD []).map w).sum).sum := by
  induction paths with
  | nil => rfl
  | cons p ps ih =>
    rw [List.map_cons, List.sum_cons, ← ih, lintFiles]
    cases l.lintFile t p with
    | ok reports => exact (congrArg List.sum List.map_append).trans List.sum_append
    | error e => exact (Nat.zero_add _).symm

/-- There is more to report if some of the files that could not be checked now can, and all others
are reported alike. -/
theorem sum_reports_lt (hw : ∀ r, 0 < w r)
    (h : ∀ p ∈ paths, (l.lintFile t' p).toOption = (l.lintFile t p).toOption ∨
      ∃ e, l.lintFile t p = .error e)
    (hmore : ∃ p ∈ paths, (∃ e, l.lintFile t p = .error e) ∧
      ∃ reports, l.lintFile t' p = .ok reports ∧ reports ≠ []) :
    ((l.lintFiles t paths).reports.map w).sum < ((l.lintFiles t' paths).reports.map w).sum := by
  -- Place by place there are no fewer reports than before, and somewhere there are more.
  rw [sum_reports, sum_reports]
  apply List.sum_lt_sum
  · intro p hp
    rcases h p hp with hsame | ⟨e, herror⟩
    · rw [hsame]
    · rw [herror]
      exact Nat.zero_le _
  · obtain ⟨p, hp, ⟨e, herror⟩, reports, hreports, hne⟩ := hmore
    refine ⟨p, hp, ?_⟩
    rw [herror, hreports]
    obtain ⟨r, rest, rfl⟩ := List.exists_cons_of_ne_nil hne
    show 0 < w r + (rest.map w).sum
    exact Nat.add_pos_left (hw r) _

end Trees

end Linter

end DocLint
