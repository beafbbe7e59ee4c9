import Mathlib.Data.List.Nodup
import Mathlib.Data.List.Permutation
import DocLint.Proofs.Discovery

/-!
# Ways to a file

A file can be selected in several ways, and each way spells its path and tests the globs of the
configuration in its own manner: a path as it is given, a file in a directory relative to that
directory, and a match relative to the base. So one file may be found under two paths, and a file
that is left out by its path from the base may be found on a way that spells it otherwise. This
module says exactly when either happens.
-/

namespace DocLint.Finder

variable {f : Finder} {t : Tree} {patterns : List Text} {base : Text} {paths : List Text}
  {entries : List (Text × Tree)}

/-! ## Files found twice -/

/-- The paths that the paths of files begin with: patterns that exist, and the base directory if a
pattern is a glob. -/
def IsStart (t : Tree) (patterns : List Text) (base start : Text) : Prop :=
  (start ∈ patterns ∧ ¬IsGlob t start) ∨ (start = base ∧ ∃ p ∈ patterns, IsGlob t p)

theorem Selects.exists_start {path : Text} (h : f.Selects t patterns base path) :
    ∃ start names x followLast c, IsStart t patterns base start ∧
      t.find followLast start = .ok x ∧ x.Contains names (.file c) ∧
      path = Tree.pathBelow start names := by
  cases h with
  | @named _ c hp hfile hkept =>
    exact ⟨path, [], _, false, c, .inl ⟨hp, fun hglob => hglob.1 c hfile⟩, hfile, .self _, rfl⟩
  | @inDirectory p entries names c hp hdir hfile hname hkept =>
    exact ⟨p, names, _, false, c, .inl ⟨hp, fun hglob => hglob.2 entries hdir⟩, hdir, hfile, rfl⟩
  | @matching p g entries names c hp hglob hparse hdir hfile hmatch hkept =>
    exact ⟨base, names, _, true, c, .inr ⟨rfl, p, hp, hglob⟩, hdir, hfile, rfl⟩

/-- In a sound tree a selected path leads to a file. Its steps are those of its start, and names. -/
theorem Selects.exists_place {path : Text} (h : f.Selects t patterns base path)
    (ht : t.isSound = true) :
    ∃ (start : Text) (names place : List Text) (c : Content), IsStart t patterns base start ∧
      Path.steps path = Path.steps start ++ names.map .name ∧ t.Denotes path place ∧
      t.Contains place (.file c) := by
  obtain ⟨start, names, x, followLast, c, hstart, hfind, hfile, rfl⟩ := h.exists_start
  obtain ⟨place, -, hdenotes, hcontains⟩ := Tree.exists_denotes_pathBelow ht hfind hfile
  have hsteps := hcontains.steps_pathBelow ht start
  exact ⟨start, names, _, c, hstart, hsteps, hdenotes, hcontains⟩

/-- A path that consists of a given lead and names. -/
def IsSpelledWith (lead : List Path.Step) (p : Text) : Prop :=
  ∃ names : List Text, Path.steps p = lead ++ names.map .name

theorem IsSpelledWith.steps_eq {lead : List Path.Step} (hlead : lead = [] ∨ lead = [.here])
    {p q : Text} (hp : IsSpelledWith lead p) (hq : IsSpelledWith lead q)
    (h : Path.location p = Path.location q) : Path.steps p = Path.steps q := by
  obtain ⟨names, hp⟩ := hp
  obtain ⟨names', hq⟩ := hq
  -- A dot in front leads nowhere, so the names are the place.
  have hlocation : ∀ {p : Text} {names : List Text}, Path.steps p = lead ++ names.map .name →
      Path.location p = some names := by
    intro p names hp
    rw [Path.location, hp]
    rcases hlead with rfl | rfl
    · exact Path.locate_names [] names
    · exact Path.locate_names [] names
  rw [hlocation hp, hlocation hq, Option.some.injEq] at h
  rw [hp, hq, h]

theorem Selects.isSpelledWith {lead : List Path.Step} {path : Text}
    (h : f.Selects t patterns base path) (ht : t.isSound = true)
    (hstarts : ∀ start, IsStart t patterns base start → IsSpelledWith lead start) :
    IsSpelledWith lead path := by
  obtain ⟨start, names, -, -, hstart, hsteps, -⟩ := h.exists_place ht
  obtain ⟨names', hnames'⟩ := hstarts start hstart
  refine ⟨names' ++ names, ?_⟩
  rw [hsteps, hnames', List.map_append, List.append_assoc]

/-- Of paths with the same steps one is found, so only other spellings make a place appear twice. -/
theorem nodup_locations_iff (hbase : t.find true base = .ok (.dir entries))
    (h : f.discover t patterns base = .ok paths) :
    (paths.map Path.location).Nodup ↔
      ∀ p q, f.Selects t patterns base p → f.Selects t patterns base q →
        Path.location p = Path.location q → Path.steps p = Path.steps q := by
  constructor
  · intro hdistinct p q hp hq hlocation
    obtain ⟨p', hp', hpsteps⟩ := exists_mem_discover hbase h hp
    obtain ⟨q', hq', hqsteps⟩ := exists_mem_discover hbase h hq
    have hsame : Path.location p' = Path.location q' := by
      rw [Path.location, Path.location, hpsteps, hqsteps]
      exact hlocation
    rw [← hpsteps, ← hqsteps, List.inj_on_of_nodup_map hdistinct hp' hq' hsame]
  · intro hsteps
    refine List.pairwise_map.mpr ((pairwise_of_discover hbase h).imp_of_mem ?_)
    intro p q hp hq hlt hlocation
    have hsame := hsteps p q (selects_of_mem_discover hbase h hp)
      (selects_of_mem_discover hbase h hq) hlocation
    rw [Path.compare_eq_eq_iff.mpr hsame] at hlt
    cases hlt

/-- In a tree without links every path found leads to a file. No two of them lead to the same file
if and only if every file that is selected twice is selected with the same steps. That is so if no
path that files are spelled from goes up, and either all of them or none begin with a dot. -/
theorem locations_distinct_iff (ht : t.isSound = true) (hlinks : t.isLinkFree = true)
    (hbase : t.find true base = .ok (.dir entries))
    (h : f.discover t patterns base = .ok paths) :
    (∀ p ∈ paths, ∃ place c, Path.location p = some place ∧ t.Denotes p place ∧
      t.Contains place (.file c)) ∧
    ((paths.map Path.location).Nodup ↔
      ∀ p q, f.Selects t patterns base p → f.Selects t patterns base q →
        Path.location p = Path.location q → Path.steps p = Path.steps q) ∧
    ∀ lead, lead = [] ∨ lead = [.here] →
      (∀ start, IsStart t patterns base start → IsSpelledWith lead start) →
      (paths.map Path.location).Nodup := by
  refine ⟨?_, nodup_locations_iff hbase h, ?_⟩
  · intro p hp
    obtain ⟨-, -, place, c, -, -, hdenotes, hcontains⟩ :=
      (selects_of_mem_discover hbase h hp).exists_place ht
    exact ⟨place, c, Path.location_of_denotes hlinks hdenotes, hdenotes, hcontains⟩
  · intro lead hlead hstarts
    rw [nodup_locations_iff hbase h]
    intro p q hp hq
    exact (hp.isSpelledWith ht hstarts).steps_eq hlead (hq.isSpelledWith ht hstarts)

/-- The files that patterns name, and those that their globs match. -/
theorem discover_of_targets {named : List (List Text)} {globs : List Glob}
    (h : f.targets t patterns = .ok (named.map .files ++ globs.map .glob)) :
    f.discover t patterns base = .ok (Path.sort (named.flatten ++
      if globs.isEmpty then []
      else f.filesWhere t base fun names => globs.any (·.accepts (relative names)))) := by
  have hnone : globs.flatMap (fun _ => ([] : List Text)) = [] :=
    List.flatMap_eq_nil_iff.mpr fun _ _ => rfl
  rw [discover, h]
  simp only [List.flatMap_append, List.flatMap_map, List.flatMap_id', hnone, List.filterMap_append,
    List.filterMap_map, Function.comp_def, List.filterMap_some, List.filterMap_none,
    List.nil_append, List.append_nil]

/-- A document beside a directory with another one. -/
def twoReadmes : Tree :=
  .dir [("README.md".toList, .file ⟨[], 1⟩),
    ("a".toList, .dir [("README.md".toList, .file ⟨[], 1⟩)])]

/-- The glob `*.md`. -/
def markdownGlob : Glob :=
  ⟨[.many, .char '.', .char 'm', .char 'd'], true⟩

/-- The glob finds both documents. -/
theorem filesWhere_twoReadmes :
    filesWhere ⟨[], [], "README.md".toList⟩ twoReadmes ".".toList
        (fun names => [markdownGlob].any (·.accepts (relative names))) =
      ["./README.md".toList, "./a/README.md".toList] := by
  decide +kernel

/-- All patterns begin with a dot, as the base does. -/
theorem locations_distinct_twoReadmes :
    let f : Finder := ⟨[], [], "README.md".toList⟩
    let patterns := ["./README.md".toList, "./a".toList, "*.md".toList]
    let paths := ["./README.md".toList, "./a/README.md".toList]
    twoReadmes.isSound = true ∧ twoReadmes.isLinkFree = true ∧
      f.discover twoReadmes patterns ".".toList = .ok paths ∧
      (paths.map Path.location).Nodup := by
  intro f patterns paths
  have ht : twoReadmes.isSound = true := by decide
  have hlinks : twoReadmes.isLinkFree = true := by decide
  have htargets : f.targets twoReadmes patterns =
      .ok ((paths.map fun p => [p]).map .files ++ [markdownGlob].map .glob) := rfl
  have hsort : Path.sort (paths ++ paths) = paths := by cbv
  have hfound : f.discover twoReadmes patterns ".".toList = .ok paths := by
    rw [discover_of_targets htargets, List.isEmpty_cons, if_neg Bool.false_ne_true,
      filesWhere_twoReadmes]
    exact congrArg Except.ok hsort
  refine ⟨ht, hlinks, hfound, ?_⟩
  obtain ⟨-, -, hdistinct⟩ := locations_distinct_iff ht hlinks rfl hfound
  refine hdistinct [.here] (.inr rfl) ?_
  rintro start (⟨hstart, hexists⟩ | ⟨rfl, -⟩)
  · simp only [patterns, List.mem_cons, List.not_mem_nil, or_false] at hstart
    rcases hstart with rfl | rfl | rfl
    · exact ⟨["README.md".toList], by decide⟩
    · exact ⟨["a".toList], by decide⟩
    · have hnone : twoReadmes.find false "*.md".toList = .error .noEntry := rfl
      refine absurd ⟨fun c hfile => ?_, fun below hdir => ?_⟩ hexists
      · rw [hnone] at hfile
        cases hfile
      · rw [hnone] at hdir
        cases hdir
  · exact ⟨[], by decide⟩

/-- A pattern beside a glob that matches the same file, which is spelled from the base. -/
theorem readme_found_twice :
    let f : Finder := ⟨[], [], "README.md".toList⟩
    let paths := ["./README.md".toList, "./a/README.md".toList, "README.md".toList]
    twoReadmes.isSound = true ∧ twoReadmes.isLinkFree = true ∧
      f.discover twoReadmes ["README.md".toList, "*.md".toList] ".".toList = .ok paths ∧
      Path.location "./README.md".toList = some ["README.md".toList] ∧
      Path.location "README.md".toList = some ["README.md".toList] ∧
      ¬(paths.map Path.location).Nodup := by
  intro f paths
  have htargets : f.targets twoReadmes ["README.md".toList, "*.md".toList] =
      .ok ([["README.md".toList]].map .files ++ [markdownGlob].map .glob) := rfl
  have hsort : Path.sort ["README.md".toList, "./README.md".toList, "./a/README.md".toList] =
      paths := by cbv
  have hfound : f.discover twoReadmes ["README.md".toList, "*.md".toList] ".".toList =
      .ok paths := by
    rw [discover_of_targets htargets, List.isEmpty_cons, if_neg Bool.false_ne_true,
      filesWhere_twoReadmes]
    exact congrArg Except.ok hsort
  exact ⟨by decide, by decide, hfound, by decide, by decide, by decide⟩

/-! ## Files that are left out -/

/-- A file that is left out by its path from the base directory is found if and only if a pattern
spells its path otherwise, in a way that is not left out, or names another directory above it, so
that its path from there is not left out. No glob finds it, nor does its own path from the base or
the base directory as a pattern. -/
theorem ignored_found_iff {names : List Text} {c : Content} (ht : (Tree.dir entries).isSound = true)
    (h : f.discover (.dir entries) patterns ['.'] = .ok paths)
    (hfile : (Tree.dir entries).Contains names (.file c))
    (hignored : f.ignores (relative names) = true) :
    (∃ path ∈ paths, (Tree.dir entries).Denotes path names) ↔
      (∃ p ∈ patterns, (∃ c, (Tree.dir entries).find false p = .ok (.file c)) ∧
        (Tree.dir entries).Denotes p names ∧ p ≠ relative names ∧ f.ignores p = false) ∨
      ∃ p ∈ patterns, ∃ below place rest, (Tree.dir entries).find false p = .ok (.dir below) ∧
        (Tree.dir entries).Denotes p place ∧ place ≠ [] ∧ names = place ++ rest ∧
        rest.getLast? = some f.docFileName ∧ f.ignores (relative rest) = false := by
  have hbase : (Tree.dir entries).find true ['.'] = .ok (.dir entries) := rfl
  constructor
  · rintro ⟨path, hpath, hdenotes⟩
    cases selects_of_mem_discover hbase h hpath with
    | @named _ c' hp hfile' hkept =>
      refine .inl ⟨path, hp, ⟨c', hfile'⟩, hdenotes, ?_, hkept⟩
      rintro rfl
      rw [hignored] at hkept
      cases hkept
    | @inDirectory p below rest c' hp hdir hfile' hname hkept =>
      obtain ⟨place, hplace, hdenotes', -⟩ := Tree.exists_denotes_pathBelow ht hdir hfile'
      have hnames := hdenotes.unique hdenotes' ht
      refine .inr ⟨p, hp, below, place, rest, hdir, hplace, ?_, hnames, hname, hkept⟩
      -- From the top of the tree the path is tested that is known to be left out.
      rintro rfl
      rw [List.nil_append] at hnames
      rw [hnames, hkept] at hignored
      cases hignored
    | @matching p g below rest c' hp hglob hparse hdir hfile' hmatch hkept =>
      obtain ⟨place, hplace, hdenotes', -⟩ := Tree.exists_denotes_pathBelow ht hdir hfile'
      -- The base is the top of the tree, so the path from there is the place of the file.
      have htop : place = [] := hplace.unique (.here (.done [])) ht
      have hnames := hdenotes.unique hdenotes' ht
      rw [htop, List.nil_append] at hnames
      rw [hnames, hkept] at hignored
      cases hignored
  · rintro (⟨p, hp, ⟨c', hfile'⟩, hdenotes, -, hkept⟩ |
      ⟨p, hp, below, place, rest, hdir, hplace, -, rfl, hname, hkept⟩)
    · obtain ⟨q, hq, hsteps⟩ := exists_mem_discover hbase h (.named hp hfile' hkept)
      exact ⟨q, hq, hdenotes.congr hsteps⟩
    · have hbelow : (Tree.dir below).Contains rest (.file c) :=
        Tree.contains_of_find ht hdir (Tree.dir_ne_link below) hplace hfile
      obtain ⟨place', hplace', hdenotes, -⟩ := Tree.exists_denotes_pathBelow ht hdir hbelow
      obtain ⟨q, hq, hsteps⟩ :=
        exists_mem_discover hbase h (.inDirectory hp hdir hbelow hname hkept)
      rw [hplace'.unique hplace ht] at hdenotes
      exact ⟨q, hq, hdenotes.congr hsteps⟩

def targetEntries : List (Text × Tree) :=
  [("target".toList, .dir [("README.md".toList, .file ⟨[], 1⟩)])]

theorem targetEntries_contains :
    (Tree.dir targetEntries).Contains ["target".toList, "README.md".toList] (.file ⟨[], 1⟩) :=
  .entry List.mem_cons_self (.entry List.mem_cons_self (.self _))

/-- The finder of a configuration that leaves out everything in `target`. -/
def withoutTarget : Finder :=
  ⟨[], [⟨"target".toList.map .char ++ [.under], true⟩], "README.md".toList⟩

/-- The directory is named, so the path of the document is not looked at. -/
theorem target_targetEntries :
    withoutTarget.target (.dir targetEntries) "target".toList =
      .ok (.files ["target/README.md".toList]) := by
  have hfiles : withoutTarget.docFilesIn (.dir targetEntries) "target".toList =
      ["target/README.md".toList] := by decide +kernel
  exact congrArg (fun ps => Except.ok (Target.files ps)) hfiles

theorem ignored_found_targetEntries :
    let paths := ["target/README.md".toList]
    (Tree.dir targetEntries).isSound = true ∧
      withoutTarget.discover (.dir targetEntries) ["target".toList, "*".toList] ".".toList =
        .ok paths ∧
      ∃ path ∈ paths,
        (Tree.dir targetEntries).Denotes path ["target".toList, "README.md".toList] := by
  intro paths
  have ht : (Tree.dir targetEntries).isSound = true := by decide
  have htargets : withoutTarget.targets (.dir targetEntries) ["target".toList, "*".toList] =
      .ok ([paths].map .files ++ [Glob.mk [.many] true].map .glob) := by
    rw [targets, target_targetEntries]
    rfl
  have hmatched : withoutTarget.filesWhere (.dir targetEntries) ".".toList
      (fun names => [Glob.mk [.many] true].any (·.accepts (relative names))) = [] := by
    decide +kernel
  have hfound : withoutTarget.discover (.dir targetEntries) ["target".toList, "*".toList]
      ".".toList = .ok paths := by
    rw [discover_of_targets htargets, List.isEmpty_cons, if_neg Bool.false_ne_true, hmatched]
    exact congrArg Except.ok (Path.sort_singleton _)
  have hplace : (Tree.dir targetEntries).Denotes "target".toList ["target".toList] :=
    .down (.entry List.mem_cons_self (.self _)) (Tree.dir_ne_link _) (.done _)
  refine ⟨ht, hfound, (ignored_found_iff ht hfound targetEntries_contains (by decide)).mpr ?_⟩
  exact .inr ⟨"target".toList, List.mem_cons_self, _, _, ["README.md".toList], rfl, hplace,
    by decide, rfl, by decide, by decide⟩

/-- A document that is left out by its path from the base, and found through its directory and
under a path that begins with a dot. -/
theorem ignored_readme_found :
    Finder.ofGlobs [] ["target/**".toList] "README.md".toList = .ok withoutTarget ∧
      (Tree.dir targetEntries).Contains ["target".toList, "README.md".toList] (.file ⟨[], 1⟩) ∧
      withoutTarget.ignores (relative ["target".toList, "README.md".toList]) = true ∧
      withoutTarget.discover (.dir targetEntries) ["target".toList] ".".toList =
        .ok ["target/README.md".toList] ∧
      (Tree.dir targetEntries).Denotes "target/README.md".toList
        ["target".toList, "README.md".toList] ∧
      withoutTarget.discover (.dir targetEntries) ["./target/README.md".toList] ".".toList =
        .ok ["./target/README.md".toList] ∧
      (Tree.dir targetEntries).Denotes "./target/README.md".toList
        ["target".toList, "README.md".toList] := by
  have hdenotes : (Tree.dir targetEntries).LeadsTo []
      (["target".toList, "README.md".toList].map .name) ["target".toList, "README.md".toList] :=
    .names targetEntries_contains (Tree.file_ne_link _)
  have hkept : withoutTarget.ignores "./target/README.md".toList = false := by decide
  have hnamed : withoutTarget.target (.dir targetEntries) "./target/README.md".toList =
      .ok (.files ["./target/README.md".toList]) :=
    congrArg (fun i : Bool => Except.ok (Target.files (if i then [] else _))) hkept
  have hfound : ∀ {p path : Text},
      withoutTarget.target (.dir targetEntries) p = .ok (.files [path]) →
      withoutTarget.discover (.dir targetEntries) [p] ".".toList = .ok [path] := by
    intro p path h
    have htargets : withoutTarget.targets (.dir targetEntries) [p] =
        .ok ([[path]].map .files ++ [].map .glob) := by
      rw [targets, h]
      rfl
    rw [discover_of_targets htargets]
    exact congrArg Except.ok (Path.sort_singleton path)
  exact ⟨rfl, targetEntries_contains, by decide, hfound target_targetEntries, hdenotes,
    hfound hnamed, .here hdenotes⟩

end DocLint.Finder
