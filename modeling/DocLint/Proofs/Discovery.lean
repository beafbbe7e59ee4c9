import DocLint.Finder
import DocLint.Proofs.Places

/-!
# Which files are found

`Selects` says which paths patterns stand for: a file by its own path, a directory by the
documentation files it holds, and any other pattern by the files below the base directory that match
it. `discover` answers these paths in ascending order, one of each spelling, and fails exactly if a
pattern of the third kind is no glob. So neither the order of patterns nor their repetition matters.
-/

namespace DocLint.Finder

variable {f : Finder} {t : Tree} {patterns : List Text} {base : Text}

/-! ## Selected paths -/

/-- A pattern that is the path of neither a regular file nor a directory. -/
def IsGlob (t : Tree) (pattern : Text) : Prop :=
  (∀ c, t.find false pattern ≠ .ok (.file c)) ∧
    ∀ entries, t.find false pattern ≠ .ok (.dir entries)

/-- The paths of files that patterns stand for. -/
inductive Selects (f : Finder) (t : Tree) (patterns : List Text) (base : Text) : Text → Prop
  | named {p : Text} {c : Content} (hp : p ∈ patterns) (hfile : t.find false p = .ok (.file c))
      (hkept : f.ignores p = false) : Selects f t patterns base p
  | inDirectory {p : Text} {entries : List (Text × Tree)} {names : List Text} {c : Content}
      (hp : p ∈ patterns) (hdir : t.find false p = .ok (.dir entries))
      (hfile : (Tree.dir entries).Contains names (.file c))
      (hname : names.getLast? = some f.docFileName) (hkept : f.ignores (relative names) = false) :
      Selects f t patterns base (Tree.pathBelow p names)
  | matching {p : Text} {g : Glob} {entries : List (Text × Tree)} {names : List Text} {c : Content}
      (hp : p ∈ patterns) (hglob : IsGlob t p) (hparse : Glob.parse true p = .ok g)
      (hdir : t.find true base = .ok (.dir entries))
      (hfile : (Tree.dir entries).Contains names (.file c))
      (hmatch : g.accepts (relative names) = true) (hkept : f.ignores (relative names) = false) :
      Selects f t patterns base (Tree.pathBelow base names)

theorem Selects.mono {patterns' : List Text} {path : Text} (h : f.Selects t patterns base path)
    (hsub : ∀ p ∈ patterns, p ∈ patterns') : f.Selects t patterns' base path := by
  cases h with
  | named hp hfile hkept => exact .named (hsub _ hp) hfile hkept
  | inDirectory hp hdir hfile hname hkept => exact .inDirectory (hsub _ hp) hdir hfile hname hkept
  | matching hp hglob hparse hdir hfile hmatch hkept =>
    exact .matching (hsub _ hp) hglob hparse hdir hfile hmatch hkept

/-! ## Targets -/

theorem mem_filesWhere_iff {followLast : Bool} {start path : Text} {entries : List (Text × Tree)}
    (h : t.find followLast start = .ok (.dir entries)) (p : List Text → Bool) :
    path ∈ f.filesWhere t start p ↔ ∃ names c, (Tree.dir entries).Contains names (.file c) ∧
      p names = true ∧ f.ignores (relative names) = false ∧ Tree.pathBelow start names = path := by
  unfold filesWhere
  simp only [List.mem_map, List.mem_filter, Tree.mem_filesBelow_iff h, Bool.and_eq_true,
    Bool.not_eq_true']
  constructor
  · rintro ⟨names, ⟨⟨c, hfile⟩, hp, hkept⟩, rfl⟩
    exact ⟨names, c, hfile, hp, hkept, rfl⟩
  · rintro ⟨names, c, hfile, hp, hkept, rfl⟩
    exact ⟨names, ⟨⟨c, hfile⟩, hp, hkept⟩, rfl⟩

theorem target_of_file {p : Text} {c : Content} (h : t.find false p = .ok (.file c)) :
    f.target t p = .ok (.files (if f.ignores p then [] else [p])) := by
  rw [target, h]

theorem target_of_dir {p : Text} {entries : List (Text × Tree)}
    (h : t.find false p = .ok (.dir entries)) : f.target t p = .ok (.files (f.docFilesIn t p)) := by
  rw [target, h]

theorem target_of_isGlob {p : Text} (h : IsGlob t p) :
    f.target t p =
      match Glob.parse true p with
      | .ok g => .ok (.glob g)
      | .error e => .error (.invalidPattern p e) := by
  unfold target
  split
  · next c hfind => exact absurd hfind (h.1 c)
  · next entries hfind => exact absurd hfind (h.2 entries)
  · rfl

/-- A pattern is the path of a file or of a directory, or it is read as a glob. -/
theorem file_or_dir_or_isGlob (t : Tree) (p : Text) :
    (∃ c, t.find false p = .ok (.file c)) ∨ (∃ entries, t.find false p = .ok (.dir entries)) ∨
      IsGlob t p := by
  by_cases hfile : ∃ c, t.find false p = .ok (.file c)
  · exact .inl hfile
  · by_cases hdir : ∃ entries, t.find false p = .ok (.dir entries)
    · exact .inr (.inl hdir)
    · exact .inr (.inr ⟨not_exists.mp hfile, not_exists.mp hdir⟩)

theorem target_eq_error_iff {p : Text} :
    (∃ e, f.target t p = .error e) ↔ IsGlob t p ∧ ∃ e, Glob.parse true p = .error e := by
  constructor
  · rintro ⟨e, herror⟩
    rcases file_or_dir_or_isGlob t p with ⟨c, hfile⟩ | ⟨entries, hdir⟩ | hglob
    · rw [target_of_file hfile] at herror
      cases herror
    · rw [target_of_dir hdir] at herror
      cases herror
    · rw [target_of_isGlob hglob] at herror
      refine ⟨hglob, ?_⟩
      split at herror
      · cases herror
      · next e' hparse => exact ⟨e', hparse⟩
  · rintro ⟨hglob, e, hparse⟩
    rw [target_of_isGlob hglob, hparse]
    exact ⟨_, rfl⟩

theorem target_eq_glob_iff {p : Text} {g : Glob} :
    f.target t p = .ok (.glob g) ↔ IsGlob t p ∧ Glob.parse true p = .ok g := by
  constructor
  · intro htarget
    rcases file_or_dir_or_isGlob t p with ⟨c, hfile⟩ | ⟨entries, hdir⟩ | hglob
    · rw [target_of_file hfile] at htarget
      cases htarget
    · rw [target_of_dir hdir] at htarget
      cases htarget
    · rw [target_of_isGlob hglob] at htarget
      refine ⟨hglob, ?_⟩
      split at htarget
      · next hparse =>
        cases htarget
        exact hparse
      · cases htarget
  · rintro ⟨hglob, hparse⟩
    rw [target_of_isGlob hglob, hparse]

/-- The files that a pattern names without a glob are selected. -/
theorem selects_of_target {p path : Text} {paths : List Text} (hp : p ∈ patterns)
    (htarget : f.target t p = .ok (.files paths)) (hpath : path ∈ paths) :
    f.Selects t patterns base path := by
  rcases file_or_dir_or_isGlob t p with ⟨c, hfile⟩ | ⟨entries, hdir⟩ | hglob
  · rw [target_of_file hfile] at htarget
    cases htarget
    split at hpath
    · cases hpath
    · next hkept =>
      rw [List.mem_singleton.mp hpath]
      exact .named hp hfile (Bool.eq_false_iff.mpr hkept)
  · rw [target_of_dir hdir] at htarget
    cases htarget
    obtain ⟨names, c, hfile, hname, hkept, rfl⟩ := (mem_filesWhere_iff hdir _).mp hpath
    exact .inDirectory hp hdir hfile (beq_iff_eq.mp hname) hkept
  · rw [target_of_isGlob hglob] at htarget
    split at htarget
    · cases htarget
    · cases htarget

/-! ## All patterns -/

theorem targets_eq_error_iff {ps : List Text} :
    (∃ e, f.targets t ps = .error e) ↔ ∃ p ∈ ps, ∃ e, f.target t p = .error e := by
  induction ps with
  | nil => simp [targets]
  | cons p ps ih =>
    simp only [List.mem_cons, exists_eq_or_imp, ← ih, targets]
    cases f.target t p with
    | error e => simp
    | ok x => cases f.targets t ps <;> simp

theorem mem_targets_iff {ps : List Text} {xs : List Target} (h : f.targets t ps = .ok xs)
    {x : Target} : x ∈ xs ↔ ∃ p ∈ ps, f.target t p = .ok x := by
  induction ps generalizing xs with
  | nil =>
    cases h
    simp
  | cons p ps ih =>
    rw [targets] at h
    split at h
    · cases h
    · next y hy =>
      split at h
      · cases h
      · next ys hys =>
        cases h
        simp only [List.mem_cons, exists_eq_or_imp, ih hys, hy, Except.ok.injEq]
        exact or_congr_left eq_comm

theorem discover_eq_error_iff :
    (∃ e, f.discover t patterns base = .error e) ↔
      ∃ p ∈ patterns, IsGlob t p ∧ ∃ e, Glob.parse true p = .error e := by
  simp only [← target_eq_error_iff (f := f), ← targets_eq_error_iff]
  unfold discover
  cases f.targets t patterns <;> simp

theorem mem_named_iff {xs : List Target} {path : Text} :
    (path ∈ xs.flatMap fun | .files paths => paths | .glob _ => []) ↔
      ∃ paths, Target.files paths ∈ xs ∧ path ∈ paths := by
  rw [List.mem_flatMap]
  constructor
  · rintro ⟨x, hx, hpath⟩
    cases x with
    | files paths => exact ⟨paths, hx, hpath⟩
    | glob g => cases hpath
  · rintro ⟨paths, hx, hpath⟩
    exact ⟨_, hx, hpath⟩

theorem mem_globs_iff {xs : List Target} {g : Glob} :
    (g ∈ xs.filterMap fun | .files _ => none | .glob g => some g) ↔ Target.glob g ∈ xs := by
  rw [List.mem_filterMap]
  constructor
  · rintro ⟨x, hx, hg⟩
    cases x with
    | files paths => cases hg
    | glob g' =>
      cases hg
      exact hx
  · intro hx
    exact ⟨_, hx, rfl⟩

/-- Below the base directory the files are found that match one of the globs, if there are any. -/
theorem mem_matched_iff {entries : List (Text × Tree)} {globs : List Glob} {path : Text}
    (hbase : t.find true base = .ok (.dir entries)) :
    (path ∈ if globs.isEmpty then []
      else f.filesWhere t base fun names => globs.any (·.accepts (relative names))) ↔
      ∃ g ∈ globs, ∃ names c, (Tree.dir entries).Contains names (.file c) ∧
        g.accepts (relative names) = true ∧ f.ignores (relative names) = false ∧
        Tree.pathBelow base names = path := by
  cases globs with
  | nil => simp
  | cons g globs =>
    rw [if_neg (by simp), mem_filesWhere_iff hbase]
    simp only [List.any_eq_true]
    constructor
    · rintro ⟨names, c, hfile, ⟨g, hg, hmatch⟩, hkept, hpath⟩
      exact ⟨g, hg, names, c, hfile, hmatch, hkept, hpath⟩
    · rintro ⟨g, hg, names, c, hfile, hmatch, hkept, hpath⟩
      exact ⟨names, c, hfile, ⟨g, hg, hmatch⟩, hkept, hpath⟩

/-- The files found are the selected ones, sorted. -/
theorem exists_sort_of_discover {entries : List (Text × Tree)} {paths : List Text}
    (hbase : t.find true base = .ok (.dir entries))
    (h : f.discover t patterns base = .ok paths) :
    ∃ found, paths = Path.sort found ∧ ∀ path, path ∈ found ↔ f.Selects t patterns base path := by
  unfold discover at h
  split at h
  · cases h
  · next xs hxs =>
    cases h
    refine ⟨_, rfl, fun path => ?_⟩
    rw [List.mem_append]
    constructor
    · rintro (hnamed | hmatched)
      · obtain ⟨paths, hx, hpath⟩ := mem_named_iff.mp hnamed
        obtain ⟨p, hp, htarget⟩ := (mem_targets_iff hxs).mp hx
        exact selects_of_target hp htarget hpath
      · obtain ⟨g, hg, names, c, hfile, hmatch, hkept, rfl⟩ := (mem_matched_iff hbase).mp hmatched
        obtain ⟨p, hp, htarget⟩ := (mem_targets_iff hxs).mp (mem_globs_iff.mp hg)
        obtain ⟨hglob, hparse⟩ := target_eq_glob_iff.mp htarget
        exact .matching hp hglob hparse hbase hfile hmatch hkept
    · intro hselects
      cases hselects with
      | named hp hfile hkept =>
        have hx := (mem_targets_iff hxs).mpr ⟨path, hp, target_of_file hfile⟩
        exact .inl (mem_named_iff.mpr ⟨_, hx, by simp [hkept]⟩)
      | inDirectory hp hdir hfile hname hkept =>
        have hx := (mem_targets_iff hxs).mpr ⟨_, hp, target_of_dir hdir⟩
        refine .inl (mem_named_iff.mpr ⟨_, hx, ?_⟩)
        exact (mem_filesWhere_iff hdir _).mpr ⟨_, _, hfile, beq_iff_eq.mpr hname, hkept, rfl⟩
      | matching hp hglob hparse hdir hfile hmatch hkept =>
        cases hbase.symm.trans hdir
        have hx := (mem_targets_iff hxs).mpr ⟨_, hp, target_eq_glob_iff.mpr ⟨hglob, hparse⟩⟩
        refine .inr ((mem_matched_iff hbase).mpr ?_)
        exact ⟨_, mem_globs_iff.mpr hx, _, _, hfile, hmatch, hkept, rfl⟩

/-! ## Discovery -/

section Found

variable {entries : List (Text × Tree)} {paths : List Text}
  (hbase : t.find true base = .ok (.dir entries)) (h : f.discover t patterns base = .ok paths)

include hbase h

theorem pairwise_of_discover : paths.Pairwise fun p q => Path.compare p q = .lt := by
  obtain ⟨found, rfl, -⟩ := exists_sort_of_discover hbase h
  exact Path.pairwise_sort found

theorem selects_of_mem_discover {path : Text} (hpath : path ∈ paths) :
    f.Selects t patterns base path := by
  obtain ⟨found, rfl, hfound⟩ := exists_sort_of_discover hbase h
  exact (hfound path).mp (Path.mem_of_mem_sort hpath)

theorem exists_mem_discover {path : Text} (hpath : f.Selects t patterns base path) :
    ∃ q ∈ paths, Path.steps q = Path.steps path := by
  obtain ⟨found, rfl, hfound⟩ := exists_sort_of_discover hbase h
  exact Path.exists_mem_sort ((hfound path).mpr hpath)

theorem mem_steps_discover_iff {s : List Path.Step} :
    s ∈ paths.map Path.steps ↔ ∃ p, f.Selects t patterns base p ∧ Path.steps p = s := by
  rw [List.mem_map]
  constructor
  · rintro ⟨p, hp, hs⟩
    exact ⟨p, selects_of_mem_discover hbase h hp, hs⟩
  · rintro ⟨p, hp, rfl⟩
    exact exists_mem_discover hbase h hp

end Found

/-- Only the set of patterns matters, for success and for the steps of the paths found. -/
theorem map_steps_discover_eq {entries : List (Text × Tree)} {patterns' : List Text}
    (hbase : t.find true base = .ok (.dir entries)) (hsame : ∀ p, p ∈ patterns' ↔ p ∈ patterns) :
    (f.discover t patterns' base).toOption.map (List.map Path.steps) =
      (f.discover t patterns base).toOption.map (List.map Path.steps) := by
  have hfails : (∃ e, f.discover t patterns' base = .error e) ↔
      ∃ e, f.discover t patterns base = .error e := by
    simp only [discover_eq_error_iff, hsame]
  have hselects : ∀ p, f.Selects t patterns' base p ↔ f.Selects t patterns base p := fun p =>
    ⟨fun hp => hp.mono fun q => (hsame q).mp, fun hp => hp.mono fun q => (hsame q).mpr⟩
  cases h : f.discover t patterns base with
  | error e =>
    obtain ⟨e', h'⟩ := hfails.mpr ⟨e, h⟩
    rw [h']
    rfl
  | ok paths =>
    cases h' : f.discover t patterns' base with
    | error e =>
      obtain ⟨e', herror⟩ := hfails.mp ⟨e, h'⟩
      rw [h] at herror
      cases herror
    | ok paths' =>
      refine congrArg some (Path.map_steps_eq (pairwise_of_discover hbase h')
        (pairwise_of_discover hbase h) fun s => ?_)
      simp only [mem_steps_discover_iff hbase h', mem_steps_discover_iff hbase h, hselects]

/-- Discovery fails if and only if a pattern that is neither a file nor a directory is no glob.
Otherwise it answers selected paths only, in strictly ascending order, and for each selected path
one with the same steps. Patterns in another order, or repeated ones, change none of this. -/
theorem discover_iff_selects {entries : List (Text × Tree)} (f : Finder) (t : Tree)
    (patterns : List Text) (base : Text) (hbase : t.find true base = .ok (.dir entries)) :
    ((∃ e, f.discover t patterns base = .error e) ↔
      ∃ p ∈ patterns, IsGlob t p ∧ ∃ e, Glob.parse true p = .error e) ∧
    ((¬∃ p ∈ patterns, IsGlob t p ∧ ∃ e, Glob.parse true p = .error e) →
      ∃ paths, f.discover t patterns base = .ok paths ∧
        (paths.Pairwise fun p q => Path.compare p q = .lt) ∧
        (∀ p ∈ paths, f.Selects t patterns base p) ∧
        ∀ p, f.Selects t patterns base p → ∃ q ∈ paths, Path.steps q = Path.steps p) ∧
    ∀ patterns', (∀ p, p ∈ patterns' ↔ p ∈ patterns) →
      (f.discover t patterns' base).toOption.map (List.map Path.steps) =
        (f.discover t patterns base).toOption.map (List.map Path.steps) := by
  refine ⟨discover_eq_error_iff, ?_, fun patterns' hsame => map_steps_discover_eq hbase hsame⟩
  intro hvalid
  cases h : f.discover t patterns base with
  | error e => exact absurd (discover_eq_error_iff.mp ⟨e, h⟩) hvalid
  | ok paths =>
    exact ⟨paths, rfl, pairwise_of_discover hbase h, fun p => selects_of_mem_discover hbase h,
      fun p => exists_mem_discover hbase h⟩

/-- The entries of a directory with a document and another file. -/
def bundleEntries : List (Text × Tree) :=
  [("README.md".toList, .file ⟨[], 1⟩), ("x.md".toList, .file ⟨[], 1⟩)]

/-- A directory beside a link to it. -/
def linkedTree : Tree :=
  .dir [("a".toList, .dir bundleEntries), ("b".toList, .link "./a/".toList)]

theorem discover_linkedTree :
    let f : Finder := ⟨[], [], "README.md".toList⟩
    let patterns := ["a//x.md".toList, "*.md".toList, "a/".toList]
    linkedTree.find true "b".toList = .ok (.dir bundleEntries) ∧
      (¬∃ p ∈ patterns, IsGlob linkedTree p ∧ ∃ e, Glob.parse true p = .error e) ∧
      ∃ paths, f.discover linkedTree patterns "b".toList = .ok paths ∧
        (paths.Pairwise fun p q => Path.compare p q = .lt) ∧
        (∀ p ∈ paths, f.Selects linkedTree patterns "b".toList p) ∧
        (f.discover linkedTree (patterns.reverse ++ patterns) "b".toList).toOption.map
          (List.map Path.steps) = some (paths.map Path.steps) := by
  intro f patterns
  have hbase : linkedTree.find true "b".toList = .ok (.dir bundleEntries) := rfl
  have hvalid : ¬∃ p ∈ patterns, IsGlob linkedTree p ∧ ∃ e, Glob.parse true p = .error e := by
    have hparse : ∀ p ∈ patterns, (Glob.parse true p).toBool = true := by decide
    rintro ⟨p, hp, -, e, herror⟩
    have htrue := hparse p hp
    rw [herror] at htrue
    cases htrue
  obtain ⟨-, hfound, hsame⟩ := discover_iff_selects f linkedTree patterns "b".toList hbase
  obtain ⟨paths, hpaths, hsorted, hselects, -⟩ := hfound hvalid
  refine ⟨hbase, hvalid, paths, hpaths, hsorted, hselects, ?_⟩
  rw [hsame (patterns.reverse ++ patterns) fun p => by simp, hpaths]
  rfl

end DocLint.Finder
