import DocLint.Proofs.Defaults
import DocLint.Proofs.ExitCode
import DocLint.Proofs.Routes
import DocLint.Proofs.Setup
import DocLint.Proofs.Unseen

/-!
# Checking with a new configuration

A new configuration says what is the default anyway, and its directory is the present one. So a check
finds the same files and reports the same on them after it was written. The one difference that the
file itself can make is that of a manifest which leads to it: before, the manifest was missing.
-/

namespace DocLint

/-! ## Longer texts -/

namespace Json

theorem prettyAll_eq_map (depth : Nat) (xs : List Json) :
    prettyAll depth xs = xs.map (prettyAt depth) := by
  induction xs with
  | nil => rfl
  | cons x xs ih => rw [prettyAll, ih, List.map_cons]

theorem length_joinWith (sep piece : Text) (pieces : List Text) :
    (Text.joinWith sep (piece :: pieces)).length =
      piece.length + (pieces.map fun p => p.length + sep.length).sum := by
  induction pieces generalizing piece with
  | nil => rfl
  | cons next pieces ih =>
    rw [Text.joinWith, List.length_append, List.length_append, ih, List.map_cons, List.sum_cons]
    · omega
    · exact List.cons_ne_nil _ _

/-- Texts that are laid out at the top take up four characters more each, and two for the brackets. -/
theorem length_layOut (opening closing : Char) (parts : List Text) :
    (layOut opening closing 0 parts).length = (parts.map fun p => p.length + 4).sum + 2 := by
  cases parts with
  | nil => rfl
  | cons part parts =>
    have hlines : (newline 1).length = 3 ∧ (newline 0).length = 1 := by decide
    have hsep : (',' :: newline 1).length = 4 := by decide
    unfold layOut
    rw [if_neg (by simp)]
    simp only [List.length_append, length_joinWith, hsep, List.length_singleton, List.map_cons,
      List.sum_cons, hlines]
    omega

end Json

namespace Command

/-- More reports are printed as another text, in every format. -/
theorem print_ne {rs rs' : List Report} (format : Format)
    (h : ∀ w : Report → Nat, (∀ r, 0 < w r) → (rs.map w).sum < (rs'.map w).sum) :
    print format rs ≠ print format rs' := by
  intro heq
  cases format with
  | text =>
    -- The number of reports stands in the last line.
    have hcount := h (fun _ => 1) fun _ => Nat.one_pos
    have hnumbers := (printText_summary rs).2.2
    rw [show printText rs = printText rs' from heq, (printText_summary rs').2.2] at hnumbers
    have hlength : rs'.length = rs.length := (List.cons.inj hnumbers).1
    simp [hlength] at hcount
  | json =>
    have hlength : ∀ rs : List Report, (printJson rs).length =
        (rs.map fun r => ((reportJson r).prettyAt 1).length + 4).sum + 3 := by
      intro rs
      show ((Json.layOut '[' ']' 0 (Json.prettyAll 1 (rs.map reportJson))) ++ ['\n']).length = _
      rw [List.length_append, Json.length_layOut, Json.prettyAll_eq_map, List.map_map, List.map_map]
      rfl
    have hmore := h (fun r => ((reportJson r).prettyAt 1).length + 4) fun r => Nat.succ_pos _
    have hsame := congrArg List.length (show printJson rs = printJson rs' from heq)
    rw [hlength, hlength] at hsame
    omega

end Command

open DocLint.Tree (extended)

namespace Command

variable {entries : List (Text × Tree)} {c : Content}

/-! ## The configuration that is chosen -/

/-- A directory in which a new configuration was written. -/
def configured (entries : List (Text × Tree)) : Tree :=
  extended entries newConfigFile (.ofText newConfigText)

theorem isName_of_mem_configFiles {name : Text} (h : name ∈ configFiles) : Path.IsName name := by
  have hall : ∀ name ∈ configFiles, Path.IsName name := by decide
  exact hall name h

/-- There is no file without an entry for it. -/
theorem isFile_of_absent {t : Tree} {name : Text} (hname : Path.IsName name)
    (h : ∀ x, ¬t.Contains [name] x) : t.isFile (Path.join ['.'] name) = false := by
  unfold Tree.isFile
  split
  · next content hfind =>
    obtain ⟨place, hplace, -⟩ := Tree.exists_denotes_of_find hfind (Tree.file_ne_link content)
    unfold Tree.Denotes at hplace
    rw [Path.steps_join hname, show Path.steps ['.'] = [.here] from rfl] at hplace
    obtain ⟨s, hs⟩ := hplace.of_here.exists_contains
    exact absurd hs (h s)
  · rfl

theorem chooseConfig_of_absent {t : Tree}
    (h : ∀ name ∈ configFiles, ∀ x, ¬t.Contains [name] x) : (chooseConfig t none).2 = .ok {} := by
  have hnone : discoverConfig t ['.'] = none := by
    unfold discoverConfig
    rw [List.find?_eq_none]
    intro path hpath
    obtain ⟨name, hname, rfl⟩ := List.mem_map.mp hpath
    rw [isFile_of_absent (isName_of_mem_configFiles hname) (h name hname)]
    exact Bool.false_ne_true
  unfold chooseConfig
  rw [hnone]

theorem chooseConfig_of_discoverConfig {t : Tree} {path : Text}
    (h : discoverConfig t ['.'] = some path) : (chooseConfig t none).2 = readConfig t path := by
  unfold chooseConfig
  rw [h]

theorem readConfig_eq_ok {t : Tree} {path text : Text} {cfg : Config}
    (htext : t.readText path = .ok text) (hcfg : Config.parse text = .ok cfg) :
    readConfig t path = .ok { cfg with baseDir := Path.parent? path } := by
  unfold readConfig
  rw [htext]
  dsimp only
  rw [hcfg]

theorem parse_newConfigText : Config.parse newConfigText = .ok {} :=
  eq_ok_of_toOption (by decide +kernel)

/-- The file of the new configuration is found from the present directory. -/
theorem find_newConfigFile (h : ∀ x, ¬(Tree.dir entries).Contains [newConfigFile] x) :
    (configured entries).find true (Path.join ['.'] newConfigFile) =
      .ok (.file (.ofText newConfigText)) := by
  have hpieces : Text.splitAt '/' (Path.join ['.'] newConfigFile) = [['.'], newConfigFile] := by
    decide
  have hlookup : (entries ++ [(newConfigFile, Tree.file (.ofText newConfigText))]).lookup
      newConfigFile = some (.file (.ofText newConfigText)) := by
    rw [List.lookup_append, Tree.lookup_eq_none_iff_not_contains.mpr h]
    rfl
  have hname : ¬(newConfigFile.isEmpty || newConfigFile == ['.']) = true ∧
      ¬(newConfigFile == ['.', '.']) = true := by decide
  unfold Tree.find
  rw [if_neg (by decide), hpieces]
  show Tree.walk true (Tree.walkLinks true 39) [] (configured entries) [newConfigFile] = _
  unfold configured extended Tree.walk
  dsimp only
  rw [if_neg hname.1, if_neg hname.2, hlookup]
  rfl

theorem not_contains_extended {name name' : Text} (hne : name' ≠ name)
    (h : ∀ x, ¬(Tree.dir entries).Contains [name'] x) (x : Tree) :
    ¬(extended entries name c).Contains [name'] x := by
  have hhead : [name'].head? ≠ some name := fun heq => hne (Option.some.inj heq)
  rw [show extended entries name c = .dir (entries ++ [(name, .file c)]) from rfl,
    Tree.sameBeside_create [name'] x (List.cons_ne_nil _ _) hhead]
  exact h x

/-- The new configuration is chosen, and it is the default one in the present directory. -/
theorem chooseConfig_configured
    (h : ∀ name ∈ configFiles, ∀ x, ¬(Tree.dir entries).Contains [name] x) :
    (chooseConfig (configured entries) none).2 =
      .ok (Config.inDir {} ['.']) := by
  have hnew := find_newConfigFile (h newConfigFile (by decide))
  have hother : (configured entries).isFile
      (Path.join ['.'] ".readmelint.jsonc".toList) = false :=
    isFile_of_absent (by decide)
      (not_contains_extended (by decide) (h ".readmelint.jsonc".toList (by decide)))
  have hdiscover : discoverConfig (configured entries) ['.'] =
      some (Path.join ['.'] newConfigFile) := by
    have hfile : (configured entries).isFile
        (Path.join ['.'] newConfigFile) = true := by
      unfold Tree.isFile
      rw [hnew]
    unfold discoverConfig configFiles
    rw [List.map_cons, List.map_singleton, List.find?_cons_of_neg (by rw [hother]; decide)]
    exact List.find?_cons_of_pos hfile
  have hread := Tree.readText_of_file hnew (Content.text?_ofText newConfigText)
  have hparent : Path.parent? (Path.join ['.'] newConfigFile) = some ['.'] := by decide
  rw [chooseConfig_of_discoverConfig hdiscover, readConfig_eq_ok hread parse_newConfigText, hparent]
  rfl

/-! ## Checking -/

theorem adjust_inDir (cfg : Config) (dir : Text) (noManifest : Bool) :
    adjust (cfg.inDir dir) noManifest = (adjust cfg noManifest).inDir dir := by
  cases noManifest <;> rfl

/-- No glob for files that have to be packaged by default matches the new configuration. -/
theorem accepts_requiredIncludes (noManifest : Bool) {globs : List Glob}
    (h : Glob.readAll (adjust {} noManifest).manifest.requiredIncludes = .ok globs) :
    ∀ g ∈ globs, g.accepts newConfigFile = false ∧ g.accepts [] = false := by
  have hrequired : (adjust {} noManifest).manifest.requiredIncludes =
      ["ESH-INF/**/*.xml".toList] := by cases noManifest <;> rfl
  have hall : ∀ globs, Glob.readAll ["ESH-INF/**/*.xml".toList] = .ok globs →
      ∀ g ∈ globs, g.accepts newConfigFile = false ∧ g.accepts [] = false :=
    forall_ok_of_toOption (by decide +kernel)
  rw [hrequired] at h
  exact hall globs h

section Lint

variable {patterns paths : List Text} {noManifest : Bool} {l : Linter} {format : Format}
  (ht : (Tree.dir entries).isSound = true)
  (habsent : ∀ name ∈ configFiles, ∀ x, ¬(Tree.dir entries).Contains [name] x)
  (hl : Linter.ofConfig (adjust {} noManifest) = .ok l)

include hl in
theorem baseDir_of_default : l.baseDir = ['.'] := by
  unfold Linter.baseDir
  rw [(Linter.config_of_ofConfig hl).1]
  cases noManifest <;> rfl

include hl in
/-- The same files are found, unless a pattern stands for the new configuration. -/
theorem discover_configured
    (hpatterns : ∀ p ∈ patterns, ¬Finder.Meets (configured entries) [newConfigFile] p) :
    (l.inDir ['.']).discover (configured entries) patterns = l.discover (.dir entries) patterns := by
  have hdoc : newConfigFile ≠ l.finder.docFileName := by
    rw [Linter.docFileName_of_ofConfig hl]
    cases noManifest <;> decide
  have hhere : ¬(configured entries).Denotes ['.'] [newConfigFile] := by
    intro h
    cases (Tree.LeadsTo.of_here h).eq_of_nil
  show l.finder.discover _ patterns ['.'] = l.finder.discover _ patterns l.baseDir
  rw [baseDir_of_default hl]
  exact Finder.discover_extended hdoc hhere hpatterns

include ht habsent hl in
/-- What is found without the new configuration is something else. -/
theorem not_denotes_of_discover {p : Text} (hpaths : l.discover (.dir entries) patterns = .ok paths)
    (hp : p ∈ paths) : ¬(configured entries).Denotes p [newConfigFile] := by
  unfold Linter.discover at hpaths
  rw [baseDir_of_default hl] at hpaths
  have hhere : (Tree.dir entries).find true ['.'] = .ok (.dir entries) := rfl
  obtain ⟨_, _, place, _, -, -, hplace, hx⟩ :=
    (Finder.selects_of_mem_discover hhere hpaths hp).exists_place ht
  have hnew := habsent newConfigFile (by decide)
  exact Tree.not_denotes_file ht (by decide) hnew hplace hx

include ht habsent hl in
/-- A check of the files that were found without the new configuration exits and prints the same with
it, unless it is the manifest of one of them. -/
theorem finishes_configured_iff {o o' : Outcome}
    (hpaths : l.discover (.dir entries) patterns = .ok paths)
    (h : Finishes (.dir entries) l paths format o)
    (h' : Finishes (configured entries) (l.inDir ['.']) paths format o') :
    (o'.exit = o.exit ∧ o'.stdout = o.stdout) ↔
      ∀ p ∈ paths, ¬Linter.UsesAsManifest l.config (configured entries) [newConfigFile] p := by
  have hconfig : l.config = adjust {} noManifest := (Linter.config_of_ofConfig hl).1
  have hnew := habsent newConfigFile (by decide)
  have hsame : ∀ p ∈ paths,
      ¬Linter.UsesAsManifest l.config (configured entries) [newConfigFile] p →
      (l.lintFile (configured entries) p).toOption = (l.lintFile (.dir entries) p).toOption := by
    intro p hp hnot
    refine Linter.toOption_lintFile_extended (fun globs hglobs => ?_)
      (not_denotes_of_discover ht habsent hl hpaths hp) hnot
    rw [hconfig] at hglobs
    exact accepts_requiredIncludes noManifest hglobs
  rw [h.stdout, h'.stdout, Linter.lintFiles_inDir]
  constructor
  · rintro ⟨-, hprint⟩ p hp huses
    -- The file with that manifest is reported only now, and no report is lost.
    have hgains : ∀ q, Linter.UsesAsManifest l.config (configured entries) [newConfigFile] q →
        (∃ e, l.lintFile (.dir entries) q = .error e) ∧
          ∃ reports, l.lintFile (configured entries) q = .ok reports ∧ reports ≠ [] := by
      intro q hq
      rw [hconfig] at hq
      exact Linter.lintFile_of_usesAsManifest hl ht (by decide) hnew hq
    refine print_ne format (fun w hw => Linter.sum_reports_lt hw ?_ ⟨p, hp, hgains p huses⟩)
      hprint.symm
    intro q hq
    by_cases huse : Linter.UsesAsManifest l.config (configured entries) [newConfigFile] q
    · exact .inr (hgains q huse).1
    · exact .inl (hsame q hq huse)
  · intro hnone
    have hall := fun p hp => hsame p hp (hnone p hp)
    have hreports := Linter.reports_eq_of_toOption hall
    refine ⟨h'.exit_eq_of_reports h (Linter.failsOn_congr hall) ?_, by rw [hreports]⟩
    rw [Linter.lintFiles_inDir, hreports]

include ht habsent in
theorem lint_configured_iff
    (hpatterns : ∀ p ∈ patterns, ¬Finder.Meets (configured entries) [newConfigFile] p) :
    let o := lint (.dir entries) none patterns format noManifest
    let o' := lint (configured entries) none patterns format noManifest
    (o'.exit = o.exit ∧ o'.stdout = o.stdout) ↔
      ∀ l paths, Ready (.dir entries) none patterns noManifest l paths →
        ∀ p ∈ paths, ¬Linter.UsesAsManifest l.config (configured entries) [newConfigFile] p := by
  intro o o'
  have hbefore := chooseConfig_of_absent habsent
  have hafter := chooseConfig_configured habsent
  cases hl : Linter.ofConfig (adjust {} noManifest) with
  | error e =>
    have habort : Aborts (.dir entries) none patterns noManifest := .building hbefore hl
    refine iff_of_true ?_ fun l paths hready => absurd habort hready.not_aborts
    simp only [o, o', lint_eq, hbefore, hafter, adjust_inDir, Linter.ofConfig_inDir, hl, Except.map]
    exact ⟨rfl, rfl⟩
  | ok l =>
    have hdiscover := discover_configured hl hpatterns
    simp only [o, o', lint_eq, hbefore, hafter, adjust_inDir, Linter.ofConfig_inDir, hl, Except.map]
    cases hpaths : l.discover (.dir entries) patterns with
    | error e =>
      have habort : Aborts (.dir entries) none patterns noManifest :=
        .discovering hbefore hl hpaths
      refine iff_of_true ?_ fun l paths hready => absurd habort hready.not_aborts
      unfold lintWith
      rw [hdiscover, hpaths]
      exact ⟨rfl, rfl⟩
    | ok paths =>
      rw [finishes_configured_iff ht habsent hl hpaths (finishes_lintWith hpaths _ format)
        (finishes_lintWith (hdiscover.trans hpaths) _ format)]
      have hready : Ready (.dir entries) none patterns noManifest l paths :=
        ⟨_, hbefore, hl, hpaths⟩
      constructor
      · intro h l' paths' hready'
        obtain ⟨rfl, rfl⟩ := hready.unique hready'
        exact h
      · exact fun h => h l paths hready

end Lint

/-! ## The command lines -/

theorem tree_run_init {initArgs : List Text} {force : Bool}
    (hinit : Invocation.parse? initArgs = some (.init force))
    (habsent : ∀ name ∈ configFiles, ∀ x, ¬(Tree.dir entries).Contains [name] x) :
    (run (.dir entries) initArgs).tree = configured entries := by
  unfold run
  rw [hinit]
  show (setUp (.dir entries) force).outcome.tree = _
  rw [setUp_of_absent (habsent newConfigFile (by decide))]
  rfl

/-- Writing a new configuration where there is none leaves the exit code and the output of checking
files as they are, whatever the format, if no pattern stands for the new file: exactly if no
documentation file that is found has it as its manifest, through a link that led nowhere before. -/
theorem lint_after_init_iff {initArgs args patterns : List Text} {force noManifest : Bool}
    {format : Format} (hinit : Invocation.parse? initArgs = some (.init force))
    (hargs : Invocation.parse? args = some (.lint none patterns format noManifest))
    (ht : (Tree.dir entries).isSound = true)
    (habsent : ∀ name ∈ configFiles, ∀ x, ¬(Tree.dir entries).Contains [name] x)
    (hpatterns : ∀ p ∈ patterns,
      ¬Finder.Meets (run (.dir entries) initArgs).tree [newConfigFile] p) :
    let before := Tree.dir entries
    let after := (run before initArgs).tree
    ((run after args).exit = (run before args).exit ∧
      (run after args).stdout = (run before args).stdout) ↔
    ∀ l paths, Ready before none patterns noManifest l paths →
      ∀ p ∈ paths, ¬Linter.UsesAsManifest l.config after [newConfigFile] p := by
  have hafter := tree_run_init hinit habsent
  have hrun : ∀ t, run t args = lint t none patterns format noManifest := by
    intro t
    unfold run
    rw [hargs]
  intro before after
  rw [hafter] at hpatterns
  simp only [after, before, hafter, hrun]
  exact lint_configured_iff ht habsent hpatterns

def bundle : List (Text × Tree) :=
  [("README.md".toList, .file (.ofText "# T\n\ntext\n".toList)),
    ("build.properties".toList, .file (.ofText "bin.includes=META-INF/\n".toList))]

theorem lint_after_init_bundle :
    let before := Tree.dir bundle
    let after := (run before ["init".toList]).tree
    let args := ["lint".toList, "--format=json".toList, "**/*.md".toList, ".".toList]
    (run after args).exit = (run before args).exit ∧
      (run after args).stdout = (run before args).stdout := by
  intro before after args
  have hinit : Invocation.parse? ["init".toList] = some (.init false) := by decide
  have hargs : Invocation.parse? args =
      some (.lint none ["**/*.md".toList, ".".toList] .json false) := by decide +kernel
  have habsent : ∀ name ∈ configFiles, ∀ x, ¬(Tree.dir bundle).Contains [name] x := by
    have hlookup : ∀ name ∈ configFiles, bundle.lookup name = none := by decide
    exact fun name hname => Tree.lookup_eq_none_iff_not_contains.mp (hlookup name hname)
  have hafter : after = configured bundle := tree_run_init hinit habsent
  refine (lint_after_init_iff hinit hargs (by decide) habsent ?_).mpr ?_
  · show ∀ p ∈ _, ¬Finder.Meets after [newConfigFile] p
    rw [hafter]
    intro p hp
    rcases List.mem_pair.mp hp with rfl | rfl
    · rintro (⟨⟨c, hfile⟩, -⟩ | ⟨-, g, hparse, hmatch⟩)
      · cases (show (configured bundle).find false "**/*.md".toList = .error .noEntry from
          rfl).symm.trans hfile
      · have hno : ∀ g, Glob.parse true "**/*.md".toList = .ok g →
            g.accepts newConfigFile = false := forall_ok_of_toOption (by decide +kernel)
        exact Bool.false_ne_true ((hno g hparse).symm.trans hmatch)
    · rintro (⟨⟨c, hfile⟩, -⟩ | ⟨hglob, -⟩)
      · cases hfile
      · exact hglob.2 _ rfl
  · rintro l paths ⟨c, hc, hl, -⟩ p -
    cases (chooseConfig_of_absent habsent).symm.trans hc
    show ¬Linter.UsesAsManifest l.config after [newConfigFile] p
    rw [hafter, (Linter.config_of_ofConfig hl).1]
    exact Linter.not_usesAsManifest_of_isLinkFree (by decide) (by decide) (by decide)

/-- A documentation file beside a link to a configuration that is not there. -/
def linkedManifest : List (Text × Tree) :=
  [("README.md".toList, .file (.ofText "# T\n\ntext\n".toList)),
    ("build.properties".toList, .link newConfigFile)]

theorem absent_linkedManifest :
    ∀ name ∈ configFiles, ∀ x, ¬(Tree.dir linkedManifest).Contains [name] x := by
  have hlookup : ∀ name ∈ configFiles, linkedManifest.lookup name = none := by decide
  exact fun name hname => Tree.lookup_eq_none_iff_not_contains.mp (hlookup name hname)

theorem ready_linkedManifest : ∃ l, l.config = {} ∧
    Ready (.dir linkedManifest) none ["README.md".toList] false l ["README.md".toList] := by
  obtain ⟨p, hl⟩ := Linter.exists_ofConfig_default
  refine ⟨_, rfl, {}, chooseConfig_of_absent absent_linkedManifest, hl, ?_⟩
  show Except.ok (Path.sort ["README.md".toList]) = _
  rw [Path.sort, List.mergeSort_singleton, Path.dropRepeated]
  rintro _ _ _ ⟨⟩

theorem usesAsManifest_linkedManifest :
    Linter.UsesAsManifest {} (configured linkedManifest) [newConfigFile] "README.md".toList := by
  have hread : (configured linkedManifest).find true "README.md".toList =
      .ok (.file (.ofText "# T\n\ntext\n".toList)) := rfl
  have hmanifest : Linter.manifestOf {} "README.md".toList =
      Path.join ['.'] "build.properties".toList := by decide
  have hfind : (configured linkedManifest).find true (Path.join ['.'] "build.properties".toList) =
      .ok (.file (.ofText newConfigText)) := rfl
  refine ⟨?_, by decide, ?_, ?_⟩
  · rintro (hbad | ⟨content, hcontent, hlarge⟩)
    · exact Tree.not_unreadable_of_file hread (Content.text?_ofText _) hbad
    · cases hread.symm.trans hcontent
      revert hlarge
      decide
  · rw [hmanifest]
    have hnew : (configured linkedManifest).LeadsTo [] (Path.steps newConfigFile ++ [])
        [newConfigFile] := by
      rw [show Path.steps newConfigFile ++ [] = [newConfigFile].map .name by decide]
      exact Tree.LeadsTo.names Tree.contains_file_extended (Tree.file_ne_link _)
    have hlink : (configured linkedManifest).Contains ["build.properties".toList]
        (.link newConfigFile) := Tree.contains_name_iff.mpr (by simp [linkedManifest])
    exact .here (.follow hlink hnew)
  · rw [hmanifest]
    exact Tree.not_unreadable_of_file hfind (Content.text?_ofText _)

theorem not_denotes_linkedManifest :
    ¬(configured linkedManifest).Denotes "README.md".toList [newConfigFile] := by
  have hfind : (Tree.dir linkedManifest).find true "README.md".toList =
      .ok (.file (.ofText "# T\n\ntext\n".toList)) := rfl
  obtain ⟨place, hplace, hx⟩ := Tree.exists_denotes_of_find hfind (Tree.file_ne_link _)
  exact Tree.not_denotes_file (by decide) (by decide) (absent_linkedManifest _ (by decide))
    hplace hx

theorem accepts_linkedManifest :
    ∀ g, Glob.parse true "README.md".toList = .ok g → g.accepts newConfigFile = false :=
  forall_ok_of_toOption (by decide +kernel)

theorem not_meets_linkedManifest :
    ∀ p ∈ ["README.md".toList], ¬Finder.Meets (configured linkedManifest) [newConfigFile] p := by
  intro p hp
  rw [List.mem_singleton.mp hp]
  rintro (⟨-, hpath⟩ | ⟨-, g, hparse, hmatch⟩)
  · exact not_denotes_linkedManifest hpath
  · exact Bool.false_ne_true ((accepts_linkedManifest g hparse).symm.trans hmatch)

/-- The output changes if the manifest is a link to the new configuration. -/
theorem lint_after_init_linkedManifest :
    let before := Tree.dir linkedManifest
    let after := (run before ["init".toList]).tree
    let args := ["lint".toList, "README.md".toList]
    Invocation.parse? ["init".toList] = some (.init false) ∧
    Invocation.parse? args = some (.lint none ["README.md".toList] .text false) ∧
    before.isSound = true ∧ (∀ name ∈ configFiles, ∀ x, ¬before.Contains [name] x) ∧
    ¬after.Denotes "README.md".toList [newConfigFile] ∧
    (∀ g, Glob.parse true "README.md".toList = .ok g → g.accepts newConfigFile = false) ∧
    (run before args).exit = 1 ∧
    ¬((run after args).exit = (run before args).exit ∧
      (run after args).stdout = (run before args).stdout) := by
  intro before after args
  have hinit : Invocation.parse? ["init".toList] = some (.init false) := by decide
  have hargs : Invocation.parse? args = some (.lint none ["README.md".toList] .text false) := by
    decide
  have hrun : ∀ t, run t args = lint t none ["README.md".toList] .text false := by
    intro t
    unfold run
    rw [hargs]
  have ht : before.isSound = true := by decide
  have hafter : after = configured linkedManifest := tree_run_init hinit absent_linkedManifest
  have hdenotes : ¬after.Denotes "README.md".toList [newConfigFile] := by
    rw [hafter]
    exact not_denotes_linkedManifest
  obtain ⟨l, hconfig, hready⟩ := ready_linkedManifest
  have huses := usesAsManifest_linkedManifest
  have hmem : "README.md".toList ∈ ["README.md".toList] := List.mem_cons_self
  refine ⟨hinit, hargs, ht, absent_linkedManifest, hdenotes,
    accepts_linkedManifest, ?_, ?_⟩
  · obtain ⟨c, hc, hl, -⟩ := id hready
    cases (chooseConfig_of_absent absent_linkedManifest).symm.trans hc
    have hfails := (Linter.lintFile_of_usesAsManifest hl ht (by decide)
      (absent_linkedManifest newConfigFile (by decide)) huses).1
    rw [hrun]
    exact (hready.finishes .text).exit_eq_one.mpr (.inl ⟨_, hmem, hfails⟩)
  · rw [hrun, hrun, hafter]
    intro hsame
    have hnot := (lint_configured_iff ht absent_linkedManifest not_meets_linkedManifest).mp hsame
      l _ hready _ hmem
    rw [hconfig] at hnot
    exact hnot huses

end Command

end DocLint
