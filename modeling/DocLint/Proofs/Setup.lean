import DocLint.Command.Run
import DocLint.Proofs.TopFiles

/-!
# Writing a new configuration

The file of a new configuration is created only where nothing is. If something is in the way, this is
an error, unless it is a file or a link that may be removed; then creating the file is tried once
more, and succeeds. So the command either writes the file, or fails and leaves the tree as it was; and
it leaves everything else in the tree as it was in any case.
-/

namespace DocLint.Command

open DocLint.Tree

variable {t t' x : Tree} {entries : List (Text × Tree)} {force : Bool}

def newConfig : Tree :=
  .file (.ofText newConfigText)

/-! ## One attempt -/

theorem attempt_of_absent (h : ∀ x, ¬(Tree.dir entries).Contains [newConfigFile] x) :
    attempt (.dir entries) force = .created (.dir (entries ++ [(newConfigFile, newConfig)])) := by
  unfold attempt
  rw [create_of_absent h]
  rfl

theorem attempt_of_present (h : (Tree.dir entries).Contains [newConfigFile] x) :
    attempt (.dir entries) false =
      .failed "Config file already exists. Use --force to overwrite.".toList := by
  unfold attempt
  rw [create_of_present h]
  rfl

theorem attempt_of_dir {below : List (Text × Tree)} (ht : (Tree.dir entries).isSound = true)
    (h : (Tree.dir entries).Contains [newConfigFile] (.dir below)) :
    attempt (.dir entries) true = .failed Failure.isDirectory.message := by
  unfold attempt
  rw [create_of_present h, unlink_of_dir ht h]
  rfl

theorem attempt_of_not_dir (ht : (Tree.dir entries).isSound = true)
    (h : (Tree.dir entries).Contains [newConfigFile] x) (hx : ∀ below, x ≠ .dir below) :
    attempt (.dir entries) true =
      .cleared (.dir (entries.filter fun e => e.1 != newConfigFile)) := by
  unfold attempt
  rw [create_of_present h, unlink_of_not_dir ht h hx]
  rfl

/-! ## All attempts -/

theorem setUp_of_created (h : attempt t force = .created t') :
    setUp t force = ⟨written t', 1⟩ := by
  rw [setUp]
  split
  · next h' =>
    cases h.symm.trans h'
    rfl
  · next h' => cases h.symm.trans h'
  · next h' => cases h.symm.trans h'

theorem setUp_of_failed {reason : Text} (h : attempt t force = .failed reason) :
    setUp t force = ⟨fail t [] reason, 1⟩ := by
  rw [setUp]
  split
  · next h' => cases h.symm.trans h'
  · next h' => cases h.symm.trans h'
  · next h' =>
    cases h.symm.trans h'
    rfl

theorem setUp_of_cleared (h : attempt t force = .cleared t') :
    setUp t force = { setUp t' force with attempts := (setUp t' force).attempts + 1 } := by
  rw [setUp]
  split
  · next h' => cases h.symm.trans h'
  · next h' =>
    cases h.symm.trans h'
    rfl
  · next h' => cases h.symm.trans h'

theorem setUp_of_absent (h : ∀ x, ¬(Tree.dir entries).Contains [newConfigFile] x) :
    setUp (.dir entries) force =
      ⟨written (.dir (entries ++ [(newConfigFile, newConfig)])), 1⟩ :=
  setUp_of_created (attempt_of_absent h)

/-- Something is in the way that must not be removed, or cannot be. -/
def Refuses (t : Tree) (force : Bool) : Prop :=
  ∃ x, t.Contains [newConfigFile] x ∧ (force = false ∨ ∃ below, x = .dir below)

theorem setUp_of_refuses (ht : (Tree.dir entries).isSound = true)
    (h : Refuses (.dir entries) force) :
    ∃ reason, setUp (.dir entries) force = ⟨fail (.dir entries) [] reason, 1⟩ := by
  obtain ⟨x, hx, hstays⟩ := h
  cases force with
  | false => exact ⟨_, setUp_of_failed (attempt_of_present hx)⟩
  | true =>
    obtain ⟨below, rfl⟩ := hstays.resolve_left nofun
    exact ⟨_, setUp_of_failed (attempt_of_dir ht hx)⟩

/-- If nothing is in the way, or once it is removed, the file is created in a directory that holds
everything else as before. -/
theorem setUp_of_not_refuses (ht : (Tree.dir entries).isSound = true)
    (h : ¬Refuses (.dir entries) force) :
    ∃ kept attempts, setUp (.dir entries) force =
        ⟨written (.dir (kept ++ [(newConfigFile, newConfig)])), attempts⟩ ∧ attempts ≤ 2 ∧
      (Tree.dir kept).isSound = true ∧ (∀ x, ¬(Tree.dir kept).Contains [newConfigFile] x) ∧
      SameBeside newConfigFile (.dir entries) (.dir kept) := by
  by_cases hentry : ∃ x, (Tree.dir entries).Contains [newConfigFile] x
  · obtain ⟨x, hx⟩ := hentry
    have hdir : ∀ below, x ≠ .dir below := fun below heq => h ⟨x, hx, .inr ⟨below, heq⟩⟩
    obtain rfl : force = true := by
      rw [← Bool.not_eq_false]
      exact fun hforce => h ⟨x, hx, .inl hforce⟩
    refine ⟨_, 2, ?_, Nat.le_refl 2, isSound_unlink ht, not_contains_unlink, sameBeside_unlink⟩
    rw [setUp_of_cleared (attempt_of_not_dir ht hx hdir), setUp_of_absent not_contains_unlink]
  · rw [not_exists] at hentry
    exact ⟨entries, 1, setUp_of_absent hentry, by decide, ht, hentry, .refl _ _⟩

/-! ## Everything else -/

/-- The trees `t` and `t'` hold the same at all places below the top but that of the new
configuration. -/
def SameElsewhere (t t' : Tree) : Prop :=
  ∀ names x, names ≠ [] → names ≠ [newConfigFile] → (t'.Contains names x ↔ t.Contains names x)

theorem sameElsewhere_written {kept : List (Text × Tree)}
    (h : ¬∃ below, (Tree.dir entries).Contains [newConfigFile] (.dir below))
    (hkept : ∀ x, ¬(Tree.dir kept).Contains [newConfigFile] x)
    (hsame : SameBeside newConfigFile (.dir entries) (.dir kept)) :
    SameElsewhere (.dir entries) (.dir (kept ++ [(newConfigFile, newConfig)])) := by
  intro names x hne hplace
  by_cases hhead : names.head? = some newConfigFile
  · obtain ⟨rest, rfl⟩ := List.head?_eq_some_iff.mp hhead
    have hrest : rest ≠ [] := fun heq => hplace (heq ▸ rfl)
    -- Below the file there is nothing, and neither was there before.
    refine iff_of_false (fun hx => hrest ((contains_create_iff hkept).mp hx).1) fun hx => ?_
    rw [← List.singleton_append] at hx
    obtain ⟨s, hs, hx⟩ := hx.exists_between
    cases hx with
    | self => exact hrest rfl
    | entry => exact h ⟨_, hs⟩
  · exact (hsame.trans sameBeside_create) names x hne hhead

/-- The target of a link is at another place than the link. -/
theorem SameElsewhere.contains_target {goal : List Text} {target : Text} {c : Content}
    (h : SameElsewhere (.dir entries) t') (ht : (Tree.dir entries).isSound = true)
    (hlink : (Tree.dir entries).Contains [newConfigFile] (.link target))
    (hfile : (Tree.dir entries).Contains goal (.file c)) : t'.Contains goal (.file c) := by
  refine (h goal _ ?_ ?_).mpr hfile
  · rintro rfl
    cases hfile
  · rintro rfl
    cases hlink.unique hfile ht

/-! ## The command line -/

theorem outcome_of_refuses (ht : (Tree.dir entries).isSound = true)
    (h : Refuses (.dir entries) force) :
    (setUp (.dir entries) force).outcome.exit = 2 ∧
      (setUp (.dir entries) force).outcome.tree = .dir entries ∧
      (setUp (.dir entries) force).attempts ≤ 2 := by
  obtain ⟨reason, hsetUp⟩ := setUp_of_refuses ht h
  rw [hsetUp]
  exact ⟨rfl, rfl, Nat.le_succ 1⟩

theorem outcome_of_not_refuses (ht : (Tree.dir entries).isSound = true)
    (h : ¬Refuses (.dir entries) force) :
    (setUp (.dir entries) force).outcome.exit = 0 ∧
      (∀ x, (setUp (.dir entries) force).outcome.tree.Contains [newConfigFile] x ↔ x = newConfig) ∧
      SameElsewhere (.dir entries) (setUp (.dir entries) force).outcome.tree ∧
      (setUp (.dir entries) force).outcome.tree.isSound = true ∧
      (setUp (.dir entries) force).attempts ≤ 2 := by
  obtain ⟨kept, attempts, hsetUp, hattempts, hsound, hkept, hbeside⟩ := setUp_of_not_refuses ht h
  have hdir : ¬∃ below, (Tree.dir entries).Contains [newConfigFile] (.dir below) := by
    rintro ⟨below, hbelow⟩
    exact h ⟨_, hbelow, .inr ⟨below, rfl⟩⟩
  rw [hsetUp]
  exact ⟨rfl, fun x => (contains_create_iff hkept).trans (and_iff_right rfl),
    sameElsewhere_written hdir hkept hbeside, isSound_create hsound (by decide) hkept, hattempts⟩

/-- Writing a new configuration is all or nothing. Without `force` anything that has the name of the
file, be it a link that leads nowhere, makes the command fail with the tree unchanged, and so does a
directory with `force`. A file or a link is replaced with `force`, and if there is nothing the file is
created; it then holds the default text. All other places of the tree hold the same as before in any
case, among them the target of a link. Creating the file is tried at most twice. -/
theorem init_is_atomic {args : List Text} (hargs : Invocation.parse? args = some (.init force))
    (ht : (Tree.dir entries).isSound = true) :
    let t := Tree.dir entries
    let o := run t args
    let place := [newConfigFile]
    let succeeds := o.exit = 0 ∧ ∀ x, o.tree.Contains place x ↔ x = .file (.ofText newConfigText)
    (force = false → (∃ x, t.Contains place x) → o.exit = 2 ∧ o.tree = t) ∧
    (force = true → (∃ below, t.Contains place (.dir below)) → o.exit = 2 ∧ o.tree = t) ∧
    (force = true → (∃ x, t.Contains place x ∧ ∀ below, x ≠ .dir below) → succeeds) ∧
    ((∀ x, ¬t.Contains place x) → succeeds) ∧
    (∀ names x, names ≠ [] → names ≠ place → (o.tree.Contains names x ↔ t.Contains names x)) ∧
    (∀ target goal c, t.Contains place (.link target) → t.Denotes newConfigFile goal →
      t.Contains goal (.file c) → o.tree.Contains goal (.file c)) ∧
    o.tree.isSound = true ∧ o = (setUp t force).outcome ∧ (setUp t force).attempts ≤ 2 := by
  intro t o place succeeds
  have ho : o = (setUp t force).outcome := by
    simp only [o, run, hargs, init]
  by_cases hrefuses : Refuses t force
  · -- The tree stays as it is, and there is no case in which the file should be written.
    obtain ⟨hexit, htree, hattempts⟩ := outcome_of_refuses ht hrefuses
    rw [← ho] at hexit htree
    obtain ⟨x, hx, hstays⟩ := hrefuses
    refine ⟨fun _ _ => ⟨hexit, htree⟩, fun _ _ => ⟨hexit, htree⟩, ?_,
      fun hnone => absurd hx (hnone x), ?_, ?_, ?_, ho, hattempts⟩
    · rintro hforce ⟨y, hy, hnot⟩
      obtain ⟨below, rfl⟩ := hstays.resolve_left (by rw [hforce]; nofun)
      exact absurd (hy.unique hx ht) (hnot below)
    · exact fun names x _ _ => by rw [htree]
    · intro target goal c _ _ hfile
      rw [htree]
      exact hfile
    · rw [htree]
      exact ht
  · obtain ⟨hexit, hfile, hsame, hsound, hattempts⟩ := outcome_of_not_refuses ht hrefuses
    rw [← ho] at hexit hfile hsame hsound
    refine ⟨?_, ?_, fun _ _ => ⟨hexit, hfile⟩, fun _ => ⟨hexit, hfile⟩, hsame, ?_, hsound, ho,
      hattempts⟩
    · rintro hforce ⟨x, hx⟩
      exact absurd ⟨x, hx, .inl hforce⟩ hrefuses
    · rintro - ⟨below, hbelow⟩
      exact absurd ⟨_, hbelow, .inr ⟨below, rfl⟩⟩ hrefuses
    · exact fun target goal c hlink _ hfile => hsame.contains_target ht hlink hfile

/-- A link with the name of the configuration that leads to a file in a directory, where there is
another file of that name. -/
def linkedConfig : Tree :=
  .dir [(newConfigFile, .link "etc/lint".toList),
    ("etc".toList, .dir [("lint".toList, .file (.ofText "\x7b\x7d".toList)),
      (newConfigFile, .file (.ofText []))])]

theorem init_is_atomic_linkedConfig :
    let kept := run linkedConfig ["init".toList]
    let replaced := run linkedConfig ["-v".toList, "init".toList, "--force".toList]
    kept.exit = 2 ∧ kept.tree = linkedConfig ∧ replaced.exit = 0 ∧
      replaced.tree.Contains [newConfigFile] (.file (.ofText newConfigText)) ∧
      replaced.tree.Contains ["etc".toList, "lint".toList] (.file (.ofText "\x7b\x7d".toList)) ∧
      (setUp linkedConfig true).attempts ≤ 2 := by
  intro kept replaced
  have ht : linkedConfig.isSound = true := by decide
  have hlink : linkedConfig.Contains [newConfigFile] (.link "etc/lint".toList) :=
    .entry List.mem_cons_self (.self _)
  have hfile : linkedConfig.Contains ["etc".toList, "lint".toList]
      (.file (.ofText "\x7b\x7d".toList)) :=
    .entry (List.mem_cons_of_mem _ List.mem_cons_self) (.entry List.mem_cons_self (.self _))
  have hgoal : linkedConfig.Denotes newConfigFile ["etc".toList, "lint".toList] := by
    have hsteps : Path.steps "etc/lint".toList ++ [] =
        ["etc".toList, "lint".toList].map .name := by decide
    have htarget : linkedConfig.LeadsTo [] (Path.steps "etc/lint".toList ++ [])
        ["etc".toList, "lint".toList] := by
      rw [hsteps]
      exact LeadsTo.names hfile nofun
    exact .follow hlink htarget
  have hkept : Invocation.parse? ["init".toList] = some (.init false) := by decide
  have hreplaced : Invocation.parse? ["-v".toList, "init".toList, "--force".toList] =
      some (.init true) := by decide +kernel
  obtain ⟨hstays, -⟩ := init_is_atomic hkept ht
  obtain ⟨-, -, hforced, -, -, htarget, -, -, hattempts⟩ := init_is_atomic hreplaced ht
  obtain ⟨hexit, htree⟩ := hstays rfl ⟨_, hlink⟩
  obtain ⟨hexit', hwritten⟩ := hforced rfl ⟨_, hlink, nofun⟩
  exact ⟨hexit, htree, hexit', (hwritten _).mpr rfl, htarget _ _ _ hlink hgoal hfile, hattempts⟩

end DocLint.Command
