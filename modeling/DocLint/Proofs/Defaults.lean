import DocLint.Proofs.Failures

/-!
# The default configuration

The default configuration can be used: its one pattern for headers, which is a set of characters
repeated from the beginning to the end, is read, and so are its globs. Its directory decides only on
where files are looked for.
-/

namespace DocLint

/-! ## The pattern for headers -/

namespace Pattern

section

variable {fuel : Nat} {names : List Text} {done : List Pattern} {parts : Parts} {p : Pattern}
  {s : CharSet} {t rest : Text}

theorem branches_nil :
    branches (fuel + 1) {} names done parts [] =
      some (alternatives (parts.join :: done), names, []) := by
  rw [branches]
  rfl

theorem branches_caret :
    branches (fuel + 1) {} names done parts ('^' :: t) =
      branches fuel {} names done (some (.place .textStart) :: parts) t := by
  rw [branches]
  rfl

theorem branches_dollar :
    branches (fuel + 1) {} names done parts ('$' :: t) =
      branches fuel {} names done (some (.place .textEnd) :: parts) t := by
  rw [branches]
  rfl

theorem branches_set (h : set? {} t = some (s, rest)) :
    branches (fuel + 1) {} names done parts ('[' :: t) =
      branches fuel {} names done (some (.one s) :: parts) rest := by
  have hskip : Flags.skip {} ('[' :: t) = '[' :: t := rfl
  rw [branches, hskip]
  simp only [h]

theorem branches_star :
    branches (fuel + 1) {} names done (some p :: parts) ('*' :: t) =
      branches fuel {} names done (some (.times p 0 none) :: parts) (dropLazyMark t) := by
  rw [branches]
  show branches.again fuel (some (some (.times p 0 none) :: parts)) {} names done _ = _
  rw [branches.again]

/-- The pattern of texts that consist of characters of a set. -/
theorem parse?_of_set {n : Nat} (hlength : t.length = n + 3)
    (h : set? {} t = some (s, "*$".toList)) :
    parse? ('^' :: '[' :: t) = some (.seq (.place .textStart)
      (.seq (.times (.one s) 0 none) (.seq (.place .textEnd) .empty))) := by
  have hbranches : branches (n + 6) {} [] [] [] ('^' :: '[' :: t) =
      some (.seq (.place .textStart) (.seq (.times (.one s) 0 none) (.seq (.place .textEnd) .empty)),
        [], []) := by
    rw [branches_caret, branches_set h]
    show branches (n + 4) {} [] [] _ ['*', '$'] = _
    rw [branches_star]
    show branches (n + 3) {} [] [] _ ['$'] = _
    rw [branches_dollar, branches_nil]
    rfl
  unfold parse?
  rw [List.length_cons, List.length_cons, hlength, hbranches]

end

end Pattern

/-! ## The linter -/

/-- The configuration as if it was read from a file in a directory. -/
def Config.inDir (c : Config) (dir : Text) : Config :=
  { c with baseDir := some dir }

namespace Linter

/-- The linter with the same patterns and globs, for a directory. -/
def inDir (l : Linter) (dir : Text) : Linter :=
  { l with config := l.config.inDir dir }

theorem ofConfig_inDir (c : Config) (dir : Text) :
    ofConfig (c.inDir dir) = (ofConfig c).map (inDir · dir) :=
  ofConfig_of_same (f := (Config.inDir · dir)) rfl rfl rfl rfl rfl

/-- Files are checked alike for every directory. -/
theorem lintFiles_inDir (l : Linter) (dir : Text) (t : Tree) (paths : List Text) :
    (l.inDir dir).lintFiles t paths = l.lintFiles t paths := by
  induction paths with
  | nil => rfl
  | cons p ps ih =>
    rw [lintFiles, lintFiles, ih]
    rfl

theorem docFileName_of_ofConfig {c : Config} {l : Linter} (h : ofConfig c = .ok l) :
    l.finder.docFileName = c.docFileName := by
  unfold ofConfig Finder.ofGlobs at h
  split at h
  · cases h
  · split at h
    · cases h
    · next hfinder =>
      split at h
      · cases h
      · cases h
        split at hfinder
        · cases hfinder
        · split at hfinder
          · cases hfinder
          · cases hfinder
            rfl

/-- The default configuration can be used. -/
theorem exists_ofConfig_default :
    ∃ p, ofConfig {} = .ok ⟨{}, [p], ⟨[], [], "README.md".toList⟩⟩ := by
  have hset : (Pattern.set? {} "^\\p\x7bL\x7d\\p\x7bN\x7d]*$".toList).map Prod.snd =
      some "*$".toList := by decide +kernel
  obtain ⟨⟨s, rest⟩, hs, rfl⟩ := Option.map_eq_some_iff.mp hset
  obtain ⟨p, hparse⟩ : ∃ p, Pattern.parse? "^[^\\p\x7bL\x7d\\p\x7bN\x7d]*$".toList = some p :=
    ⟨_, Pattern.parse?_of_set (n := 11) (by decide) hs⟩
  have hexceptions : Pattern.parseAll ({} : Config).headerExceptions = .ok [p] := by
    rw [show ({} : Config).headerExceptions = ["^[^\\p\x7bL\x7d\\p\x7bN\x7d]*$".toList] from rfl,
      Pattern.parseAll, hparse]
    rfl
  refine ⟨p, ?_⟩
  unfold ofConfig
  rw [hexceptions]
  rfl

end Linter

end DocLint
