import DocLint.Proofs.Failures
import DocLint.Proofs.TopFiles

/-!
# One more file at the top of a tree

A path leads to the same in a tree and in the tree with one more file at its top, unless it leads
to that file: then it led nowhere without it. `Beside` relates the walks through both trees, which
stand at the same place all the time and part only where the new file is looked up.
-/

namespace DocLint.Tree

/-- A directory with one more file. -/
def extended (entries : List (Text × Tree)) (name : Text) (c : Content) : Tree :=
  .dir (entries ++ [(name, .file c)])

variable {entries es : List (Text × Tree)} {name : Text} {c : Content} {x : Tree}
  {place goal names : List Text} {path start : Text}

/-! ## Places that were there before -/

theorem Contains.extended (h : (Tree.dir entries).Contains names x) (hne : names ≠ []) :
    (extended entries name c).Contains names x := by
  cases h with
  | self => exact absurd rfl hne
  | entry hentry h => exact .entry (List.mem_append_left _ hentry) h

theorem contains_file_extended : (extended entries name c).Contains [name] (.file c) :=
  contains_name_iff.mpr (List.mem_append_right _ List.mem_cons_self)

/-- Steps lead to the place they led to before. -/
theorem LeadsTo.extended {ss : List Path.Step} (h : (Tree.dir entries).LeadsTo place ss goal) :
    (extended entries name c).LeadsTo place ss goal := by
  have hne : ∀ (place : List Text) (n : Text), place ++ [n] ≠ [] := by simp
  induction h with
  | done => exact .done _
  | here _ ih => exact .here ih
  | up hdir _ ih => exact .up (hdir.extended (hne _ _)) ih
  | down hs hlink _ ih => exact .down (hs.extended (hne _ _)) hlink ih
  | follow hlink _ ih => exact .follow (hlink.extended (hne _ _)) ih

section Absent

variable (ht : (Tree.dir entries).isSound = true) (hname : Path.IsName name)
  (habsent : ∀ x, ¬(Tree.dir entries).Contains [name] x)

include ht hname habsent

theorem isSound_extended : (extended entries name c).isSound = true :=
  isSound_create ht hname habsent

/-- A path to something that was there does not lead to the new file. -/
theorem not_denotes_file (hplace : (Tree.dir entries).Denotes path place)
    (hx : (Tree.dir entries).Contains place x) : ¬(extended entries name c).Denotes path [name] := by
  intro hnew
  have hsame := hnew.unique (LeadsTo.extended hplace) (isSound_extended ht hname habsent)
  rw [← hsame] at hx
  exact habsent x hx

end Absent

/-! ## Two walks side by side -/

variable (entries name c) in
/-- Two walks stand at one place: `here` in the tree without the file, `here'` in the other one, both
in the directories above them. -/
inductive Beside : (place : List Text) → (above : List Tree) → (here : Tree) →
    (above' : List Tree) → (here' : Tree) → Prop
  | top : Beside [] [] (.dir entries) [] (extended entries name c)
  | entry {place : List Text} {above above' : List Tree} {es es' : List (Text × Tree)} {n : Text}
      {s : Tree} (h : Beside place above (.dir es) above' (.dir es')) (hentry : (n, s) ∈ es)
      (hentry' : (n, s) ∈ es') : Beside (place ++ [n]) (.dir es :: above) s (.dir es' :: above') s

section Beside

variable {above above' : List Tree} {here here' : Tree}

theorem Beside.contains (h : Beside entries name c place above here above' here') :
    (extended entries name c).Contains place here' := by
  induction h with
  | top => exact .self _
  | entry _ _ hentry' ih => exact ih.concat hentry'

/-- In both directories a name leads to the same, unless it is that of the new file. -/
theorem Beside.lookup (h : Beside entries name c place above (.dir es) above' here') :
    ∃ es', here' = .dir es' ∧ ∀ n, es'.lookup n = es.lookup n ∨
      (place = [] ∧ n = name ∧ es.lookup n = none ∧ es'.lookup n = some (.file c)) := by
  cases h with
  | entry => exact ⟨es, rfl, fun n => .inl rfl⟩
  | top =>
    refine ⟨_, rfl, fun n => ?_⟩
    rw [List.lookup_append]
    cases hn : entries.lookup n with
    | some s => exact .inl rfl
    | none =>
      by_cases heq : n = name
      · subst heq
        exact .inr ⟨rfl, rfl, rfl, by simp⟩
      · have hne : (n == name) = false := beq_eq_false_iff_ne.mpr heq
        exact .inl (by rw [List.lookup_cons, hne]; rfl)

end Beside

variable (entries name c) in
/-- What is found in the tree without the file, and what in the other one. `Reaches` says when it is
the new file. -/
inductive Alike (Reaches : Prop) : Except Failure Tree → Except Failure Tree → Prop
  | same (x : Tree) : Alike Reaches (.ok x) (.ok x)
  | top : Alike Reaches (.ok (.dir entries)) (.ok (extended entries name c))
  | nowhere (e e' : Failure) : Alike Reaches (.error e) (.error e')
  | new (e : Failure) (h : Reaches) : Alike Reaches (.error e) (.ok (.file c))

theorem Alike.imp {P Q : Prop} {r r' : Except Failure Tree} (h : Alike entries name c P r r')
    (hpq : P → Q) : Alike entries name c Q r r' := by
  cases h with
  | same x => exact .same x
  | top => exact .top
  | nowhere e e' => exact .nowhere e e'
  | new e h => exact .new e (hpq h)

variable (entries name c) in
/-- Two ways of following pieces find alike things from one place on. -/
def InStep (go go' : List Tree → Tree → List Text → Except Failure Tree) : Prop :=
  ∀ {place : List Text} {above above' : List Tree} {here here' : Tree} {pieces : List Text},
    Beside entries name c place above here above' here' →
    Alike entries name c ((extended entries name c).LeadsTo place (Path.moves pieces) [name])
      (go above here pieces) (go' above' here' pieces)

theorem inStep_walk {followLast : Bool}
    {onLink onLink' : List Tree → Tree → List Text → Except Failure Tree}
    (honLink : InStep entries name c onLink onLink') :
    InStep entries name c (walk followLast onLink) (walk followLast onLink') := by
  intro place above above' here here' pieces hbeside
  -- The cases are those of `walk`, taken by both walks together.
  induction pieces generalizing place above above' here here' with
  | nil =>
    cases hbeside with
    | top => exact .top
    | entry => exact .same _
  | cons piece more ih =>
    cases here with
    | file =>
      cases hbeside
      exact .nowhere _ _
    | link =>
      cases hbeside
      exact .nowhere _ _
    | dir es =>
      obtain ⟨es', rfl, hlookup⟩ := hbeside.lookup
      rw [Path.moves_cons]
      unfold walk
      dsimp only
      by_cases hstay : (piece.isEmpty || piece == ['.']) = true
      · simp only [if_pos hstay]
        exact ih hbeside
      · simp only [if_neg hstay]
        by_cases hup : (piece == ['.', '.']) = true
        · simp only [if_pos hup]
          cases hbeside with
          | top => exact .nowhere _ _
          | entry h hentry hentry' => exact (ih h).imp (.up (h.contains.concat hentry'))
        · simp only [if_neg hup]
          rcases hlookup piece with hsame | ⟨rfl, rfl, hbefore, hafter⟩
          · rw [hsame]
            cases hs : es.lookup piece with
            | none => exact .nowhere _ _
            | some s =>
              have hentry' := mem_of_lookup (hsame.trans hs)
              have hcontains := hbeside.contains.concat hentry'
              have hnext := hbeside.entry (mem_of_lookup hs) hentry'
              cases s with
              | file => exact (ih hnext).imp (.down hcontains (file_ne_link _))
              | dir => exact (ih hnext).imp (.down hcontains (dir_ne_link _))
              | link target =>
                dsimp only
                split
                · split
                  · exact .nowhere _ _
                  · next hrelative =>
                    -- The pieces of the target come in front of those that are left.
                    refine (honLink hbeside).imp fun hgoal => .follow hcontains (.of_moves ?_ ?_)
                    · rwa [Bool.not_eq_true] at hrelative
                    · rwa [Path.moves_append] at hgoal
                · exact .same _
          · rw [hbefore, hafter]
            -- The new file is found as the last piece only.
            cases more with
            | nil => exact .new _ (.down contains_file_extended (file_ne_link c) (.done _))
            | cons => exact .nowhere _ _

theorem inStep_walkLinks (followLast : Bool) (links : Nat) :
    InStep entries name c (walkLinks followLast links) (walkLinks followLast links) := by
  induction links with
  | zero => exact inStep_walk fun _ => .nowhere _ _
  | succ links ih => exact inStep_walk ih

variable (entries name c) in
/-- A path finds the same in both trees, or it leads to the new file. -/
theorem alike_find (followLast : Bool) (path : Text) :
    Alike entries name c ((extended entries name c).Denotes path [name])
      ((Tree.dir entries).find followLast path) ((extended entries name c).find followLast path) := by
  unfold find
  split
  · exact .nowhere _ _
  · next hpath =>
    rw [Bool.or_eq_true, not_or, Bool.not_eq_true, Bool.not_eq_true] at hpath
    refine (inStep_walkLinks followLast maxLinks .top).imp fun hgoal => ?_
    have hsteps : (extended entries name c).LeadsTo [] (Path.steps path ++ []) [name] :=
      .of_moves hpath.2 (by rwa [List.append_nil])
    rwa [List.append_nil] at hsteps

/-! ## Reading and listing -/

/-- A path reads the same in both trees, unless the new file can be read through it. -/
theorem toOption_readText_extended
    (h : (extended entries name c).Denotes path [name] → (extended entries name c).Unreadable path) :
    ((extended entries name c).readText path).toOption =
      ((Tree.dir entries).readText path).toOption := by
  have halike := alike_find entries name c true path
  generalize hfind : (Tree.dir entries).find true path = r,
    hfind' : (extended entries name c).find true path = r' at halike
  cases halike with
  | new e hnew =>
    obtain ⟨e', herror⟩ := readText_eq_error_iff.mpr (h hnew)
    rw [herror]
    unfold readText
    rw [hfind]
    rfl
  | same x =>
    unfold readText
    rw [hfind, hfind']
  | top =>
    unfold readText
    rw [hfind, hfind']
    rfl
  | nowhere e e' =>
    unfold readText
    rw [hfind, hfind']
    rfl

/-- Without the new file nothing can be read through a path to it. -/
theorem unreadable_of_denotes_file (ht : (Tree.dir entries).isSound = true)
    (hname : Path.IsName name) (habsent : ∀ x, ¬(Tree.dir entries).Contains [name] x)
    (h : (extended entries name c).Denotes path [name]) : (Tree.dir entries).Unreadable path := by
  cases hfind : (Tree.dir entries).find true path with
  | error e => exact .missing hfind
  | ok x =>
    refine .notRegular hfind fun content hx => ?_
    rw [hx] at hfind
    obtain ⟨place, hplace, hcontains⟩ := exists_denotes_of_find hfind (file_ne_link content)
    exact not_denotes_file ht hname habsent hplace hcontains h

theorem filesIn_append (above : List Text) (es es' : List (Text × Tree)) :
    filesIn above (es ++ es') = filesIn above es ++ filesIn above es' := by
  induction es with
  | nil => rfl
  | cons e es ih => rw [List.cons_append, filesIn, filesIn, ih, List.append_assoc]

theorem files_extended :
    files [] (extended entries name c) = files [] (.dir entries) ++ [[name]] :=
  filesIn_append [] entries _

variable (entries name c) in
/-- Below a path the same files are listed, and behind them at most the new one: below the top under
its name, and below itself under none. -/
theorem exists_filesBelow_extended (start : Text) :
    ∃ more, (extended entries name c).filesBelow start =
        (Tree.dir entries).filesBelow start ++ more ∧
      ∀ names ∈ more, names = [name] ∨
        (names = [] ∧ (extended entries name c).Denotes start [name]) := by
  have halike := alike_find entries name c false start
  have halike' := alike_find entries name c true start
  unfold filesBelow
  generalize (Tree.dir entries).find false start = r,
    (extended entries name c).find false start = r' at halike
  generalize (Tree.dir entries).find true start = s,
    (extended entries name c).find true start = s' at halike'
  cases halike with
  | nowhere => exact ⟨[], rfl, by simp⟩
  | new e hnew => exact ⟨[[]], rfl, by simpa using hnew⟩
  | top => exact ⟨[[name]], files_extended, by simp⟩
  | same x =>
    cases x with
    | file => exact ⟨[], (List.append_nil _).symm, by simp⟩
    | dir => exact ⟨[], (List.append_nil _).symm, by simp⟩
    | link target =>
      -- The listing starts where the link leads.
      cases halike' with
      | nowhere => exact ⟨[], rfl, by simp⟩
      | new => exact ⟨[], rfl, by simp⟩
      | top => exact ⟨[[name]], files_extended, by simp⟩
      | same y => exact ⟨[], (List.append_nil _).symm, by simp⟩

end DocLint.Tree
