import DocLint.Proofs.Tree

/-!
# Where paths lead

The place of something in a tree is the list of names from the top down to it. `LeadsTo` follows the
steps of a path from place to place: down by a name, up again, and on to the target of a link. It is
the relation behind `find`, which keeps the directories on the way and counts the links. In a sound
tree a path leads to one place only, and without links that place can be read off its steps.
-/

namespace DocLint.Tree

/-! ## Following steps -/

/-- `t.LeadsTo place steps goal`: the steps lead from one place of the tree to another one. No steps
lead out of the tree, so there is no rule for the root. -/
inductive LeadsTo (t : Tree) : List Text → List Path.Step → List Text → Prop
  | done (place : List Text) : LeadsTo t place [] place
  | here {place goal : List Text} {more : List Path.Step} (h : LeadsTo t place more goal) :
      LeadsTo t place (.here :: more) goal
  | up {place goal : List Text} {name : Text} {entries : List (Text × Tree)}
      {more : List Path.Step} (hdir : t.Contains (place ++ [name]) (.dir entries))
      (h : LeadsTo t place more goal) : LeadsTo t (place ++ [name]) (.up :: more) goal
  | down {place goal : List Text} {name : Text} {s : Tree} {more : List Path.Step}
      (hs : t.Contains (place ++ [name]) s) (hlink : ∀ target, s ≠ .link target)
      (h : LeadsTo t (place ++ [name]) more goal) : LeadsTo t place (.name name :: more) goal
  | follow {place goal : List Text} {name target : Text} {more : List Path.Step}
      (hlink : t.Contains (place ++ [name]) (.link target))
      (h : LeadsTo t place (Path.steps target ++ more) goal) :
      LeadsTo t place (.name name :: more) goal

/-- A path, taken from the top of the tree, leads to a place. -/
def Denotes (t : Tree) (path : Text) (place : List Text) : Prop :=
  t.LeadsTo [] (Path.steps path) place

theorem Denotes.congr {t : Tree} {p q : Text} {place : List Text} (h : t.Denotes p place)
    (hsteps : Path.steps q = Path.steps p) : t.Denotes q place := by
  unfold Denotes
  rw [hsteps]
  exact h

namespace LeadsTo

variable {t x : Tree} {place goal : List Text} {ss more : List Path.Step}

theorem append {mid : List Text} (h : LeadsTo t place ss mid) (hmore : LeadsTo t mid more goal) :
    LeadsTo t place (ss ++ more) goal := by
  induction h with
  | done => exact hmore
  | here _ ih => exact .here (ih hmore)
  | up hdir _ ih => exact .up hdir (ih hmore)
  | down hs hlink _ ih => exact .down hs hlink (ih hmore)
  | follow hlink _ ih =>
    have hrest := ih hmore
    rw [List.append_assoc] at hrest
    exact .follow hlink hrest

theorem names {names : List Text} (h : t.Contains (place ++ names) x)
    (hx : ∀ target, x ≠ .link target) :
    LeadsTo t place (names.map .name) (place ++ names) := by
  induction names generalizing place with
  | nil =>
    rw [List.append_nil]
    exact .done place
  | cons n names ih =>
    rw [List.append_cons] at h ⊢
    obtain ⟨s, hs, hsx⟩ := h.exists_between
    exact .down hs (hsx.ne_link hx) (ih h)

/-- In a sound tree steps lead to one place only. -/
theorem unique {goal' : List Text} (h : LeadsTo t place ss goal) (h' : LeadsTo t place ss goal')
    (ht : t.isSound = true) : goal = goal' := by
  induction h with
  | done =>
    cases h'
    rfl
  | here _ ih =>
    cases h' with
    | here h' => exact ih h'
  | up hdir _ ih =>
    generalize hplace : _ ++ [_] = p at h'
    cases h' with
    | up hdir' h' =>
      obtain ⟨rfl, -⟩ := List.append_inj' hplace rfl
      exact ih h'
  | down hs hlink _ ih =>
    cases h' with
    | down hs' hlink' h' => exact ih h'
    | follow hlink' h' => exact absurd (hs.unique hlink' ht) (hlink _)
  | follow hlink _ ih =>
    cases h' with
    | down hs' hlink' h' => exact absurd (hs'.unique hlink ht) (hlink' _)
    | follow hlink' h' =>
      cases hlink.unique hlink' ht
      exact ih h'

theorem eq_of_nil (h : LeadsTo t place [] goal) : goal = place := by
  cases h
  rfl

theorem of_here (h : LeadsTo t place (.here :: more) goal) : LeadsTo t place more goal := by
  cases h with
  | here h => exact h

/-- A step by a name leads on only if there is something of that name. -/
theorem exists_contains {name : Text} (h : LeadsTo t place (.name name :: more) goal) :
    ∃ s, t.Contains (place ++ [name]) s := by
  cases h with
  | down hs => exact ⟨_, hs⟩
  | follow hlink => exact ⟨_, hlink⟩

/-- Without links the last step by a name is the last name of the place. -/
theorem getLast?_of_isLinkFree {name : Text} (ht : t.isLinkFree = true)
    (h : LeadsTo t place (ss ++ [.name name]) goal) : goal.getLast? = some name := by
  induction ss generalizing place with
  | nil =>
    cases h with
    | down _ _ h => rw [h.eq_of_nil, List.getLast?_concat]
    | follow hlink => exact absurd hlink (not_contains_link ht)
  | cons s ss ih =>
    cases h with
    | here h => exact ih h
    | up _ h => exact ih h
    | down _ _ h => exact ih h
    | follow hlink => exact absurd hlink (not_contains_link ht)

/-- The first step of a relative path stays where it is, unless it is a move. -/
theorem of_moves {p : Text} (hp : Path.isAbsolute p = false)
    (h : LeadsTo t place (Path.moves (Text.splitAt '/' p) ++ more) goal) :
    LeadsTo t place (Path.steps p ++ more) goal := by
  rw [Path.steps_eq, List.append_assoc, Path.lead, hp, if_neg Bool.false_ne_true]
  split
  · exact .here h
  · exact h

end LeadsTo

/-! ## Finding -/

/-- `t.Stands place above here`: at the place stands `here`, in the directories of `above`. -/
inductive Stands (t : Tree) : List Text → List Tree → Tree → Prop
  | top : Stands t [] [] t
  | entry {place : List Text} {above : List Tree} {entries : List (Text × Tree)} {name : Text}
      {s : Tree} (h : Stands t place above (.dir entries)) (hentry : (name, s) ∈ entries) :
      Stands t (place ++ [name]) (.dir entries :: above) s

theorem Stands.contains {t here : Tree} {place : List Text} {above : List Tree}
    (h : t.Stands place above here) : t.Contains place here := by
  induction h with
  | top => exact .self t
  | entry _ hentry ih => exact ih.concat hentry

/-- What a way of following pieces finds is where their moves lead. -/
def Follows (t : Tree) (go : List Tree → Tree → List Text → Except Failure Tree) : Prop :=
  ∀ {place : List Text} {above : List Tree} {here x : Tree} {pieces : List Text},
    t.Stands place above here → go above here pieces = .ok x → (∀ target, x ≠ .link target) →
    ∃ goal, t.LeadsTo place (Path.moves pieces) goal ∧ t.Contains goal x

theorem mem_of_lookup {entries : List (Text × Tree)} {name : Text} {s : Tree}
    (h : entries.lookup name = some s) : (name, s) ∈ entries := by
  obtain ⟨l, l', rfl, -⟩ := List.lookup_eq_some_iff.mp h
  exact List.mem_append_right l List.mem_cons_self

theorem follows_walk {t : Tree} {followLast : Bool}
    {onLink : List Tree → Tree → List Text → Except Failure Tree} (honLink : t.Follows onLink) :
    t.Follows (walk followLast onLink) := by
  intro place above here x pieces hstands hwalk hx
  -- The cases are those of `walk`: a piece stays, goes up, or is looked up among the entries.
  induction pieces generalizing place above here with
  | nil =>
    cases hwalk
    exact ⟨place, .done place, hstands.contains⟩
  | cons piece more ih =>
    rw [Path.moves_cons]
    cases here with
    | file => cases hwalk
    | link => cases hwalk
    | dir entries =>
      unfold walk at hwalk
      dsimp only at hwalk
      by_cases hstay : (piece.isEmpty || piece == ['.']) = true
      · rw [if_pos hstay] at hwalk ⊢
        exact ih hstands hwalk
      · rw [if_neg hstay] at hwalk ⊢
        by_cases hup : (piece == ['.', '.']) = true
        · rw [if_pos hup] at hwalk ⊢
          cases hstands with
          | top => cases hwalk
          | entry habove hentry =>
            obtain ⟨goal, hgoal, hcontains⟩ := ih habove hwalk
            exact ⟨goal, .up (habove.contains.concat hentry) hgoal, hcontains⟩
        · rw [if_neg hup] at hwalk ⊢
          split at hwalk
          · cases hwalk
          · next target hlookup =>
            have hlink := hstands.contains.concat (mem_of_lookup hlookup)
            split at hwalk
            · split at hwalk
              · cases hwalk
              · next hrelative =>
                -- The pieces of the target come in front of those that are left.
                obtain ⟨goal, hgoal, hcontains⟩ := honLink hstands hwalk hx
                rw [Path.moves_append] at hgoal
                rw [Bool.not_eq_true] at hrelative
                exact ⟨goal, .follow hlink (.of_moves hrelative hgoal), hcontains⟩
            · cases hwalk
              exact absurd rfl (hx target)
          · next s hnotLink hlookup =>
            have hentry := mem_of_lookup hlookup
            obtain ⟨goal, hgoal, hcontains⟩ := ih (.entry hstands hentry) hwalk
            exact ⟨goal, .down (hstands.contains.concat hentry) hnotLink hgoal, hcontains⟩

theorem follows_walkLinks (t : Tree) (followLast : Bool) (links : Nat) :
    t.Follows (walkLinks followLast links) := by
  induction links with
  | zero =>
    refine follows_walk ?_
    intro place above here x pieces hstands hgo
    cases hgo
  | succ links ih => exact follows_walk ih

/-- What is found at the end of a path stands at the place that the path leads to. -/
theorem exists_denotes_of_find {t x : Tree} {followLast : Bool} {path : Text}
    (h : t.find followLast path = .ok x) (hx : ∀ target, x ≠ .link target) :
    ∃ place, t.Denotes path place ∧ t.Contains place x := by
  unfold find at h
  split at h
  · cases h
  · next hpath =>
    rw [Bool.or_eq_true, not_or, Bool.not_eq_true, Bool.not_eq_true] at hpath
    obtain ⟨goal, hgoal, hcontains⟩ := follows_walkLinks t followLast maxLinks .top h hx
    refine ⟨goal, ?_, hcontains⟩
    have hsteps : t.LeadsTo [] (Path.steps path ++ []) goal :=
      .of_moves hpath.2 (by rwa [List.append_nil])
    rwa [List.append_nil] at hsteps

/-- What stands below a place stands below what is found there. -/
theorem contains_of_find {t x y : Tree} (ht : t.isSound = true) {followLast : Bool} {path : Text}
    (h : t.find followLast path = .ok x) (hx : ∀ target, x ≠ .link target) {place rest : List Text}
    (hplace : t.Denotes path place) (hy : t.Contains (place ++ rest) y) : x.Contains rest y := by
  obtain ⟨place', hplace', hcontains⟩ := exists_denotes_of_find h hx
  obtain ⟨s, hs, hrest⟩ := hy.exists_between
  rw [hplace'.unique hplace ht] at hcontains
  rw [hcontains.unique hs ht]
  exact hrest

/-- What a path leads to if its last link is followed is found without following it, too, unless
there is that link. -/
def Refines (go goLast : List Tree → Tree → List Text → Except Failure Tree) : Prop :=
  ∀ {above : List Tree} {here x : Tree} {pieces : List Text}, goLast above here pieces = .ok x →
    go above here pieces = .ok x ∨ ∃ target, go above here pieces = .ok (.link target)

theorem refines_walk {onLink onLinkLast : List Tree → Tree → List Text → Except Failure Tree}
    (h : Refines onLink onLinkLast) : Refines (walk false onLink) (walk true onLinkLast) := by
  intro above here x pieces hwalk
  induction pieces generalizing above here with
  | nil => exact .inl hwalk
  | cons piece more ih =>
    cases here with
    | file => cases hwalk
    | link => cases hwalk
    | dir entries =>
      unfold walk at hwalk ⊢
      dsimp only at hwalk ⊢
      by_cases hstay : (piece.isEmpty || piece == ['.']) = true
      · rw [if_pos hstay] at hwalk ⊢
        exact ih hwalk
      · rw [if_neg hstay] at hwalk ⊢
        by_cases hup : (piece == ['.', '.']) = true
        · rw [if_pos hup] at hwalk ⊢
          cases above with
          | nil => cases hwalk
          | cons d ds => exact ih hwalk
        · rw [if_neg hup] at hwalk ⊢
          cases hlookup : entries.lookup piece with
          | none =>
            rw [hlookup] at hwalk
            cases hwalk
          | some s =>
            rw [hlookup] at hwalk
            cases s with
            | file => exact ih hwalk
            | dir => exact ih hwalk
            | link target =>
              -- Only a link at the end of the path makes a difference.
              cases more with
              | nil => exact .inr ⟨target, rfl⟩
              | cons next rest =>
                simp only [List.isEmpty_cons, Bool.not_false, Bool.or_true, if_true] at hwalk ⊢
                split at hwalk
                · cases hwalk
                · next hrelative =>
                  rw [if_neg hrelative]
                  exact h hwalk

theorem refines_walkLinks (links : Nat) :
    Refines (walkLinks false links) (walkLinks true links) := by
  induction links with
  | zero =>
    refine refines_walk ?_
    intro above here x pieces hgo
    cases hgo
  | succ links ih => exact refines_walk ih

theorem find_false_of_find_true {t x : Tree} {path : Text} (h : t.find true path = .ok x) :
    t.find false path = .ok x ∨ ∃ target, t.find false path = .ok (.link target) := by
  unfold find at h ⊢
  split at h
  · cases h
  · next hpath =>
    rw [if_neg hpath]
    exact refines_walkLinks maxLinks h

/-- The files from a directory on, which may be the target of a link, are those it holds. -/
theorem filesBelow_eq {t : Tree} {followLast : Bool} {start : Text}
    {entries : List (Text × Tree)} (h : t.find followLast start = .ok (.dir entries)) :
    t.filesBelow start = files [] (.dir entries) := by
  unfold filesBelow
  cases followLast with
  | false => rw [h]
  | true =>
    rcases find_false_of_find_true h with hfind | ⟨target, hfind⟩
    · rw [hfind]
    · rw [hfind, h]
      rfl

theorem mem_filesBelow_iff {t : Tree} {followLast : Bool} {start : Text}
    {entries : List (Text × Tree)} (h : t.find followLast start = .ok (.dir entries))
    {names : List Text} :
    names ∈ t.filesBelow start ↔ ∃ c, (Tree.dir entries).Contains names (.file c) := by
  rw [filesBelow_eq h, mem_files_iff]
  constructor
  · rintro ⟨below, c, rfl, hc⟩
    exact ⟨c, hc⟩
  · rintro ⟨c, hc⟩
    exact ⟨names, c, rfl, hc⟩

/-- A directory that is found in a sound tree is sound. -/
theorem isSound_of_find {t : Tree} (ht : t.isSound = true) {followLast : Bool} {path : Text}
    {entries : List (Text × Tree)} (h : t.find followLast path = .ok (.dir entries)) :
    (Tree.dir entries).isSound = true := by
  obtain ⟨place, -, hcontains⟩ := exists_denotes_of_find h (dir_ne_link entries)
  exact hcontains.all ht

theorem nodup_filesBelow {t : Tree} (ht : t.isSound = true) {followLast : Bool} {start : Text}
    {entries : List (Text × Tree)} (h : t.find followLast start = .ok (.dir entries)) :
    (t.filesBelow start).Nodup := by
  rw [filesBelow_eq h]
  exact nodup_files (isSound_of_find ht h)

/-- A file below a path stands at the place of the path, followed by the names of the file. -/
theorem exists_denotes_pathBelow {t x : Tree} (ht : t.isSound = true) {followLast : Bool}
    {start : Text} (h : t.find followLast start = .ok x) {names : List Text} {c : Content}
    (hfile : x.Contains names (.file c)) :
    ∃ place, t.Denotes start place ∧ t.Denotes (pathBelow start names) (place ++ names) ∧
      t.Contains (place ++ names) (.file c) := by
  obtain ⟨place, hplace, hx⟩ := exists_denotes_of_find h (hfile.ne_link (file_ne_link c))
  have hcontains := hx.append hfile
  refine ⟨place, hplace, ?_, hcontains⟩
  unfold Denotes
  rw [hcontains.steps_pathBelow ht start]
  exact hplace.append (.names hcontains (file_ne_link c))

end DocLint.Tree

/-! ## Places of paths in trees without links -/

namespace DocLint.Path

/-- The place that steps lead to from another one if there are no links: a dot stays, and two dots
take the last name back. -/
def locate : (place : List Text) → List Step → Option (List Text)
  | place, [] => some place
  | _, .root :: _ => none
  | place, .here :: more => locate place more
  | place, .up :: more => if place.isEmpty then none else locate place.dropLast more
  | place, .name n :: more => locate (place ++ [n]) more

def location (p : Text) : Option (List Text) :=
  locate [] (steps p)

theorem locate_of_leadsTo {t : Tree} (ht : t.isLinkFree = true) {place goal : List Text}
    {ss : List Step} (h : t.LeadsTo place ss goal) : locate place ss = some goal := by
  induction h with
  | done => rfl
  | here _ ih => exact ih
  | up _ _ ih => simpa [locate] using ih
  | down _ _ _ ih => exact ih
  | follow hlink _ _ => exact absurd hlink (Tree.not_contains_link ht)

theorem location_of_denotes {t : Tree} (ht : t.isLinkFree = true) {p : Text} {place : List Text}
    (h : t.Denotes p place) : location p = some place :=
  locate_of_leadsTo ht h

theorem locate_names (place names : List Text) :
    locate place (names.map .name) = some (place ++ names) := by
  induction names generalizing place with
  | nil => simp [locate]
  | cons n names ih =>
    rw [List.map_cons, locate, ih, List.append_assoc]
    rfl

end DocLint.Path
