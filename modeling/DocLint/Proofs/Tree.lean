import Mathlib.Data.List.Nodup
import DocLint.Proofs.Path
import DocLint.Tree

/-!
# What a tree holds

`Contains` says what stands in a tree below which names, and `files` lists the names of the regular
files in it. In a sound tree, where every directory holds proper names and none of them twice, names
lead to one thing only.
-/

namespace DocLint.Tree

/-! ## Names in a tree -/

/-- `t.Contains names x`: the names lead from `t` down to `x`. -/
inductive Contains : Tree → List Text → Tree → Prop
  | self (t : Tree) : Contains t [] t
  | entry {entries : List (Text × Tree)} {name : Text} {t x : Tree} {names : List Text}
      (hentry : (name, t) ∈ entries) (h : Contains t names x) :
      Contains (.dir entries) (name :: names) x

theorem file_ne_link (c : Content) (target : Text) : Tree.file c ≠ .link target := by
  intro h
  cases h

theorem dir_ne_link (entries : List (Text × Tree)) (target : Text) :
    Tree.dir entries ≠ .link target := by
  intro h
  cases h

namespace Contains

variable {t s x : Tree} {above names : List Text}

theorem append (hs : Contains t above s) (hx : Contains s names x) :
    Contains t (above ++ names) x := by
  induction hs with
  | self => exact hx
  | entry hentry _ ih => exact .entry hentry (ih hx)

theorem exists_between (h : Contains t (above ++ names) x) :
    ∃ s, Contains t above s ∧ Contains s names x := by
  induction above generalizing t with
  | nil => exact ⟨t, .self t, h⟩
  | cons name above ih =>
    cases h with
    | entry hentry h =>
      obtain ⟨s, hs, hx⟩ := ih h
      exact ⟨s, .entry hentry hs, hx⟩

theorem concat {entries : List (Text × Tree)} {name : Text} (h : Contains t above (.dir entries))
    (hentry : (name, x) ∈ entries) : Contains t (above ++ [name]) x :=
  h.append (.entry hentry (.self x))

/-- A link holds nothing. -/
theorem ne_link (h : Contains s names x) (hx : ∀ target, x ≠ .link target) (target : Text) :
    s ≠ .link target := by
  cases h with
  | self => exact hx target
  | entry => exact dir_ne_link _ target

end Contains

/-! ## Listed files -/

mutual

theorem mem_files_iff {above names : List Text} {t : Tree} :
    names ∈ files above t ↔ ∃ below c, names = above ++ below ∧ t.Contains below (.file c) := by
  match t with
  | .file content =>
    rw [files, List.mem_singleton]
    constructor
    · rintro rfl
      exact ⟨[], content, (List.append_nil _).symm, .self _⟩
    · rintro ⟨below, c, rfl, h⟩
      cases h
      exact List.append_nil above
  | .link target =>
    rw [files]
    constructor
    · intro h
      cases h
    · rintro ⟨below, c, rfl, h⟩
      cases h
  | .dir entries =>
    rw [files, mem_filesIn_iff]
    constructor
    · rintro ⟨name, s, below, c, hentry, rfl, h⟩
      exact ⟨name :: below, c, rfl, .entry hentry h⟩
    · rintro ⟨below, c, rfl, h⟩
      cases h with
      | entry hentry h => exact ⟨_, _, _, c, hentry, rfl, h⟩

theorem mem_filesIn_iff {above names : List Text} {entries : List (Text × Tree)} :
    names ∈ filesIn above entries ↔ ∃ name t below c, (name, t) ∈ entries ∧
      names = above ++ name :: below ∧ t.Contains below (.file c) := by
  match entries with
  | [] =>
    rw [filesIn]
    constructor
    · intro h
      cases h
    · rintro ⟨name, s, below, c, hentry, -⟩
      cases hentry
  | (name, t) :: more =>
    rw [filesIn, List.mem_append, mem_files_iff, mem_filesIn_iff]
    constructor
    · rintro (⟨below, c, rfl, h⟩ | ⟨name', s, below, c, hentry, rfl, h⟩)
      · exact ⟨name, t, below, c, List.mem_cons_self, by simp, h⟩
      · exact ⟨name', s, below, c, List.mem_cons_of_mem _ hentry, rfl, h⟩
    · rintro ⟨name', s, below, c, hentry, rfl, h⟩
      rcases List.mem_cons.mp hentry with heq | hentry
      · cases heq
        exact .inl ⟨below, c, by simp, h⟩
      · exact .inr ⟨name', s, below, c, hentry, rfl, h⟩

end

/-! ## Sound trees -/

mutual

/-- Whether a tree and everything in it satisfies `p`. -/
def all (p : Tree → Bool) : Tree → Bool
  | .file c => p (.file c)
  | .dir entries => p (.dir entries) && allIn p entries
  | .link target => p (.link target)

def allIn (p : Tree → Bool) : List (Text × Tree) → Bool
  | [] => true
  | (_, t) :: more => t.all p && allIn p more

end

theorem all_self {p : Tree → Bool} {t : Tree} (h : t.all p = true) : p t = true := by
  cases t with
  | file => exact h
  | dir => exact (Bool.and_eq_true_iff.mp h).1
  | link => exact h

theorem all_of_mem {p : Tree → Bool} {entries : List (Text × Tree)} (h : allIn p entries = true)
    {name : Text} {t : Tree} (hentry : (name, t) ∈ entries) : t.all p = true := by
  induction entries with
  | nil => cases hentry
  | cons e more ih =>
    obtain ⟨hfirst, hmore⟩ := Bool.and_eq_true_iff.mp h
    rcases List.mem_cons.mp hentry with rfl | hentry
    · exact hfirst
    · exact ih hmore hentry

theorem Contains.all {p : Tree → Bool} {t x : Tree} {names : List Text} (hx : t.Contains names x)
    (h : t.all p = true) : x.all p = true := by
  induction hx with
  | self => exact h
  | entry hentry _ ih => exact ih (all_of_mem (Bool.and_eq_true_iff.mp h).2 hentry)

/-- Whether the entries of a directory have proper names, and no name is there twice. -/
def hasNames : Tree → Bool
  | .dir entries =>
    decide ((entries.map Prod.fst).Nodup) && entries.all fun e => decide (Path.IsName e.1)
  | _ => true

/-- Whether all directories of a tree have proper entries, as in every file system. -/
def isSound (t : Tree) : Bool :=
  t.all hasNames

def isLinkFree (t : Tree) : Bool :=
  t.all fun
    | .link _ => false
    | _ => true

theorem not_contains_link {t : Tree} (h : t.isLinkFree = true) {names : List Text} {target : Text} :
    ¬t.Contains names (.link target) :=
  fun hlink => Bool.false_ne_true (all_self (hlink.all h))

section Sound

variable {t x : Tree} {names : List Text}

theorem names_of_isSound {entries : List (Text × Tree)} (h : (Tree.dir entries).isSound = true) :
    (entries.map Prod.fst).Nodup ∧ ∀ e ∈ entries, Path.IsName e.1 := by
  obtain ⟨hnodup, hname⟩ := Bool.and_eq_true_iff.mp (all_self h)
  rw [List.all_eq_true] at hname
  exact ⟨of_decide_eq_true hnodup, fun e he => of_decide_eq_true (hname e he)⟩

theorem Contains.isName (hx : t.Contains names x) (ht : t.isSound = true) :
    ∀ n ∈ names, Path.IsName n := by
  induction hx with
  | self => exact fun n hn => nomatch hn
  | entry hentry _ ih =>
    intro n hn
    rcases List.mem_cons.mp hn with rfl | hn
    · exact (names_of_isSound ht).2 _ hentry
    · exact ih (all_of_mem (Bool.and_eq_true_iff.mp ht).2 hentry) n hn

/-- In a sound tree names lead to one thing only. -/
theorem Contains.unique {y : Tree} (hx : t.Contains names x) (hy : t.Contains names y)
    (ht : t.isSound = true) : x = y := by
  induction hx with
  | self =>
    cases hy
    rfl
  | entry hentry _ ih =>
    cases hy with
    | entry hentry' hy =>
      have heq := List.inj_on_of_nodup_map (names_of_isSound ht).1 hentry hentry' rfl
      cases heq
      exact ih hy (all_of_mem (Bool.and_eq_true_iff.mp ht).2 hentry)

mutual

/-- No file of a sound tree is listed twice. -/
theorem nodup_files {above : List Text} {t : Tree} (h : t.isSound = true) :
    (files above t).Nodup := by
  match t with
  | .file content =>
    rw [files]
    exact List.nodup_singleton above
  | .link target =>
    rw [files]
    exact List.nodup_nil
  | .dir entries =>
    rw [files]
    exact nodup_filesIn (names_of_isSound h).1 (Bool.and_eq_true_iff.mp h).2

theorem nodup_filesIn {above : List Text} {entries : List (Text × Tree)}
    (hnames : (entries.map Prod.fst).Nodup) (h : allIn hasNames entries = true) :
    (filesIn above entries).Nodup := by
  match entries with
  | [] =>
    rw [filesIn]
    exact List.nodup_nil
  | (name, t) :: more =>
    obtain ⟨hfirst, hmore⟩ := Bool.and_eq_true_iff.mp h
    obtain ⟨hnot, hnames⟩ := List.nodup_cons.mp hnames
    rw [filesIn, List.nodup_append']
    refine ⟨nodup_files hfirst, nodup_filesIn hnames hmore, ?_⟩
    -- A file of both kinds would have the same name behind `above`.
    intro found hleft hright
    obtain ⟨below, c, rfl, -⟩ := mem_files_iff.mp hleft
    obtain ⟨name', s, below', c', hentry, heq, -⟩ := mem_filesIn_iff.mp hright
    rw [List.append_assoc] at heq
    have hsame : name = name' := (List.cons.inj (List.append_cancel_left heq)).1
    exact hnot (List.mem_map.mpr ⟨(name', s), hentry, hsame.symm⟩)

end

/-- The path of something below a path has its names as further steps. -/
theorem steps_pathBelow (start : Text) (h : ∀ n ∈ names, Path.IsName n) :
    Path.steps (pathBelow start names) = Path.steps start ++ names.map .name := by
  induction names generalizing start with
  | nil => exact (List.append_nil _).symm
  | cons n names ih =>
    obtain ⟨hn, hnames⟩ := List.forall_mem_cons.mp h
    show Path.steps (pathBelow (Path.join start n) names) = _
    rw [ih (Path.join start n) hnames, Path.steps_join hn, List.append_assoc]
    rfl

theorem Contains.steps_pathBelow {place : List Text} (h : t.Contains (place ++ names) x)
    (ht : t.isSound = true) (start : Text) :
    Path.steps (pathBelow start names) = Path.steps start ++ names.map .name := by
  apply Tree.steps_pathBelow start
  intro n hn
  exact h.isName ht n (List.mem_append_right place hn)

end Sound

end DocLint.Tree
