import DocLint.Proofs.Places

/-!
# Files at the top of a tree

A file is created at the top of a tree only where nothing is, and only a file or a link is removed
there. Both leave everything alone that is not at the name in question, and a sound tree sound.
-/

namespace DocLint.Tree

variable {t t' x : Tree} {entries : List (Text × Tree)} {name : Text} {names : List Text}
  {c : Content}

/-! ## Entries -/

theorem contains_name_iff : (Tree.dir entries).Contains [name] x ↔ (name, x) ∈ entries := by
  constructor
  · intro h
    cases h with
    | entry hentry h =>
      cases h
      exact hentry
  · exact fun hentry => .entry hentry (.self x)

theorem lookup_eq_none_iff_not_contains :
    entries.lookup name = none ↔ ∀ x, ¬(Tree.dir entries).Contains [name] x := by
  simp only [List.lookup_eq_none_iff, contains_name_iff, bne_iff_ne]
  constructor
  · exact fun h x hentry => h _ hentry rfl
  · rintro h e he rfl
    exact h _ he

theorem hasEntry_iff :
    (Tree.dir entries).hasEntry name = true ↔ ∃ x, (Tree.dir entries).Contains [name] x := by
  show (entries.lookup name).isSome = true ↔ _
  rw [← not_iff_not, Bool.not_eq_true, Option.isSome_eq_false_iff, Option.isNone_iff_eq_none,
    lookup_eq_none_iff_not_contains, not_exists]

/-- In a sound tree an entry is found under its name. -/
theorem lookup_of_contains (ht : (Tree.dir entries).isSound = true)
    (h : (Tree.dir entries).Contains [name] x) : entries.lookup name = some x := by
  cases hlookup : entries.lookup name with
  | none => exact absurd h (lookup_eq_none_iff_not_contains.mp hlookup x)
  | some y =>
    have hy := contains_name_iff.mpr (mem_of_lookup hlookup)
    rw [hy.unique h ht]

theorem allIn_iff {p : Tree → Bool} :
    allIn p entries = true ↔ ∀ e ∈ entries, e.2.all p = true := by
  induction entries with
  | nil => simp [allIn]
  | cons e more ih => simp only [allIn, Bool.and_eq_true, List.forall_mem_cons, ih]

theorem isSound_dir_iff :
    (Tree.dir entries).isSound = true ↔ (entries.map Prod.fst).Nodup ∧
      ∀ e ∈ entries, Path.IsName e.1 ∧ e.2.isSound = true := by
  unfold isSound
  rw [all, Bool.and_eq_true, allIn_iff, hasNames, Bool.and_eq_true, List.all_eq_true]
  simp only [decide_eq_true_eq, and_assoc, ← forall₂_and]

/-! ## Creating and removing -/

/-- Beside the entry of a name, the tree `t'` holds what `t` holds. -/
def SameBeside (name : Text) (t t' : Tree) : Prop :=
  ∀ names x, names ≠ [] → names.head? ≠ some name → (t'.Contains names x ↔ t.Contains names x)

theorem SameBeside.refl (name : Text) (t : Tree) : SameBeside name t t :=
  fun _ _ _ _ => Iff.rfl

theorem SameBeside.trans {t'' : Tree} (h : SameBeside name t t') (h' : SameBeside name t' t'') :
    SameBeside name t t'' :=
  fun names x hne hhead => (h' names x hne hhead).trans (h names x hne hhead)

/-- Two directories hold the same beside a name if all their other entries are the same. -/
theorem sameBeside_dir {entries' : List (Text × Tree)}
    (h : ∀ e : Text × Tree, e.1 ≠ name → (e ∈ entries' ↔ e ∈ entries)) :
    SameBeside name (.dir entries) (.dir entries') := by
  intro names x hne hhead
  cases names with
  | nil => exact absurd rfl hne
  | cons n rest =>
    have hn : n ≠ name := fun heq => hhead (congrArg some heq)
    constructor
    · intro hx
      cases hx with
      | entry hentry hx => exact .entry ((h _ hn).mp hentry) hx
    · intro hx
      cases hx with
      | entry hentry hx => exact .entry ((h _ hn).mpr hentry) hx

theorem create_of_absent (h : ∀ x, ¬(Tree.dir entries).Contains [name] x) :
    (Tree.dir entries).create name c = .ok (.dir (entries ++ [(name, .file c)])) := by
  have hentry : ¬(Tree.dir entries).hasEntry name = true := by
    rw [hasEntry_iff, not_exists]
    exact h
  unfold create
  exact if_neg hentry

theorem create_of_present (h : (Tree.dir entries).Contains [name] x) :
    (Tree.dir entries).create name c = .error .alreadyExists := by
  unfold create
  exact if_pos (hasEntry_iff.mpr ⟨x, h⟩)

theorem sameBeside_create :
    SameBeside name (.dir entries) (.dir (entries ++ [(name, .file c)])) := by
  apply sameBeside_dir
  intro e hne
  have hnew : e ≠ (name, .file c) := fun heq => hne (congrArg Prod.fst heq)
  rw [List.mem_append, List.mem_singleton, or_iff_left hnew]

/-- The file that was created, and nothing in it. -/
theorem contains_create_iff (h : ∀ x, ¬(Tree.dir entries).Contains [name] x) :
    (Tree.dir (entries ++ [(name, .file c)])).Contains (name :: names) x ↔
      names = [] ∧ x = .file c := by
  constructor
  · intro hx
    cases hx with
    | entry hentry hx =>
      rcases List.mem_append.mp hentry with hentry | hentry
      · exact absurd (contains_name_iff.mpr hentry) (h _)
      · cases List.mem_singleton.mp hentry
        cases hx
        exact ⟨rfl, rfl⟩
  · rintro ⟨rfl, rfl⟩
    exact contains_name_iff.mpr (List.mem_append_right _ List.mem_cons_self)

theorem isSound_create (ht : (Tree.dir entries).isSound = true) (hname : Path.IsName name)
    (h : ∀ x, ¬(Tree.dir entries).Contains [name] x) :
    (Tree.dir (entries ++ [(name, .file c)])).isSound = true := by
  rw [isSound_dir_iff] at ht ⊢
  refine ⟨?_, ?_⟩
  · rw [List.map_append, List.nodup_append']
    refine ⟨ht.1, List.nodup_singleton name, ?_⟩
    -- An entry of the same name would stand where the file is created.
    intro n hn hnew
    obtain ⟨e, he, rfl⟩ := List.mem_map.mp hn
    refine h e.2 (contains_name_iff.mpr ?_)
    rwa [← show e.1 = name from List.mem_singleton.mp hnew]
  · intro e he
    rcases List.mem_append.mp he with he | he
    · exact ht.2 e he
    · rw [List.mem_singleton.mp he]
      exact ⟨hname, rfl⟩

theorem unlink_of_dir {below : List (Text × Tree)} (ht : (Tree.dir entries).isSound = true)
    (h : (Tree.dir entries).Contains [name] (.dir below)) :
    (Tree.dir entries).unlink name = .error .isDirectory := by
  unfold unlink
  simp only [lookup_of_contains ht h]

theorem unlink_of_not_dir (ht : (Tree.dir entries).isSound = true)
    (h : (Tree.dir entries).Contains [name] x) (hx : ∀ below, x ≠ .dir below) :
    (Tree.dir entries).unlink name = .ok (.dir (entries.filter fun e => e.1 != name)) := by
  unfold unlink
  simp only [lookup_of_contains ht h]

theorem sameBeside_unlink :
    SameBeside name (.dir entries) (.dir (entries.filter fun e => e.1 != name)) := by
  apply sameBeside_dir
  intro e hne
  rw [List.mem_filter, and_iff_left (bne_iff_ne.mpr hne)]

theorem not_contains_unlink (x : Tree) :
    ¬(Tree.dir (entries.filter fun e => e.1 != name)).Contains [name] x := by
  rw [contains_name_iff, List.mem_filter, bne_self_eq_false]
  exact fun h => Bool.false_ne_true h.2

theorem isSound_unlink (ht : (Tree.dir entries).isSound = true) :
    (Tree.dir (entries.filter fun e => e.1 != name)).isSound = true := by
  rw [isSound_dir_iff] at ht ⊢
  exact ⟨ht.1.sublist (List.filter_sublist.map Prod.fst),
    fun e he => ht.2 e (List.mem_of_mem_filter he)⟩

end DocLint.Tree
