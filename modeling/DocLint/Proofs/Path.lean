import DocLint.Proofs.Order

/-!
# Steps of paths, and sorted paths

The steps of a path are a lead, which tells where it begins, and one move for each piece that is not
empty and not a dot. A name that is joined to a path adds one step to it, however the path ends.
Sorting leaves one path for each list of steps, in ascending order, so the steps of sorted paths
depend on nothing but the set of steps that the paths have.
-/

namespace DocLint

namespace Text

theorem splitAt_ne_nil (sep : Char) (t : Text) : splitAt sep t ≠ [] := by
  cases t with
  | nil => simp [splitAt]
  | cons c cs =>
    unfold splitAt
    split
    · simp
    · split <;> simp

theorem splitAt_append (sep : Char) (s t : Text) :
    splitAt sep (s ++ sep :: t) = splitAt sep s ++ splitAt sep t := by
  induction s with
  | nil => simp [splitAt]
  | cons c cs ih =>
    rw [List.cons_append, splitAt, splitAt, ih]
    by_cases hc : c = sep
    · rw [if_pos hc, if_pos hc, List.cons_append]
    · rw [if_neg hc, if_neg hc]
      cases hs : splitAt sep cs with
      | nil => exact absurd hs (splitAt_ne_nil sep cs)
      | cons piece pieces => rfl

theorem splitAt_of_not_mem {sep : Char} {t : Text} (h : sep ∉ t) : splitAt sep t = [t] := by
  induction t with
  | nil => rfl
  | cons c cs ih =>
    have hc : c ≠ sep := fun hc => h (hc ▸ List.mem_cons_self)
    have hcs : sep ∉ cs := fun hcs => h (List.mem_cons_of_mem c hcs)
    rw [splitAt, if_neg hc, ih hcs]

end Text

namespace Path

/-! ## Steps -/

/-- The steps of pieces. Empty pieces and dots are none. -/
def moves (pieces : List Text) : List Step :=
  (pieces.filter (isStep false)).map .ofPiece

@[simp] theorem moves_nil : moves [] = [] := rfl

@[simp] theorem moves_append (ps qs : List Text) : moves (ps ++ qs) = moves ps ++ moves qs := by
  simp [moves]

theorem moves_cons_eq_append (piece : Text) (more : List Text) :
    moves (piece :: more) =
      (if isStep false piece then [Step.ofPiece piece] else []) ++ moves more := by
  unfold moves
  rw [List.filter_cons]
  split <;> rfl

theorem moves_cons (piece : Text) (more : List Text) :
    moves (piece :: more) =
      if piece.isEmpty || piece == ['.'] then moves more
      else if piece == ['.', '.'] then .up :: moves more
      else .name piece :: moves more := by
  rw [moves_cons_eq_append]
  by_cases hstay : (piece.isEmpty || piece == ['.']) = true
  · have hstep : ¬isStep false piece = true := by
      simp only [Bool.or_eq_true, List.isEmpty_iff, beq_iff_eq] at hstay
      rcases hstay with rfl | rfl <;> decide
    rw [if_pos hstay, if_neg hstep, List.nil_append]
  · have hne : piece ≠ [] ∧ piece ≠ ['.'] := by
      simpa only [Bool.or_eq_true, List.isEmpty_iff, beq_iff_eq, not_or] using hstay
    have hstep : isStep false piece = true := by
      simp [isStep, hne]
    rw [if_neg hstay, if_pos hstep, Step.ofPiece, if_neg (by simp [hne.2])]
    split <;> rfl

/-- How a path begins, if it does not begin with a move. -/
def lead (p : Text) : List Step :=
  if isAbsolute p then [.root]
  else if (Text.splitAt '/' p).head? = some ['.'] then [.here] else []

theorem steps_of_splitAt {p first : Text} {more : List Text}
    (hp : Text.splitAt '/' p = first :: more) :
    steps p = (if isAbsolute p then [.root] else []) ++
      ((if isStep true first then [Step.ofPiece first] else []) ++ moves more) := by
  have hmore : ((more.map fun piece => (piece, isStep false piece)).filter Prod.snd).map
      (fun x => Step.ofPiece x.1) = moves more := by
    simp [moves, List.filter_map, Function.comp_def]
  unfold steps pieces
  simp only [hp]
  rw [List.filter_cons]
  congr 1
  by_cases hstep : isStep true first = true
  · rw [if_pos hstep, if_pos hstep, List.map_cons, hmore]
    rfl
  · rw [if_neg hstep, if_neg hstep, hmore]
    rfl

theorem splitAt_of_isAbsolute {p : Text} (h : isAbsolute p = true) :
    (Text.splitAt '/' p).head? = some [] := by
  cases p with
  | nil => cases h
  | cons c cs =>
    rw [isAbsolute, List.head?_cons, beq_iff_eq, Option.some.injEq] at h
    rw [Text.splitAt, if_pos h, List.head?_cons]

theorem steps_eq (p : Text) : steps p = lead p ++ moves (Text.splitAt '/' p) := by
  cases hp : Text.splitAt '/' p with
  | nil => exact absurd hp (Text.splitAt_ne_nil '/' p)
  | cons first more =>
    have habsolute : isAbsolute p = true → first = [] := by
      intro h
      have hhead := splitAt_of_isAbsolute h
      rw [hp, List.head?_cons, Option.some.injEq] at hhead
      exact hhead
    rw [steps_of_splitAt hp, lead, hp, List.head?_cons, moves_cons_eq_append]
    -- A dot is a step as the first piece only, and there it is the lead.
    by_cases habs : isAbsolute p = true
    · simp [habs, habsolute habs, isStep]
    · by_cases hdot : first = ['.']
      · simp [habs, hdot, isStep, Step.ofPiece]
      · simp [habs, hdot, isStep]

/-- What follows a slash adds its moves. -/
theorem steps_append_slash (p q : Text) :
    steps (p ++ '/' :: q) = steps (p ++ ['/']) ++ moves (Text.splitAt '/' q) := by
  have hlead : lead (p ++ '/' :: q) = lead (p ++ ['/']) := by
    unfold lead isAbsolute
    rw [Text.splitAt_append, Text.splitAt_append, List.head?_append, List.head?_append,
      List.head?_append, List.head?_append]
    cases hp : Text.splitAt '/' p with
    | nil => exact absurd hp (Text.splitAt_ne_nil '/' p)
    | cons first more => rfl
  rw [steps_eq, steps_eq (p ++ ['/']), hlead, Text.splitAt_append, Text.splitAt_append,
    moves_append, moves_append, List.append_assoc, List.append_assoc]
  rfl

theorem steps_append_last_slash {p : Text} (hp : p ≠ []) : steps (p ++ ['/']) = steps p := by
  have hlead : lead (p ++ ['/']) = lead p := by
    unfold lead isAbsolute
    rw [Text.splitAt_append, List.head?_append, List.head?_append]
    cases p with
    | nil => exact absurd rfl hp
    | cons c cs =>
      cases hs : Text.splitAt '/' (c :: cs) with
      | nil => exact absurd hs (Text.splitAt_ne_nil '/' (c :: cs))
      | cons first more => rfl
  rw [steps_eq, steps_eq p, hlead, Text.splitAt_append, moves_append]
  exact congrArg _ (List.append_nil _)

/-- A text that can be the name of a file or a directory. -/
def IsName (n : Text) : Prop :=
  n ≠ [] ∧ n ≠ ['.'] ∧ n ≠ ['.', '.'] ∧ '/' ∉ n

instance : DecidablePred IsName := fun _ => inferInstanceAs (Decidable (_ ∧ _))

theorem IsName.moves {n : Text} (h : IsName n) : moves (Text.splitAt '/' n) = [.name n] := by
  obtain ⟨hempty, hdot, hup, hslash⟩ := h
  rw [Text.splitAt_of_not_mem hslash]
  simp [moves_cons, hempty, hdot, hup]

theorem IsName.steps {n : Text} (h : IsName n) : steps n = [.name n] := by
  have hlead : lead n = [] := by
    obtain ⟨hempty, hdot, -, hslash⟩ := h
    unfold lead
    rw [Text.splitAt_of_not_mem hslash, List.head?_cons, if_neg, if_neg]
    · simpa using hdot
    · intro habs
      have hhead := splitAt_of_isAbsolute habs
      rw [Text.splitAt_of_not_mem hslash] at hhead
      exact hempty (Option.some.inj hhead)
  rw [steps_eq, hlead, h.moves, List.nil_append]

/-- A name below a directory is one more step. -/
theorem steps_join {n : Text} (hn : IsName n) (dir : Text) :
    steps (join dir n) = steps dir ++ [.name n] := by
  have hrelative : ¬isAbsolute n = true := by
    intro habs
    have hhead := splitAt_of_isAbsolute habs
    rw [Text.splitAt_of_not_mem hn.2.2.2] at hhead
    exact hn.1 (Option.some.inj hhead)
  rw [join, if_neg hrelative]
  by_cases hempty : dir = []
  · rw [if_pos (by simp [hempty]), hempty, List.nil_append, hn.steps]
    rfl
  · by_cases hlast : dir.getLast? = some '/'
    · obtain ⟨before, rfl⟩ := List.getLast?_eq_some_iff.mp hlast
      rw [if_pos (by simp), List.append_assoc, List.singleton_append, steps_append_slash, hn.moves]
    · rw [if_neg (by simp [hempty, hlast]), List.append_assoc, List.singleton_append,
        steps_append_slash, hn.moves, steps_append_last_slash hempty]

/-! ## Sorted paths -/

section Sorted

open Std

instance : TransCmp compare where
  eq_swap {p q} := by
    show compareSteps (steps p) (steps q) = (compareSteps (steps q) (steps p)).swap
    exact OrientedCmp.eq_swap
  isLE_trans {p q r} (hpq : (compareSteps (steps p) (steps q)).isLE) hqr := by
    show (compareSteps (steps p) (steps r)).isLE
    exact TransCmp.isLE_trans hpq hqr

theorem compare_eq_eq_iff {p q : Text} : compare p q = .eq ↔ steps p = steps q := by
  unfold compare
  exact LawfulEqCmp.compare_eq_iff_eq

theorem mem_of_mem_dropRepeated {ps : List Text} {p : Text} (h : p ∈ dropRepeated ps) : p ∈ ps := by
  fun_induction dropRepeated ps with
  | case1 a b more heq ih =>
    have hp := ih h
    simp only [List.mem_cons] at hp ⊢
    exact hp.imp_right .inr
  | case2 a b more hne ih =>
    rw [List.mem_cons] at h ⊢
    exact h.imp_right ih
  | case3 => exact h

theorem exists_mem_dropRepeated {ps : List Text} {p : Text} (h : p ∈ ps) :
    ∃ q ∈ dropRepeated ps, steps q = steps p := by
  fun_induction dropRepeated ps generalizing p with
  | case1 a b more heq ih =>
    rw [beq_iff_eq] at heq
    -- `a` stays in the place of `b`.
    rcases List.mem_cons.mp h with rfl | h
    · exact ih List.mem_cons_self
    · rcases List.mem_cons.mp h with rfl | h
      · rw [← heq]
        exact ih List.mem_cons_self
      · exact ih (List.mem_cons_of_mem a h)
  | case2 a b more hne ih =>
    rcases List.mem_cons.mp h with rfl | h
    · exact ⟨p, List.mem_cons_self, rfl⟩
    · obtain ⟨q, hq, hsteps⟩ := ih h
      exact ⟨q, List.mem_cons_of_mem a hq, hsteps⟩
  | case3 => exact ⟨p, h, rfl⟩

theorem pairwise_dropRepeated {ps : List Text} (h : ps.Pairwise fun p q => (compare p q).isLE) :
    (dropRepeated ps).Pairwise fun p q => compare p q = .lt := by
  fun_induction dropRepeated ps with
  | case1 a b more heq ih =>
    refine ih (h.sublist ?_)
    exact (List.sublist_cons_self b more).cons_cons a
  | case2 a b more hne ih =>
    obtain ⟨ha, hmore⟩ := List.pairwise_cons.mp h
    refine List.pairwise_cons.mpr ⟨?_, ih hmore⟩
    have hlt : compare a b = .lt := by
      have hle := ha b List.mem_cons_self
      have heq : compare a b ≠ .eq := fun heq => hne (beq_iff_eq.mpr (compare_eq_eq_iff.mp heq))
      cases hab : compare a b with
      | lt => rfl
      | eq => exact absurd hab heq
      | gt => rw [hab] at hle; cases hle
    intro q hq
    rcases List.mem_cons.mp (mem_of_mem_dropRepeated hq) with rfl | hq
    · exact hlt
    · exact TransCmp.lt_of_lt_of_isLE hlt ((List.pairwise_cons.mp hmore).1 q hq)
  | case3 ps hshort =>
    match ps, hshort with
    | [], _ => exact List.Pairwise.nil
    | [p], _ => exact List.pairwise_singleton _ p
    | p :: q :: more, hshort => exact absurd rfl (hshort p q more)

theorem pairwise_sort (ps : List Text) : (sort ps).Pairwise fun p q => compare p q = .lt :=
  pairwise_dropRepeated (pairwise_mergeSort_of_cmp compare ps)

theorem sort_singleton (p : Text) : sort [p] = [p] := by
  rw [sort, List.mergeSort_singleton, dropRepeated]
  rintro _ _ _ ⟨⟩

theorem mem_of_mem_sort {ps : List Text} {p : Text} (h : p ∈ sort ps) : p ∈ ps :=
  List.mem_mergeSort.mp (mem_of_mem_dropRepeated h)

theorem exists_mem_sort {ps : List Text} {p : Text} (h : p ∈ ps) :
    ∃ q ∈ sort ps, steps q = steps p :=
  exists_mem_dropRepeated (List.mem_mergeSort.mpr h)

/-- Paths in strictly ascending order have the same steps if each of them is among the others. -/
theorem map_steps_eq {ps qs : List Text} (hps : ps.Pairwise fun p q => compare p q = .lt)
    (hqs : qs.Pairwise fun p q => compare p q = .lt)
    (hsame : ∀ s, s ∈ ps.map steps ↔ s ∈ qs.map steps) : ps.map steps = qs.map steps := by
  have hsorted : ∀ {rs : List Text}, (rs.Pairwise fun p q => compare p q = .lt) →
      (rs.map steps).Pairwise fun a b => compareSteps a b = .lt := fun h => List.pairwise_map.mpr h
  have hnodup : ∀ {ss : List (List Step)}, (ss.Pairwise fun a b => compareSteps a b = .lt) →
      ss.Nodup := by
    intro ss h
    refine h.imp ?_
    rintro a b hab rfl
    have hself : compareSteps a a = .eq := ReflCmp.compare_self
    rw [hself] at hab
    cases hab
  refine List.Perm.eq_of_pairwise ?_ (hsorted hps) (hsorted hqs) ?_
  · intro a b _ _ hab hba
    exact absurd hba (OrientedCmp.not_lt_of_lt hab)
  · exact (List.perm_ext_iff_of_nodup (hnodup (hsorted hps)) (hnodup (hsorted hqs))).mpr hsame

end Sorted

end Path

end DocLint
