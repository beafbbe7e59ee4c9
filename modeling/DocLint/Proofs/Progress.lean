import DocLint.Proofs.Misses

/-!
# The forward scan moves on

Every search of the forward scan takes the least line at or behind its hint that matches the anchor,
and the next search starts behind the lines of the block found, or at the same hint if none was. So
the hints ascend up to the number of lines, and blocks are found one behind the other, whatever
their anchors are, and whatever their spans are as long as machine words can number their lines.
-/

namespace DocLint

namespace Locator

/-- The line at a position matches an anchor: it holds the words of the anchor, or it has content
and the anchor has no words. -/
def Matches (x : LineIndex) (anchor : Text) (i : Nat) : Prop :=
  ∃ line, x.line? i = some line ∧
    ((Decoration.strip anchor = [] ∧ Text.isBlank line = false) ∨
      (Decoration.strip anchor ≠ [] ∧ Decoration.strip anchor <:+: Decoration.strip line))

theorem shows_iff {anchor line : Text} :
    shows anchor line = true ↔
      (Decoration.strip anchor = [] ∧ Text.isBlank line = false) ∨
        (Decoration.strip anchor ≠ [] ∧ Decoration.strip anchor <:+: Decoration.strip line) := by
  unfold shows
  cases hwords : Decoration.strip anchor with
  | nil => simp
  | cons c cs => simp [Text.occursIn_iff_isInfix]

theorem showsAt_iff_matches {x : LineIndex} {anchor : Text} {i : Nat} :
    showsAt x anchor i = true ↔ Matches x anchor i := by
  unfold showsAt Matches
  simp only [Option.any_eq_true, shows_iff]

theorem matches_of_scan {x : LineIndex} {anchor : Text} {hint i : Nat}
    (h : scan x anchor hint = some i) :
    Matches x anchor i ∧ ∀ j, hint ≤ j → j < i → ¬Matches x anchor j := by
  obtain ⟨-, hshow, hbefore⟩ := (scan_eq_some_iff x anchor hint i).mp h
  refine ⟨showsAt_iff_matches.mp hshow, fun j hj hlt hmatch => ?_⟩
  rw [← showsAt_iff_matches, hbefore j hj hlt] at hmatch
  cases hmatch

theorem not_matches_of_scan {x : LineIndex} {anchor : Text} {hint : Nat}
    (h : scan x anchor hint = none) : ∀ j, hint ≤ j → ¬Matches x anchor j := by
  intro j hj hmatch
  rw [← showsAt_iff_matches, (scan_eq_none_iff x anchor hint).mp h j hj] at hmatch
  cases hmatch

end Locator

/-! ## One search -/

namespace Placed

/-- What a search with a hint inside the document does: it finds the least line that matches, and a
last line inside the document, or it finds nothing and leaves the hint. -/
structure Advances (x : LineIndex) (p : Placed) : Prop where
  next_le : p.next x ≤ x.count
  found : ∀ start stop, p.lines? x = some (start, stop) →
    p.hint ≤ start ∧ stop < x.count ∧ p.next x = stop + 1 ∧ x.isBlank start = false ∧
      Locator.Matches x p.block.anchor start ∧
      ∀ i, p.hint ≤ i → i < start → ¬Locator.Matches x p.block.anchor i
  missed : p.found = none → p.next x = p.hint ∧
    ∀ i, p.hint ≤ i → ¬Locator.Matches x p.block.anchor i

theorem advances_of_scan {x : LineIndex} {p : Placed}
    (hp : p.found = Locator.scan x p.block.anchor p.hint) (hhint : p.hint ≤ x.count) :
    p.Advances x where
  next_le := by
    cases hlines : p.lines? x with
    | none =>
      rw [next, Option.map_eq_none_iff.mp hlines]
      exact hhint
    | some lines =>
      obtain ⟨-, -, hstop, hnext⟩ := lines?_of_scan hp hlines
      omega
  found := by
    intro start stop hlines
    obtain ⟨hle, hcontent, hstop, hnext⟩ := lines?_of_scan hp hlines
    have hfound := ((lines?_eq_some_iff _ _ _ _).mp hlines).1
    exact ⟨hle, hstop, hnext, hcontent, Locator.matches_of_scan (hp.symm.trans hfound)⟩
  missed := by
    intro hfound
    refine ⟨?_, Locator.not_matches_of_scan (hp.symm.trans hfound)⟩
    rw [next, hfound]

/-- At the end of the document nothing is found any more. -/
theorem found_eq_none {x : LineIndex} {p : Placed}
    (hp : p.found = Locator.scan x p.block.anchor p.hint) (hend : x.count ≤ p.hint) :
    p.found = none := by
  cases hfound : p.found with
  | none => rfl
  | some start =>
    have hscan := hp.symm.trans hfound
    have hle := ((Locator.scan_eq_some_iff _ _ _ _).mp hscan).1
    have hlt := LineIndex.lt_count_of_isBlank (Locator.isBlank_of_scan hscan)
    omega

end Placed

/-! ## A run of searches -/

namespace Layout

variable {x : LineIndex} {hint : Nat} {bs : List Block}

/-- The searches of a run for blocks of a document, from line `hint` on. -/
abbrev run (x : LineIndex) (hint : Nat) (bs : List Block) : List Placed :=
  placeFrom (Locator.forward x) x () hint bs

theorem advances_of_mem_run (hhint : hint ≤ x.count) : ∀ p ∈ run x hint bs, p.Advances x := by
  -- What carries the induction is that a search leaves a hint inside the document again.
  induction bs generalizing hint with
  | nil => exact List.forall_mem_nil _
  | cons b bs ih =>
    have hfirst : Placed.Advances x ⟨b, hint, Locator.scan x b.anchor hint⟩ :=
      Placed.advances_of_scan rfl hhint
    rw [run, placeFrom_forward_cons, List.forall_mem_cons]
    exact ⟨hfirst, ih hfirst.next_le⟩

/-- From the end of the document on, every search misses. -/
theorem missed_of_mem_run (hend : x.count ≤ hint) : ∀ p ∈ run x hint bs, p.found = none := by
  induction bs generalizing hint with
  | nil => exact List.forall_mem_nil _
  | cons b bs ih =>
    have hnone : Locator.scan x b.anchor hint = none :=
      Placed.found_eq_none (p := ⟨b, hint, _⟩) rfl hend
    rw [run, placeFrom_forward_cons, hnone, List.forall_mem_cons]
    exact ⟨rfl, ih hend⟩

theorem pairwise_missed_run :
    (run x hint bs).Pairwise fun p q => p.next x = x.count → q.found = none := by
  induction bs generalizing hint with
  | nil => exact List.Pairwise.nil
  | cons b bs ih =>
    rw [run, placeFrom_forward_cons, List.pairwise_cons]
    exact ⟨fun q hq hend => missed_of_mem_run (Nat.le_of_eq hend.symm) q hq, ih⟩

/-- Each search starts where one before it has ended, or behind. -/
theorem pairwise_run (hspan : ∀ b ∈ bs, 1 ≤ b.span) (hfits : ∀ p ∈ run x hint bs, p.FitsWord x) :
    (run x hint bs).Pairwise fun p q => p.next x ≤ q.hint := by
  induction bs generalizing hint with
  | nil => exact List.Pairwise.nil
  | cons b bs ih =>
    obtain ⟨-, hbs⟩ := List.forall_mem_cons.mp hspan
    rw [run, placeFrom_forward_cons] at hfits ⊢
    obtain ⟨-, hrest⟩ := List.forall_mem_cons.mp hfits
    exact List.pairwise_cons.mpr ⟨hint_le_of_mem_run hbs hrest, ih hbs hrest⟩

/-- No search leaves the next one to start in front of itself. -/
theorem pairwise_hints_run (hspan : ∀ b ∈ bs, 1 ≤ b.span)
    (hfits : ∀ p ∈ run x hint bs, p.FitsWord x) :
    (hint :: (run x hint bs).map (Placed.next x)).Pairwise (· ≤ ·) := by
  induction bs generalizing hint with
  | nil => exact List.pairwise_singleton _ _
  | cons b bs ih =>
    obtain ⟨hb, hbs⟩ := List.forall_mem_cons.mp hspan
    rw [run, placeFrom_forward_cons] at hfits ⊢
    obtain ⟨hfirst, hrest⟩ := List.forall_mem_cons.mp hfits
    have hle := hfirst.hint_le_next hb rfl
    have hhints := ih hbs hrest
    refine List.pairwise_cons.mpr ⟨List.forall_mem_cons.mpr ⟨hle, fun next hnext => ?_⟩, hhints⟩
    exact Nat.le_trans hle ((List.pairwise_cons.mp hhints).1 next hnext)

/-- Blocks are found one behind the other. -/
theorem pairwise_lines_run (hspan : ∀ b ∈ bs, 1 ≤ b.span)
    (hfits : ∀ p ∈ run x hint bs, p.FitsWord x) :
    (run x hint bs).Pairwise fun p q => ∀ start stop start' stop',
      p.lines? x = some (start, stop) → q.lines? x = some (start', stop') → stop < start' := by
  refine (pairwise_run hspan hfits).imp_of_mem fun hp hq hle start stop start' stop' hl hl' => ?_
  obtain ⟨-, -, -, hnext⟩ := Placed.lines?_of_scan (found_of_mem_run hp).2 hl
  obtain ⟨hhint, -, -, -⟩ := Placed.lines?_of_scan (found_of_mem_run hq).2 hl'
  omega

/-- The hints of a run: the first one, and then where each search has left the next one to start. -/
theorem map_hint_run : (run x hint bs).map Placed.hint =
    (hint :: (run x hint bs).map (Placed.next x)).dropLast := by
  induction bs generalizing hint with
  | nil => rfl
  | cons b bs ih =>
    rw [run, placeFrom_forward_cons, List.map_cons, List.map_cons, List.dropLast_cons_cons]
    exact congrArg _ ih

end Layout

namespace Rules

/-- However the blocks of a document with content are given, each is searched once, from the hint
that the search before has left, and no hint exceeds the number of lines. A block that is found lies
behind its hint, and its last line inside the document. It starts on a line with content, which is
the least one from the hint on that matches its anchor. A block is missed if there is no such line,
and leaves the hint. Once the hint is behind the last line, all further blocks are missed. As long
as machine words can number the lines that the blocks span, the hints never decrease, no block ends
in front of its first line, and each lies in front of every block found later; a block that spans
more lines than that ends in front of its first line. -/
theorem searches_march (text file : Text) (exempt : Text → Bool) (bs : List Block)
    (hdoc : (LineIndex.ofText text).isBlankDocument = false) (hspan : ∀ b ∈ bs, 1 ≤ b.span) :
    let x := LineIndex.ofText text
    let ps := (check (Locator.forward x) () exempt file x bs).searches
    let hints := 0 :: ps.map (Placed.next x)
    ps.map Placed.block = bs ∧ ps.map Placed.hint = hints.dropLast ∧
    (∀ hint ∈ hints, hint ≤ x.count) ∧
    (∀ p ∈ ps, ∀ start stop, p.lines? x = some (start, stop) →
      p.hint ≤ start ∧ stop < x.count ∧ x.isBlank start = false ∧
      Locator.Matches x p.block.anchor start ∧
      ∀ i, p.hint ≤ i → i < start → ¬Locator.Matches x p.block.anchor i) ∧
    (∀ p ∈ ps, p.found = none → p.next x = p.hint ∧
      ∀ i, p.hint ≤ i → ¬Locator.Matches x p.block.anchor i) ∧
    (ps.Pairwise fun p q => p.next x = x.count → q.found = none) ∧
    ((∀ p ∈ ps, p.FitsWord x) →
      hints.Pairwise (· ≤ ·) ∧
      (∀ p ∈ ps, ∀ start stop, p.lines? x = some (start, stop) → start ≤ stop) ∧
      ps.Pairwise fun p q => ∀ start stop start' stop',
        p.lines? x = some (start, stop) → q.lines? x = some (start', stop') → stop < start') ∧
    ∀ p ∈ ps, p.block.span ≤ x.wordSize → ¬p.FitsWord x →
      ∃ start stop, p.lines? x = some (start, stop) ∧ stop < start := by
  intro x ps hints
  have hps : ps = Layout.run x 0 bs :=
    congrArg Outcome.searches (check_of_content hdoc _ () exempt file bs)
  have hscan : ∀ p ∈ ps, 0 < p.block.span ∧ p.found = Locator.scan x p.block.anchor p.hint := by
    intro p hp
    obtain ⟨hmem, hfound⟩ := Layout.found_of_mem_run (hps ▸ hp)
    exact ⟨hspan _ hmem, hfound⟩
  have hadvances : ∀ p ∈ ps, p.Advances x := fun p hp =>
    Layout.advances_of_mem_run (Nat.zero_le _) p (hps ▸ hp)
  refine ⟨?_, ?_, ?_, ?_, fun p hp => (hadvances p hp).missed, ?_, fun hfits => ⟨?_, ?_, ?_⟩, ?_⟩
  · rw [hps]
    exact Layout.map_block_placeFrom _ _ _ _ bs
  · simp only [hints, hps]
    exact Layout.map_hint_run
  · refine List.forall_mem_cons.mpr ⟨Nat.zero_le _, List.forall_mem_map.mpr ?_⟩
    exact fun p hp => (hadvances p hp).next_le
  · intro p hp start stop hlines
    obtain ⟨hle, hstop, -, hcontent, hmatch⟩ := (hadvances p hp).found start stop hlines
    exact ⟨hle, hstop, hcontent, hmatch⟩
  · rw [hps]
    exact Layout.pairwise_missed_run
  · simp only [hints, hps]
    exact Layout.pairwise_hints_run hspan (hps ▸ hfits)
  · intro p hp start stop hlines
    obtain ⟨hpos, hfound⟩ := hscan p hp
    exact (hfits p hp).start_le hpos hfound hlines
  · rw [hps]
    exact Layout.pairwise_lines_run hspan (hps ▸ hfits)
  · intro p hp hword hover
    obtain ⟨hpos, hfound⟩ := hscan p hp
    exact Placed.exists_lines?_of_not_fitsWord hover hpos hword hfound

/-- A span that overshoots the document, in front of a block whose anchor stands on its last line and
one without words. Before them a block is missed, and another one found on a line that only quotes
it. -/
theorem searches_march_overshoot :
    let text := "see - b\n\nb\nc".toList
    let bs : List Block := [⟨.other, "missing".toList, 2⟩, ⟨.list false [], "- b".toList, 1⟩,
      ⟨.code .backtick [] false, "# ".toList, 9⟩, ⟨.header 1 [] false, "c".toList, 1⟩,
      ⟨.other, ">".toList, 1⟩]
    let x := LineIndex.ofText text
    let ps := (check (Locator.forward x) () (fun _ => false) [] x bs).searches
    x.isBlankDocument = false ∧ (∀ b ∈ bs, 1 ≤ b.span) ∧ (∀ p ∈ ps, p.FitsWord x) ∧
      ps.map (fun p => (p.hint, p.lines? x)) =
        [(0, none), (0, some (0, 0)), (1, some (2, 3)), (4, none), (4, none)] ∧
      (∀ p ∈ ps, ∀ start stop, p.lines? x = some (start, stop) →
        Locator.Matches x p.block.anchor start ∧ start ≤ stop) ∧
      ps.Pairwise fun p q => p.next x = x.count → q.found = none := by
  intro text bs x ps
  have hdoc : x.isBlankDocument = false := by decide
  have hspan : ∀ b ∈ bs, 1 ≤ b.span := by decide
  have hfits : ∀ p ∈ ps, p.FitsWord x := by decide
  obtain ⟨-, -, -, hfound, -, hend, hmarch, -⟩ :=
    searches_march text [] (fun _ => false) bs hdoc hspan
  refine ⟨hdoc, hspan, hfits, by decide, fun p hp start stop hlines => ?_, hend⟩
  obtain ⟨-, -, -, hmatch, -⟩ := hfound p hp start stop hlines
  exact ⟨hmatch, (hmarch hfits).2.1 p hp start stop hlines⟩

/-- A block that spans as many lines as the largest machine word ends in front of its first line,
and the next block is found on the same line. -/
theorem searches_turn_back_of_maxWord :
    let bs : List Block :=
      [⟨.paragraph ['c'], ['c'], LineIndex.maxWord⟩, ⟨.paragraph ['c'], ['c'], 1⟩]
    let x := LineIndex.ofText "a\nb\nc".toList
    let ps := (check (Locator.forward x) () (fun _ => false) [] x bs).searches
    x.isBlankDocument = false ∧ (∀ b ∈ bs, 1 ≤ b.span) ∧
      ps.map (fun p => (p.hint, p.lines? x)) = [(0, some (2, 0)), (1, some (2, 2))] := by
  decide

end Rules

end DocLint
