import DocLint.Proofs.Findings
import DocLint.Proofs.LineRanges

/-!
# Blank margins

Blank lines in front of a document, and white space behind it, do not change what is found. A check
of the document with such margins makes the same searches, with the answers moved down by the lines
in front, and says the same about the lines it finds, as far down as they are moved. The two checks
need not search from the same lines: it is enough that the same lines with content lie ahead. Only a
block whose last line is moved past the largest machine word is cut off elsewhere than before.
-/

namespace DocLint

/-- The finding `k` lines further down. A finding about the file as a whole stays where it is. -/
def Diagnostic.shift (k : Nat) (d : Diagnostic) : Diagnostic :=
  { d with line := if d.line = 0 then 0 else d.line + k }

theorem Diagnostic.shift_zero (d : Diagnostic) : d.shift 0 = d := by
  obtain ⟨rule, line, message, severity⟩ := d
  cases line <;> rfl

theorem Rule.shift_finding (r : Rule) (file : Text) (k : Nat) {line : Nat} (h : 0 < line) :
    (r.finding file line).shift k = r.finding file (k + line) := by
  simp only [Rule.finding, Diagnostic.shift, Nat.ne_of_gt h, if_false, Nat.add_comm line k]

namespace LineIndex

theorem isBlankDocument_iff (x : LineIndex) :
    x.isBlankDocument = true ↔ ∀ i, x.isBlank i = true := by
  rw [isBlankDocument, List.all_eq_true]
  constructor
  · intro h i
    cases hl : x.line? i with
    | none => exact isBlank_of_line?_none hl
    | some l =>
      rw [isBlank_eq_of_line? hl]
      exact h l (List.mem_of_getElem? hl)
  · intro h l hl
    obtain ⟨i, hi⟩ := List.getElem?_of_mem hl
    rw [← isBlank_eq_of_line? (x := x) hi]
    exact h i

/-- The lines of `y` are `k` blank lines, the lines of `x` up to the white space around them, and
blank lines behind these. -/
structure Margins (k : Nat) (x y : LineIndex) : Prop where
  front : ∀ i < k, y.isBlank i = true
  line : ∀ i l, x.line? i = some l → ∃ m, y.line? (k + i) = some m ∧ Text.trim m = Text.trim l
  behind : ∀ i, x.line? i = none → y.isBlank (k + i) = true

namespace Margins

variable {k : Nat} {x y : LineIndex}

theorem isBlank_add (h : Margins k x y) (i : Nat) : y.isBlank (k + i) = x.isBlank i := by
  cases hl : x.line? i with
  | none => rw [h.behind i hl, isBlank_of_line?_none hl]
  | some l =>
    obtain ⟨m, hm, htrim⟩ := h.line i l hl
    rw [isBlank_eq_of_line? hl, isBlank_eq_of_line? hm, Text.isBlank_eq_of_trim_eq htrim]

theorem showsAt_add (h : Margins k x y) (needle : Text) (i : Nat) :
    Locator.showsAt y needle (k + i) = Locator.showsAt x needle i := by
  cases hl : x.line? i with
  | none =>
    rw [Locator.showsAt_of_isBlank needle (h.behind i hl), Locator.showsAt, hl]
    rfl
  | some l =>
    obtain ⟨m, hm, htrim⟩ := h.line i l hl
    rw [Locator.showsAt_of_line? hl, Locator.showsAt_of_line? hm, Locator.shows, Locator.shows,
      Decoration.strip_eq_of_trim_eq htrim, Text.isBlank_eq_of_trim_eq htrim]

theorem isBlankDocument_eq (h : Margins k x y) : y.isBlankDocument = x.isBlankDocument := by
  rw [Bool.eq_iff_iff, isBlankDocument_iff, isBlankDocument_iff]
  constructor
  · intro hy i
    rw [← h.isBlank_add]
    exact hy (k + i)
  · intro hx i
    by_cases hi : i < k
    · exact h.front i hi
    · rw [← Nat.add_sub_cancel' (Nat.le_of_not_lt hi), h.isBlank_add]
      exact hx (i - k)

theorem add_lt_count (h : Margins k x y) {i : Nat} (hi : i < x.count) : k + i < y.count := by
  obtain ⟨m, hm, -⟩ := h.line i x.lines[i] (List.getElem?_eq_getElem hi)
  exact (List.getElem?_eq_some_iff.mp hm).1

/-- The line before a block is where it was, or in the margin. -/
theorem content_before (h : Margins k x y) (start : Nat) :
    (decide (0 < k + start) && !y.isBlank (k + start - 1)) =
      (decide (0 < start) && !x.isBlank (start - 1)) := by
  by_cases hstart : 0 < start
  · rw [Nat.add_sub_assoc hstart, h.isBlank_add, decide_eq_true hstart,
      decide_eq_true (show 0 < k + start by omega)]
  · obtain rfl : start = 0 := by omega
    by_cases hk : 0 < k
    · rw [h.front (k + 0 - 1) (by omega)]
      simp
    · obtain rfl : k = 0 := by omega
      rfl

theorem contentEnd_le (h : Margins k x y) : x.contentEnd ≤ y.contentEnd := by
  rw [contentEnd_le_iff]
  intro i hi
  rw [← h.isBlank_add]
  exact (y.contentEnd_le_iff _).mp (Nat.le_refl _) (k + i) (Nat.le_trans hi (Nat.le_add_left i k))

theorem contentEnd_le_add (h : Margins k x y) : y.contentEnd ≤ k + x.contentEnd := by
  rw [contentEnd_le_iff]
  intro i hi
  rw [← Nat.add_sub_cancel' (Nat.le_trans (Nat.le_add_right k _) hi), h.isBlank_add]
  exact (x.contentEnd_le_iff _).mp (Nat.le_refl _) (i - k) (Nat.le_sub_of_add_le' hi)

/-- Blank lines in front take no more positions than they have. -/
theorem wordSize_le_add (h : Margins k x y) : y.wordSize ≤ k + x.wordSize := by
  have hend := h.contentEnd_le_add
  unfold wordSize
  omega

/-- Without blank lines in front the machine words are the same. -/
theorem wordSize_eq {y : LineIndex} (h : Margins 0 x y) : y.wordSize = x.wordSize := by
  have hle := h.contentEnd_le
  have hge := h.contentEnd_le_add
  unfold wordSize
  omega

/-- The last lines of a block differ only where nothing but blank lines follows. -/
theorem lastLine_add (h : Margins k x y) {start : Nat} (hstart : x.isBlank start = false)
    {b : Block} (hreach : Placed.reach y (k + start) b = k + Placed.reach x start b) :
    Placed.lastLine y (k + start) b = k + Placed.lastLine x start b ∨
      x.isBlank (Placed.lastLine x start b + 1) = true ∧
        y.isBlank (Placed.lastLine y (k + start) b + 1) = true := by
  have hlt := lt_count_of_isBlank hstart
  have hlast := h.add_lt_count (show x.count - 1 < x.count by omega)
  unfold Placed.lastLine
  rw [hreach]
  by_cases hfits : Placed.reach x start b < x.count
  · left
    omega
  · right
    -- Both blocks reach the last line of `x`, or beyond.
    have hblank : ∀ i, x.count ≤ i → x.isBlank i = true :=
      fun i hi => isBlank_of_line?_none (List.getElem?_eq_none hi)
    refine ⟨hblank _ (by omega), ?_⟩
    obtain ⟨i, hi⟩ : ∃ i, min (k + Placed.reach x start b) (y.count - 1) + 1 = k + i :=
      ⟨min (k + Placed.reach x start b) (y.count - 1) + 1 - k, by omega⟩
    rw [hi, h.isBlank_add]
    exact hblank i (by omega)

theorem isBlank_behind (h : Margins k x y) {start : Nat} (hstart : x.isBlank start = false)
    {b : Block} (hreach : Placed.reach y (k + start) b = k + Placed.reach x start b) :
    y.isBlank (Placed.lastLine y (k + start) b + 1) =
      x.isBlank (Placed.lastLine x start b + 1) := by
  rcases h.lastLine_add hstart hreach with heq | ⟨hx, hy⟩
  · rw [heq, Nat.add_assoc, h.isBlank_add]
  · rw [hx, hy]

/-- A line with content has its number in both documents. -/
theorem wordAdd_one (h : Margins k x y) {start : Nat} (hstart : x.isBlank start = false) :
    y.wordAdd (k + start) 1 = k + x.wordAdd start 1 := by
  rw [LineIndex.wordAdd_one hstart, LineIndex.wordAdd_one ((h.isBlank_add start).trans hstart),
    Nat.add_assoc]

/-- A block whose last line is a machine word in `y` spans the same lines in both documents. -/
theorem reach_add (h : Margins k x y) {start : Nat} {b : Block} (hspan : 0 < b.span)
    (hfits : k + start + b.span ≤ y.wordSize) :
    Placed.reach y (k + start) b = k + Placed.reach x start b := by
  have hle := h.wordSize_le_add
  rw [Placed.reach_of_le hspan hfits, Placed.reach_of_le hspan (by omega)]
  omega

end Margins

/-! ## The searches -/

/-- Hints from which the same lines with content lie ahead. -/
def Aligned (k : Nat) (x : LineIndex) (hint hint' : Nat) : Prop :=
  ∀ i, x.isBlank i = false → (hint ≤ i ↔ hint' ≤ k + i)

variable {k : Nat} {x y : LineIndex} {hint hint' : Nat}

/-- A line that does not show the needle in `x`, or is not in `x`, does not show it in `y`. -/
theorem Margins.showsAt_eq_false (h : Margins k x y) (hhint : Aligned k x hint hint')
    {needle : Text} {j : Nat} (hj : hint' ≤ j)
    (hno : ∀ i, hint ≤ i → j = k + i → Locator.showsAt x needle i = false) :
    Locator.showsAt y needle j = false := by
  by_cases hfront : j < k
  · exact Locator.showsAt_of_isBlank needle (h.front j hfront)
  · obtain ⟨i, rfl⟩ : ∃ i, j = k + i := ⟨j - k, by omega⟩
    rw [h.showsAt_add]
    cases hblank : x.isBlank i with
    | true => exact Locator.showsAt_of_isBlank needle hblank
    | false => exact hno i ((hhint i hblank).mpr hj) rfl

theorem Margins.scan_eq (h : Margins k x y) (hhint : Aligned k x hint hint') (needle : Text) :
    Locator.scan y needle hint' = (Locator.scan x needle hint).map (k + ·) := by
  cases hscan : Locator.scan x needle hint with
  | none =>
    rw [Option.map_none, Locator.scan_eq_none_iff]
    rw [Locator.scan_eq_none_iff] at hscan
    exact fun j hj => h.showsAt_eq_false hhint hj fun i hi _ => hscan i hi
  | some s =>
    rw [Option.map_some, Locator.scan_eq_some_iff]
    obtain ⟨hle, hshow, hbefore⟩ := (Locator.scan_eq_some_iff _ _ _ _).mp hscan
    refine ⟨(hhint s (Locator.isBlank_of_showsAt hshow)).mp hle, ?_, ?_⟩
    · rw [h.showsAt_add, hshow]
    · intro j hj hlt
      exact h.showsAt_eq_false hhint hj fun i hi hij => hbefore i hi (by omega)

/-- A step of the searches: the hints behind a block are aligned again, though the block may end
further down in `y` if it overshoots the lines of `x`. -/
theorem Margins.aligned_next (h : Margins k x y) (hhint : Aligned k x hint hint') {b : Block}
    (hreach : ∀ start, Locator.scan x b.anchor hint = some start →
      Placed.reach y (k + start) b = k + Placed.reach x start b) :
    Aligned k x (Placed.next x ⟨b, hint, Locator.scan x b.anchor hint⟩)
      (Placed.next y ⟨b, hint', Locator.scan y b.anchor hint'⟩) := by
  rw [h.scan_eq hhint]
  cases hscan : Locator.scan x b.anchor hint with
  | none => exact hhint
  | some s =>
    intro i hi
    -- Line `i` lies in both documents, so cutting a block off at the last line never skips it.
    have hlt := lt_count_of_isBlank hi
    have hlt' := h.add_lt_count hlt
    simp only [Placed.next, Option.map_some, Placed.lastLine, hreach s hscan]
    omega

end LineIndex

/-! ## The findings -/

theorem Layout.isEmpty_placeFrom (l : Locator σ) (x : LineIndex) (state : σ) (hint : Nat)
    (bs : List Block) : (placeFrom l x state hint bs).isEmpty = bs.isEmpty := by
  cases bs <;> rfl

namespace Rules

section Findings

variable {k : Nat} {x y : LineIndex} (h : x.Margins k y) {exempt : Text → Bool} {file : Text}
  {isFirst isLast : Bool} {b : Block} (hint hint' : Nat) {found : Option Nat}

include h

/-- The finding on the first line of a block, or on line 0 for a block that was not found. -/
theorem shift_finding_startLine (r : Rule) (hfound : ∀ start ∈ found, x.isBlank start = false) :
    (r.finding file (Placed.startLine x ⟨b, hint, found⟩)).shift k =
      r.finding file (Placed.startLine y ⟨b, hint', found.map (k + ·)⟩) := by
  cases found with
  | none => rfl
  | some start =>
    have hpos : 0 < x.wordAdd start 1 := by
      rw [LineIndex.wordAdd_one (hfound start rfl)]
      exact Nat.succ_pos start
    show (r.finding file (x.wordAdd start 1)).shift k = r.finding file (y.wordAdd (k + start) 1)
    rw [r.shift_finding file k hpos, h.wordAdd_one (hfound start rfl)]

theorem surroundings_shift (before after : Rule) (hfound : ∀ start ∈ found, x.isBlank start = false)
    (hreach : ∀ start ∈ found, Placed.reach y (k + start) b = k + Placed.reach x start b) :
    surroundings y file before after isFirst isLast
        (Placed.lines? y ⟨b, hint', found.map (k + ·)⟩) =
      (surroundings x file before after isFirst isLast
        (Placed.lines? x ⟨b, hint, found⟩)).map (Diagnostic.shift k) := by
  cases found with
  | none => rfl
  | some start =>
    simp only [Placed.lines?, Option.map_some, surroundings, List.map_append]
    congr 1
    · rw [Bool.and_assoc, Bool.and_assoc, h.content_before]
      split
      · next hcond =>
        simp only [Bool.and_eq_true, decide_eq_true_eq] at hcond
        rw [List.map_singleton, before.shift_finding file k hcond.2.1]
      · rfl
    · rcases h.lastLine_add (hfound start rfl) (hreach start rfl) with heq | ⟨hx, hy⟩
      · rw [heq, Nat.add_assoc, h.isBlank_add, Nat.add_assoc]
        split
        · rw [List.map_singleton, after.shift_finding file k (Nat.succ_pos _)]
        · rfl
      · rw [hx, hy]
        simp only [Bool.not_true, Bool.and_false, Bool.false_eq_true, if_false, List.map_nil]

theorem ofBlock_shift (hfound : ∀ start ∈ found, x.isBlank start = false)
    (hreach : ∀ start ∈ found, Placed.reach y (k + start) b = k + Placed.reach x start b) :
    ofBlock y exempt file isFirst isLast ⟨b, hint', found.map (k + ·)⟩ =
      (ofBlock x exempt file isFirst isLast ⟨b, hint, found⟩).map (Diagnostic.shift k) := by
  have hstart : ∀ r : Rule, (r.finding file (Placed.startLine x ⟨b, hint, found⟩)).shift k =
      r.finding file (Placed.startLine y ⟨b, hint', found.map (k + ·)⟩) :=
    fun r => shift_finding_startLine h hint hint' r hfound
  simp only [ofBlock, ← hstart]
  cases b.kind with
  | header level text isLink =>
    -- The last header is judged by its words, the others by the line behind them.
    cases isLast with
    | true => simp only [if_true, apply_ite (List.map _), List.map_singleton, List.map_nil]
    | false =>
      cases found with
      | none => rfl
      | some start =>
        have hfinding := hstart .headerBlankLine
        simp only [Placed.startLine, Option.map_some] at hfinding
        simp only [Placed.lines?, Option.map_some,
          h.isBlank_behind (hfound start rfl) (hreach start rfl), apply_ite (List.map _),
          List.map_singleton, List.map_nil, hfinding]
  | list ordered items => exact surroundings_shift h hint hint' _ _ hfound hreach
  | code fence body closed =>
    simp only [surroundings_shift h hint hint' _ _ hfound hreach, List.map_append,
      apply_ite (List.map _), List.map_singleton, List.map_nil]
  | paragraph text => rfl
  | other => rfl

/-- The findings of a run of searches whose blocks span the same lines in both documents. -/
theorem ofBlocks_shift {hint hint' : Nat} (hhint : x.Aligned k hint hint') {bs : List Block}
    (hreach : ∀ p ∈ Layout.placeFrom (Locator.forward y) y () hint' bs, ∀ start,
      p.found = some (k + start) →
        Placed.reach y (k + start) p.block = k + Placed.reach x start p.block) :
    ofBlocks y exempt file isFirst (Layout.placeFrom (Locator.forward y) y () hint' bs) =
      (ofBlocks x exempt file isFirst
        (Layout.placeFrom (Locator.forward x) x () hint bs)).map (Diagnostic.shift k) := by
  -- The hints need not stay `k` lines apart: past the content of `x` they are only aligned.
  induction bs generalizing hint hint' isFirst with
  | nil => rfl
  | cons b bs ih =>
    rw [Layout.placeFrom_forward_cons] at hreach
    obtain ⟨hfirst, hrest⟩ := List.forall_mem_cons.mp hreach
    have hfound : ∀ start ∈ Locator.scan x b.anchor hint, x.isBlank start = false :=
      fun start hstart => Locator.isBlank_of_scan hstart
    have hb : ∀ start ∈ Locator.scan x b.anchor hint,
        Placed.reach y (k + start) b = k + Placed.reach x start b := fun start hstart =>
      hfirst start ((h.scan_eq hhint b.anchor).trans (congrArg (Option.map (k + ·)) hstart))
    rw [Layout.placeFrom_forward_cons, Layout.placeFrom_forward_cons, ofBlocks, ofBlocks,
      List.map_append, ih (h.aligned_next hhint hb) hrest, Layout.isEmpty_placeFrom,
      Layout.isEmpty_placeFrom, ← ofBlock_shift h hint hint' hfound hb, ← h.scan_eq hhint]

theorem findings_shift {bs : List Block}
    (hreach : ∀ p ∈ (check (Locator.forward y) () exempt file y bs).searches, ∀ start,
      p.found = some (k + start) →
        Placed.reach y (k + start) p.block = k + Placed.reach x start p.block) :
    (check (Locator.forward y) () exempt file y bs).findings =
      (check (Locator.forward x) () exempt file x bs).findings.map (Diagnostic.shift k) := by
  have hdoc := h.isBlankDocument_eq
  cases hblank : x.isBlankDocument with
  | true =>
    simp only [check, hdoc, hblank, if_true]
    rfl
  | false =>
    -- Both searches start on line 0: the margin in front holds nothing to be found.
    have hhint : x.Aligned k 0 0 := fun i _ => ⟨fun _ => Nat.zero_le _, fun _ => Nat.zero_le i⟩
    rw [check_of_content (hdoc.trans hblank)] at hreach ⊢
    rw [check_of_content hblank]
    exact ofBlocks_shift h hhint hreach

end Findings

end Rules

/-! ## Blank lines in front -/

/-- The lines, each with a line feed behind it. -/
def Text.unlines (ls : List Text) : Text :=
  ls.flatMap (· ++ Terminator.lf.text)

theorem Text.lines_unlines_append {ls : List Text} (h : ∀ l ∈ ls, ∀ c ∈ l, Line.isBreak c = false)
    (t : Text) : lines (unlines ls ++ t) = ls ++ lines t := by
  induction ls with
  | nil => rfl
  | cons l ls ih =>
    obtain ⟨hl, hls⟩ := List.forall_mem_cons.mp h
    have hcons : unlines (l :: ls) ++ t = l ++ (Terminator.lf.text ++ (unlines ls ++ t)) := by
      simp only [unlines, List.flatMap_cons, List.append_assoc]
    rw [hcons, lines_append_terminator hl .lf nofun, ih hls]
    rfl

theorem Text.isBlank_unlines {ls : List Text} (h : ∀ l ∈ ls, isBlank l = true) :
    isBlank (unlines ls) = true := by
  rw [isBlank_iff]
  intro c hc
  obtain ⟨l, hl, hc⟩ := List.mem_flatMap.mp hc
  rcases List.mem_append.mp hc with hc | hc
  · exact (isBlank_iff l).mp (h l hl) c hc
  · rw [List.mem_singleton.mp hc]
    rfl

/-- The byte order mark is not white space. -/
theorem Text.hasMark_append_of_isBlank {b t : Text} (hb : isBlank b = true)
    (ht : t.hasMark = false) : hasMark (b ++ t) = false := by
  cases b with
  | nil => exact ht
  | cons c cs =>
    have hc := (isBlank_iff _).mp hb c List.mem_cons_self
    refine beq_eq_false_iff_ne.mpr ?_
    rintro rfl
    cases hc

theorem LineIndex.margins_append {ls : List Text} (h : ∀ l ∈ ls, Text.isBlank l = true)
    (ms : List Text) : Margins ls.length ⟨ms⟩ ⟨ls ++ ms⟩ where
  front i hi := by
    have hl : line? ⟨ls ++ ms⟩ i = some ls[i] := by
      rw [line?, List.getElem?_append_left hi, List.getElem?_eq_getElem hi]
    rw [isBlank_eq_of_line? hl]
    exact h _ (List.getElem_mem hi)
  line i l hl := by
    refine ⟨l, ?_, rfl⟩
    rw [line?, List.getElem?_append_right (Nat.le_add_right _ _), Nat.add_sub_cancel_left]
    exact hl
  behind i hi := by
    apply isBlank_of_line?_none
    rw [line?, List.getElem?_append_right (Nat.le_add_right _ _), Nat.add_sub_cancel_left]
    exact hi

/-- Blank lines in front of a document move its findings down and change nothing else, unless they
move the last line of a block past the largest machine word. -/
theorem Rules.findings_below_blank_lines (t file : Text) (exempt : Text → Bool) (bs : List Block)
    (ls : List Text) (hmark : t.hasMark = false)
    (hls : ∀ l ∈ ls, Text.isBlank l = true ∧ ∀ c ∈ l, Line.isBreak c = false)
    (hspan : ∀ b ∈ bs, 1 ≤ b.span) :
    let x := LineIndex.ofText t
    let y := LineIndex.ofText (Text.unlines ls ++ t)
    (∀ p ∈ (check (Locator.forward y) () exempt file y bs).searches, p.FitsWord y) →
    (check (Locator.forward y) () exempt file y bs).findings =
      (check (Locator.forward x) () exempt file x bs).findings.map
        (Diagnostic.shift ls.length) := by
  intro x y hfits
  have hblank : ∀ l ∈ ls, Text.isBlank l = true := fun l hl => (hls l hl).1
  have hfront := Text.hasMark_append_of_isBlank (Text.isBlank_unlines hblank) hmark
  have hlines : y.lines = ls ++ x.lines := by
    show Text.lines (Text.withoutMark _) = ls ++ Text.lines (Text.withoutMark _)
    rw [Text.withoutMark_of_hasMark hmark, Text.withoutMark_of_hasMark hfront,
      Text.lines_unlines_append fun l hl => (hls l hl).2]
  have hmargins : x.Margins ls.length y := by
    have h := LineIndex.margins_append hblank x.lines
    rwa [← hlines] at h
  refine findings_shift hmargins fun p hp start hstart => ?_
  exact hmargins.reach_add (hspan _ (mem_of_mem_searches hp)) (hfits p hp _ hstart)

/-- Three blank lines in front, one of them empty, of blocks that touch, a block that is not found
and one that overshoots the document. -/
theorem Rules.findings_below_blank_lines_touching :
    let t : Text := "# T\n- a\nb".toList
    let ls : List Text := [[' '], [], ['\u3000', '\t']]
    let bs : List Block := [⟨.header 1 ['T'] false, "# T".toList, 1⟩,
      ⟨.list false [], "- a".toList, 1⟩, ⟨.code .tilde [] false, "~~~".toList, 2⟩,
      ⟨.header 2 ['b'] false, ['b'], 9⟩]
    let x := LineIndex.ofText t
    let y := LineIndex.ofText (Text.unlines ls ++ t)
    t.hasMark = false ∧ (∀ l ∈ ls, Text.isBlank l = true ∧ ∀ c ∈ l, Line.isBreak c = false) ∧
      (∀ b ∈ bs, 1 ≤ b.span) ∧ Text.unlines ls ++ t = " \n\n\u3000\t\n# T\n- a\nb".toList ∧
      (∀ p ∈ (check (Locator.forward y) () (fun _ => false) [] y bs).searches, p.FitsWord y) ∧
      (check (Locator.forward x) () (fun _ => false) [] x bs).findings.map Diagnostic.line =
        [1, 1, 3, 0, 3] ∧
      (check (Locator.forward y) () (fun _ => false) [] y bs).findings.map Diagnostic.line =
        [4, 4, 6, 0, 6] := by
  intro t ls bs x y
  have hmark : t.hasMark = false := by decide
  have hls : ∀ l ∈ ls, Text.isBlank l = true ∧ ∀ c ∈ l, Line.isBreak c = false := by
    simp only [ls, List.forall_mem_cons, List.not_mem_nil, false_implies, implies_true]
    decide
  have hspan : ∀ b ∈ bs, 1 ≤ b.span := by decide
  have hfits : ∀ p ∈ (check (Locator.forward y) () (fun _ => false) [] y bs).searches,
      p.FitsWord y := by decide
  refine ⟨hmark, hls, hspan, by decide, hfits, by decide, ?_⟩
  rw [findings_below_blank_lines t [] (fun _ => false) bs ls hmark hls hspan hfits]
  decide

/-- A header that spans as many lines as the largest machine word takes the header below it, so that
only this one, which is not found, is reported. Two blank lines in front move the last line of the
first header past the largest word, and the other header is found. -/
theorem Rules.findings_differ_below_blank_lines :
    let t : Text := "# a\n# b".toList
    let bs : List Block := [⟨.header 1 ['a'] false, "# a".toList, LineIndex.maxWord⟩,
      ⟨.header 1 ['b'] false, "# b".toList, 1⟩]
    let x := LineIndex.ofText t
    let y := LineIndex.ofText (Text.unlines [[], []] ++ t)
    t.hasMark = false ∧ (∀ b ∈ bs, 1 ≤ b.span) ∧
      (check (Locator.forward x) () (fun _ => false) [] x bs).findings =
        [Rule.headerAtEnd.finding [] 0] ∧
      (check (Locator.forward y) () (fun _ => false) [] y bs).findings =
        [Rule.headerAtEnd.finding [] 4] := by
  decide

/-! ## White space behind -/

namespace Text

/-- The lines of `ms` are those of `ls` with white space behind them, and blank lines. -/
inductive Widened : List Text → List Text → Prop where
  | nil {ms : List Text} (h : ∀ m ∈ ms, isBlank m = true) : Widened [] ms
  | cons {ls ms : List Text} (l : Text) {b : Text} (hb : isBlank b = true) (h : Widened ls ms) :
      Widened (l :: ls) ((l ++ b) :: ms)

theorem isBlank_of_mem_lines {w : Text} (hw : isBlank w = true) :
    ∀ l ∈ lines w, isBlank l = true := by
  intro l hl
  obtain ⟨m, hm, rfl⟩ := List.mem_map.mp hl
  rw [isBlank_iff] at hw ⊢
  intro c hc
  apply hw
  rw [← Line.join_split w]
  exact List.mem_flatMap.mpr ⟨m, hm, List.mem_append_left _ hc⟩

theorem Widened.push (c : Char) {ls ms : List Line}
    (h : Widened (ls.map Line.text) (ms.map Line.text)) :
    Widened ((Line.push c ls).map Line.text) ((Line.push c ms).map Line.text) := by
  cases ls with
  | nil =>
    -- The text ended here, so the first line of `ms` is all white space behind `c`.
    cases h with
    | nil h =>
      cases ms with
      | nil => exact .cons [c] rfl (.nil nofun)
      | cons m ms =>
        obtain ⟨hm, hms⟩ := List.forall_mem_cons.mp h
        exact .cons [c] hm (.nil hms)
  | cons l ls =>
    cases ms with
    | nil => cases h
    | cons m ms =>
      rw [List.map_cons, List.map_cons] at h
      generalize hm : m.text = text at h
      cases h with
      | cons l hb h =>
        show Widened _ ((c :: m.text) :: _)
        rw [hm]
        exact .cons (c :: l.text) hb h

theorem widened_lines (t : Text) {w : Text} (hw : isBlank w = true) :
    Widened (lines t) (lines (t ++ w)) := by
  -- From the front, so that the line that `w` continues is the last to be pushed to.
  unfold lines
  fun_induction Line.split t with
  | case1 => exact .nil (isBlank_of_mem_lines hw)
  | case2 cs ih => exact .cons [] rfl ih
  | case3 cs hlf ih =>
    by_cases hhead : (cs ++ w).head? = some '\n'
    · -- The carriage return was the last character, and takes the line feed of `w`.
      cases cs with
      | nil =>
        cases w with
        | nil => cases hhead
        | cons d v =>
          cases hhead
          exact .cons [] rfl (.nil (isBlank_of_mem_lines (w := v) hw))
      | cons d ds =>
        cases hhead
        exact absurd rfl (hlf ds)
    · have hsplit := Line.split_append_terminator (List.forall_mem_nil _) .cr fun _ => hhead
      rw [List.nil_append] at hsplit
      show Widened _ ((Line.split (Terminator.cr.text ++ (cs ++ w))).map Line.text)
      rw [hsplit]
      exact .cons [] rfl ih
  | case4 cs ih => exact .cons [] rfl ih
  | case5 c cs hcrlf hcr hlf ih =>
    have hc : Line.isBreak c = false := (Line.isBreak_eq_false_iff c).mpr ⟨hlf, hcr⟩
    rw [List.cons_append, Line.split_cons_of_isBreak hc]
    exact ih.push c

theorem withoutMark_append (t : Text) {w : Text} (hw : isBlank w = true) :
    withoutMark (t ++ w) = withoutMark t ++ w := by
  cases t with
  | cons c cs =>
    rw [List.cons_append, withoutMark, withoutMark]
    split <;> rfl
  | nil =>
    have hmark := hasMark_append_of_isBlank hw (t := []) rfl
    rw [List.append_nil] at hmark
    exact withoutMark_of_hasMark hmark

end Text

theorem LineIndex.margins_of_widened {ls ms : List Text} (h : Text.Widened ls ms) :
    Margins 0 ⟨ls⟩ ⟨ms⟩ where
  front i hi := absurd hi (Nat.not_lt_zero i)
  line i l hl := by
    rw [Nat.zero_add]
    induction h generalizing i with
    | nil h => cases hl
    | cons l hb h ih =>
      cases i with
      | zero =>
        cases hl
        exact ⟨_, rfl, Text.trim_append_of_isBlank hb l⟩
      | succ i => exact ih i hl
  behind i hi := by
    rw [Nat.zero_add]
    induction h generalizing i with
    | nil h => exact (isBlankDocument_iff _).mp (List.all_eq_true.mpr h) i
    | cons l hb h ih =>
      cases i with
      | zero => cases hi
      | succ i => exact ih i hi

/-- White space at the end of a document changes none of its findings. -/
theorem Rules.findings_append_white (t w file : Text) (exempt : Text → Bool) (bs : List Block)
    (hw : Text.isBlank w = true) :
    let x := LineIndex.ofText t
    let y := LineIndex.ofText (t ++ w)
    (check (Locator.forward y) () exempt file y bs).findings =
      (check (Locator.forward x) () exempt file x bs).findings := by
  intro x y
  have hmargins : x.Margins 0 y := by
    have h := LineIndex.margins_of_widened (Text.widened_lines t.withoutMark hw)
    rwa [← Text.withoutMark_append t hw] at h
  have hshift : Diagnostic.shift 0 = id := funext Diagnostic.shift_zero
  have hreach : ∀ (start : Nat) (b : Block),
      Placed.reach y (0 + start) b = 0 + Placed.reach x start b := by
    intro start b
    rw [Nat.zero_add, Nat.zero_add, Placed.reach_congr hmargins.wordSize_eq]
  rw [findings_shift hmargins fun p _ start _ => hreach start p.block, hshift, List.map_id]

/-- A carriage return that takes the line feed behind it, blank lines that a block reaches into, and
a block that is not found. -/
theorem Rules.findings_append_white_overshoot :
    let t : Text := "- a\nb\r".toList
    let w : Text := "\n \u3000\r\r\n".toList
    let bs : List Block := [⟨.list false [], "- a".toList, 1⟩,
      ⟨.code .backtick [] false, ['b'], 3⟩, ⟨.header 1 [] false, "c".toList, 1⟩]
    let x := LineIndex.ofText t
    let y := LineIndex.ofText (t ++ w)
    Text.isBlank w = true ∧ x.count = 2 ∧ y.count = 4 ∧
      (check (Locator.forward x) () (fun _ => false) [] x bs).findings.map Diagnostic.line =
        [2, 1, 2, 0] ∧
      (check (Locator.forward y) () (fun _ => false) [] y bs).findings.map Diagnostic.line =
        [2, 1, 2, 0] := by
  intro t w bs x y
  have hw : Text.isBlank w = true := by decide
  refine ⟨hw, by decide, by decide, by decide, ?_⟩
  rw [findings_append_white t w [] (fun _ => false) bs hw]
  decide

end DocLint
