import DocLint.Proofs.Findings

/-!
# The style violations of a layout

What is wrong with a laid out document, said of its sites alone: two blocks that touch, code that is
empty or never closed, and a header that nothing follows. The findings of a check are these
violations, each as often as it occurs.
-/

namespace DocLint

namespace Site

/-- What a block breaks if the next block starts on the line behind it. -/
def breaksAfter (file : Text) (p : Site) : List Diagnostic :=
  match p.block.kind with
  | .header .. => [Rule.headerBlankLine.finding file (p.start + 1)]
  | .list .. => [Rule.listBlankLineAfter.finding file (p.last + 2)]
  | .code .. => [Rule.codeBlankLineAfter.finding file (p.last + 2)]
  | .paragraph _ | .other => []

/-- What a block breaks if the block before it ends on the line before. -/
def breaksBefore (file : Text) (p : Site) : List Diagnostic :=
  match p.block.kind with
  | .list .. => [Rule.listBlankLineBefore.finding file p.start]
  | .code .. => [Rule.codeBlankLineBefore.finding file p.start]
  | .header .. | .paragraph _ | .other => []

/-- What two neighbours break together: something only if no blank line stands between them. -/
def touching (file : Text) (p q : Site) : List Diagnostic :=
  if q.start = p.last + 1 then p.breaksAfter file ++ q.breaksBefore file else []

/-- Fenced code that is empty or not closed. -/
def unclosed (file : Text) (p : Site) : List Diagnostic :=
  match p.block.kind with
  | .code fence body closed =>
    if fence.isFenced && (body.isEmpty || !closed) then
      [Rule.codeUnclosed.finding file (p.start + 1)]
    else []
  | .header .. | .list .. | .paragraph _ | .other => []

/-- A header that may not end a document. -/
def endsBadly (exempt : Text → Bool) (file : Text) (p : Site) : List Diagnostic :=
  match p.block.kind with
  | .header _ text isLink =>
    if isLink || exempt text then [] else [Rule.headerAtEnd.finding file (p.start + 1)]
  | .list .. | .code .. | .paragraph _ | .other => []

end Site

/-- The violations of a layout: of its neighbouring sites, of each site, and of the last one. -/
def violations (exempt : Text → Bool) (file : Text) (sites : List Site) : List Diagnostic :=
  (sites.zip sites.tail).flatMap (fun (p, q) => p.touching file q) ++
    sites.flatMap (Site.unclosed file) ++ sites.getLast?.toList.flatMap (Site.endsBadly exempt file)

theorem violations_singleton (exempt : Text → Bool) (file : Text) (p : Site) :
    violations exempt file [p] = p.unclosed file ++ p.endsBadly exempt file := by
  simp [violations]

theorem count_violations_cons_cons (exempt : Text → Bool) (file : Text) (p q : Site)
    (ps : List Site) (d : Diagnostic) :
    (violations exempt file (p :: q :: ps)).count d =
      (p.touching file q).count d + (p.unclosed file).count d +
        (violations exempt file (q :: ps)).count d := by
  simp only [violations, List.tail_cons, List.zip_cons_cons, List.flatMap_cons,
    List.getLast?_cons_cons, List.count_append]
  omega

/-! ## Blank lines between neighbours -/

namespace Site.LiesIn

variable {x : LineIndex} {p q : Site}

/-- The line behind a block has content exactly if the next block starts there. -/
theorem content_next {hint : Nat} (hq : q.LiesIn x hint) :
    (!x.isBlank hint) = decide (q.start = hint) := by
  have hle := hq.hint_le
  by_cases h : q.start = hint
  · have hcontent := hq.content
    rw [h] at hcontent
    rw [hcontent, decide_eq_true h]
    rfl
  · rw [hq.gap hint (by omega) (Nat.le_refl hint), decide_eq_false h]
    rfl

/-- A block that ends with content can be numbered to its end. -/
theorem next_le_wordSize {hint : Nat} (hp : p.LiesIn x hint) (hlast : x.isBlank p.last = false) :
    p.next ≤ x.wordSize := by
  rw [← hp.last_add_one]
  exact Nat.le_of_lt (LineIndex.succ_lt_wordSize hlast)

/-- The line before a block has content exactly if the block before it ends there. -/
theorem content_pred {hint : Nat} (hq : q.LiesIn x hint) (hpos : 0 < hint)
    (hlast : x.isBlank (hint - 1) = false) :
    (decide (0 < q.start) && !x.isBlank (q.start - 1)) = decide (q.start = hint) := by
  have hle := hq.hint_le
  by_cases h : q.start = hint
  · rw [h, hlast, decide_eq_true hpos, decide_eq_true rfl]
    rfl
  · rw [hq.gap (q.start - 1) (by omega) (by omega), decide_eq_false h, Bool.not_true,
      Bool.and_false]

end Site.LiesIn

/-! ## The findings about a site -/

namespace Rules

variable {x : LineIndex} {exempt : Text → Bool} {file : Text}

theorem ofBlock_foundFrom {hint : Nat} {p : Site} (hp : p.LiesIn x hint)
    (hlast : x.isBlank p.last = false) (isFirst isLast : Bool) :
    ofBlock x exempt file isFirst isLast (p.foundFrom hint) =
      (if !isFirst && 0 < p.start && !x.isBlank (p.start - 1) then p.breaksBefore file else []) ++
        ((if !isLast && !x.isBlank (p.last + 1) then p.breaksAfter file else []) ++
          (p.unclosed file ++ (if isLast then p.endsBadly exempt file else []))) := by
  have hlines : (p.foundFrom hint).lines? x = some (p.start, p.last) := by
    rw [Placed.lines?_eq_some_iff]
    exact ⟨rfl, (hp.lastLine_eq (hp.next_le_wordSize hlast)).symm⟩
  have hkind : (p.foundFrom hint).block.kind = p.block.kind := rfl
  simp only [ofBlock, hlines, hkind, Placed.startLine_of_lines? hlines,
    LineIndex.wordAdd_one hp.content, surroundings, Site.breaksBefore, Site.breaksAfter,
    Site.unclosed, Site.endsBadly]
  cases p.block.kind with
  | header level text isLink =>
    cases isLast <;> cases x.isBlank (p.last + 1) <;> cases isLink <;> cases h : exempt text <;>
      simp [h]
  | list ordered items => simp
  | code fence body closed => simp
  | paragraph text => simp
  | other => simp

/-- The findings of a laid out run. Those of the first site about the line before it belong to the
site before, so they stand apart. -/
theorem count_run {hint : Nat} {p : Site} {ps : List Site} (hlay : LaidOut x hint (p :: ps))
    (hlast : ∀ q ∈ p :: ps, x.isBlank q.last = false) (isFirst : Bool) (d : Diagnostic) :
    (ofBlocks x exempt file isFirst
        (List.zipWith Site.foundFrom (p :: ps) (hint :: (p :: ps).map Site.next))).count d =
      (if !isFirst && 0 < p.start && !x.isBlank (p.start - 1) then
          p.breaksBefore file else []).count d +
        (violations exempt file (p :: ps)).count d := by
  induction ps generalizing hint p isFirst with
  | nil =>
    -- The last site: nothing is said about the line behind it.
    obtain ⟨hp, -⟩ := hlay
    have hend := hlast p List.mem_cons_self
    simp only [List.map_cons, List.zipWith_cons_cons, List.map_nil, List.zipWith_nil_left,
      ofBlocks, List.isEmpty_nil, List.append_nil, ofBlock_foundFrom hp hend, violations_singleton,
      List.count_append, Bool.not_true, Bool.false_and, Bool.false_eq_true, if_false, if_true,
      List.count_nil, Nat.zero_add]
  | cons q qs ih =>
    obtain ⟨hp, hqs⟩ := hlay
    have hq : q.LiesIn x p.next := hqs.1
    have hnext : p.last + 1 = p.next := hp.last_add_one
    have hpos : 0 < p.next := by omega
    have hend := hlast p List.mem_cons_self
    have hplast : x.isBlank (p.next - 1) = false := by
      rw [← hnext]
      exact hend
    have hrest := ih hqs (fun r hr => hlast r (List.mem_cons_of_mem p hr)) false
    rw [List.map_cons, List.zipWith_cons_cons, ofBlocks, List.count_append, hrest,
      ofBlock_foundFrom hp hend, count_violations_cons_cons, Site.touching, hnext]
    simp only [List.map_cons, List.zipWith_cons_cons, List.isEmpty_cons, Bool.not_false,
      Bool.true_and, hq.content_next, hq.content_pred hpos hplast, decide_eq_true_eq,
      Bool.false_eq_true, if_false, List.append_nil, List.count_append]
    -- If the two sites touch, the blank line is missing for both of them.
    by_cases htouch : q.start = p.next
    · simp only [if_pos htouch, List.count_append]
      omega
    · simp only [if_neg htouch, List.count_nil]
      omega

/-- The findings about a laid out document whose blocks end with content are exactly the violations
of its layout. -/
theorem findings_perm_violations (t file : Text) (exempt : Text → Bool) (sites : List Site)
    (hdoc : (LineIndex.ofText t).isBlankDocument = false)
    (hlay : LaidOut (LineIndex.ofText t) 0 sites)
    (hlast : ∀ p ∈ sites, (LineIndex.ofText t).isBlank p.last = false) :
    (check (Locator.forward (LineIndex.ofText t)) () exempt file (LineIndex.ofText t)
        (sites.map Site.block)).findings.Perm (violations exempt file sites) := by
  rw [check_of_content hdoc, Layout.place, Layout.placeFrom_of_laidOut hlay, List.perm_iff_count]
  intro d
  cases sites with
  | nil => rfl
  | cons p ps =>
    rw [count_run hlay hlast]
    simp

/-- A document that breaks every rule on spacing: a header on a list on an empty code block, and a
header at the end. -/
def crowdedText : Text :=
  "# T\n- a\n```\n```\n\n## End\n".toList

def crowdedSites : List Site :=
  [⟨⟨.header 1 "T".toList false, "# T".toList, 1⟩, 0⟩,
    ⟨⟨.list false [⟨"a".toList, false⟩], "- a".toList, 1⟩, 1⟩,
    ⟨⟨.code .backtick [] true, "```".toList, 2⟩, 2⟩,
    ⟨⟨.header 2 "End".toList false, "## End".toList, 1⟩, 5⟩]

theorem findings_perm_crowdedText :
    (LineIndex.ofText crowdedText).isBlankDocument = false ∧
      LaidOut (LineIndex.ofText crowdedText) 0 crowdedSites ∧
      (∀ p ∈ crowdedSites, (LineIndex.ofText crowdedText).isBlank p.last = false) ∧
      (check (Locator.forward (LineIndex.ofText crowdedText)) () (fun _ => false) []
          (LineIndex.ofText crowdedText) (crowdedSites.map Site.block)).findings.Perm
        [Rule.headerBlankLine.finding [] 1, Rule.listBlankLineBefore.finding [] 1,
          Rule.listBlankLineAfter.finding [] 3, Rule.codeBlankLineBefore.finding [] 2,
          Rule.codeUnclosed.finding [] 3, Rule.headerAtEnd.finding [] 6] := by
  have hdoc : (LineIndex.ofText crowdedText).isBlankDocument = false := by decide
  have hlay : LaidOut (LineIndex.ofText crowdedText) 0 crowdedSites := by decide
  have hlast : ∀ p ∈ crowdedSites, (LineIndex.ofText crowdedText).isBlank p.last = false := by
    decide
  exact ⟨hdoc, hlay, hlast,
    findings_perm_violations crowdedText [] (fun _ => false) crowdedSites hdoc hlay hlast⟩

end Rules

end DocLint
