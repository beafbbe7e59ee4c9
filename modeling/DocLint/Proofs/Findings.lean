import DocLint.Proofs.Layout

/-!
# Where findings point

Every finding names a rule and a line. `Rule.lineOf` gives the line from the first and the last line
of the block that the finding is about, and is the only source of lines other than 0. The lines it
names have content, because the scan answers no blank line and the other rules complain of a line
only if it has content. The blocks that the forward scan finds stand on disjoint lines in ascending
order, as long as their last lines are machine words, and a rule then never names a line twice.
-/

namespace DocLint

namespace Rule

theorem id_injective {r s : Rule} (h : r.id = s.id) : r = s := by
  revert h
  cases r <;> cases s <;> decide

/-- The line a rule names for a block that lies on the lines `start` to `stop`. -/
def lineOf (x : LineIndex) (start stop : Nat) : Rule → Nat
  | .emptyFile => 0
  | .headerBlankLine | .headerAtEnd | .codeUnclosed => x.wordAdd start 1
  | .listBlankLineBefore | .codeBlankLineBefore => start
  | .listBlankLineAfter | .codeBlankLineAfter => stop + 2

theorem lineOf_lt {x : LineIndex} {r : Rule} (hr : r ≠ .emptyFile) {start stop start' stop' : Nat}
    (hword : start' + 1 < x.wordSize) (hstart : start < start') (hstop : stop < stop') :
    r.lineOf x start stop < r.lineOf x start' stop' := by
  have hfirst : x.wordAdd start 1 = start + 1 := LineIndex.wordAdd_of_lt (by omega)
  have hfirst' : x.wordAdd start' 1 = start' + 1 := LineIndex.wordAdd_of_lt hword
  cases r with
  | emptyFile => exact absurd rfl hr
  | _ =>
    simp only [lineOf, hfirst, hfirst']
    omega

end Rule

/-! ## One search -/

namespace Placed

theorem lines?_eq_some_iff (x : LineIndex) (p : Placed) (start stop : Nat) :
    p.lines? x = some (start, stop) ↔
      p.found = some start ∧ stop = lastLine x start p.block := by
  rw [lines?, Option.map_eq_some_iff]
  constructor
  · rintro ⟨s, hs, heq⟩
    cases heq
    exact ⟨hs, rfl⟩
  · rintro ⟨hs, rfl⟩
    exact ⟨start, hs, rfl⟩

variable {x : LineIndex} {p : Placed} {start stop : Nat}

theorem startLine_of_lines? (h : p.lines? x = some (start, stop)) :
    p.startLine x = x.wordAdd start 1 := by
  rw [startLine, ((lines?_eq_some_iff x p start stop).mp h).1]

theorem startLine_of_lines?_none (h : p.lines? x = none) : p.startLine x = 0 := by
  rw [startLine, Option.map_eq_none_iff.mp h]

/-- The lines of a block that the forward scan finds: the first one has content and lies behind the
hint, the last one lies inside the document, and the next search starts behind it. -/
theorem lines?_of_scan (hp : p.found = Locator.scan x p.block.anchor p.hint)
    (h : p.lines? x = some (start, stop)) :
    p.hint ≤ start ∧ x.isBlank start = false ∧ stop < x.count ∧ p.next x = stop + 1 := by
  obtain ⟨hfound, hstop⟩ := (lines?_eq_some_iff _ _ _ _).mp h
  have hscan := hp.symm.trans hfound
  have hcontent := Locator.isBlank_of_scan hscan
  have hlt := LineIndex.lt_count_of_isBlank hcontent
  have hle := ((Locator.scan_eq_some_iff _ _ _ _).mp hscan).1
  refine ⟨hle, hcontent, ?_, ?_⟩
  · rw [hstop, lastLine]
    omega
  · rw [next, hfound, hstop]

/-- The first line of a block does not lie behind the last one, if that one is a machine word. -/
theorem FitsWord.start_le (hfits : p.FitsWord x) (hspan : 0 < p.block.span)
    (hp : p.found = Locator.scan x p.block.anchor p.hint) (h : p.lines? x = some (start, stop)) :
    start ≤ stop := by
  obtain ⟨-, hcontent, -, -⟩ := lines?_of_scan hp h
  obtain ⟨hfound, rfl⟩ := (lines?_eq_some_iff _ _ _ _).mp h
  rw [start_le_lastLine_iff hcontent, reach_of_le hspan (hfits start hfound)]
  omega

/-- A block whose last line is no machine word was found, and ends in front of its first line. -/
theorem exists_lines?_of_not_fitsWord (hover : ¬p.FitsWord x) (hspan : 0 < p.block.span)
    (hword : p.block.span ≤ x.wordSize) (hp : p.found = Locator.scan x p.block.anchor p.hint) :
    ∃ start stop, p.lines? x = some (start, stop) ∧ stop < start := by
  obtain ⟨start, hstart, hlarge⟩ : ∃ start, p.found = some start ∧
      ¬start + p.block.span ≤ x.wordSize := by
    simpa [FitsWord] using hover
  have hcontent := Locator.isBlank_of_scan (hp.symm.trans hstart)
  have hlt := Nat.lt_of_succ_lt (LineIndex.succ_lt_wordSize hcontent)
  refine ⟨start, _, (lines?_eq_some_iff _ _ _ _).mpr ⟨hstart, rfl⟩, Nat.lt_of_not_le ?_⟩
  rw [start_le_lastLine_iff hcontent, start_le_reach_iff hlt hspan hword]
  exact hlarge

theorem FitsWord.hint_le_next (hfits : p.FitsWord x) (hspan : 0 < p.block.span)
    (hp : p.found = Locator.scan x p.block.anchor p.hint) : p.hint ≤ p.next x := by
  cases h : p.lines? x with
  | none => rw [next, Option.map_eq_none_iff.mp h]
  | some lines =>
    obtain ⟨hle, -, -, hnext⟩ := lines?_of_scan hp h
    have hstop := hfits.start_le hspan hp h
    omega

end Placed

/-! ## A run of searches -/

namespace Layout

variable {x : LineIndex} {hint : Nat} {bs : List Block}

theorem found_of_mem_run {p : Placed} (hp : p ∈ placeFrom (Locator.forward x) x () hint bs) :
    p.block ∈ bs ∧ p.found = Locator.scan x p.block.anchor p.hint := by
  induction bs generalizing hint with
  | nil => cases hp
  | cons b bs ih =>
    rw [placeFrom_forward_cons] at hp
    rcases List.mem_cons.mp hp with rfl | hp
    · exact ⟨List.mem_cons_self, rfl⟩
    · obtain ⟨hmem, hfound⟩ := ih hp
      exact ⟨List.mem_cons_of_mem b hmem, hfound⟩

/-- The hints of a run do not decrease while all last lines are machine words. -/
theorem hint_le_of_mem_run (hspan : ∀ b ∈ bs, 1 ≤ b.span)
    (hfits : ∀ p ∈ placeFrom (Locator.forward x) x () hint bs, p.FitsWord x) :
    ∀ p ∈ placeFrom (Locator.forward x) x () hint bs, hint ≤ p.hint := by
  induction bs generalizing hint with
  | nil => exact List.forall_mem_nil _
  | cons b bs ih =>
    obtain ⟨hb, hbs⟩ := List.forall_mem_cons.mp hspan
    rw [placeFrom_forward_cons] at hfits ⊢
    obtain ⟨hfirst, hrest⟩ := List.forall_mem_cons.mp hfits
    refine List.forall_mem_cons.mpr ⟨Nat.le_refl hint, fun p hp => ?_⟩
    exact Nat.le_trans (hfirst.hint_le_next hb rfl) (ih hbs hrest p hp)

end Layout

/-! ## The findings about one block -/

namespace Rules

variable {x : LineIndex} {exempt : Text → Bool} {file : Text} {isFirst isLast : Bool} {p : Placed}
  {d : Diagnostic}

theorem mem_surroundings {before after : Rule} {start stop : Nat}
    (h : d ∈ surroundings x file before after isFirst isLast (some (start, stop))) :
    (d = before.finding file start ∧ 0 < start ∧ x.isBlank (start - 1) = false) ∨
      (d = after.finding file (stop + 2) ∧ x.isBlank (stop + 1) = false) := by
  rw [surroundings, List.mem_append] at h
  rcases h with h | h
  · split at h
    · next hcond =>
      simp only [Bool.and_eq_true, Bool.not_eq_true', decide_eq_true_eq] at hcond
      exact .inl ⟨List.mem_singleton.mp h, hcond.1.2, hcond.2⟩
    · cases h
  · split at h
    · next hcond =>
      simp only [Bool.and_eq_true, Bool.not_eq_true'] at hcond
      exact .inr ⟨List.mem_singleton.mp h, hcond.2⟩
    · cases h

/-- A finding about a block that lies on the lines `start` to `stop`: its rule decides its line,
and the line is the first of the block or has content. -/
structure About (x : LineIndex) (file : Text) (start stop : Nat) (d : Diagnostic) (r : Rule) :
    Prop where
  ne_emptyFile : r ≠ .emptyFile
  eq_finding : d = r.finding file (r.lineOf x start stop)
  content : d.line = x.wordAdd start 1 ∨ (0 < d.line ∧ x.isBlank (d.line - 1) = false)

theorem about_surroundings {before after : Rule} {start stop : Nat}
    (hbefore : before ≠ .emptyFile ∧ before.lineOf x start stop = start)
    (hafter : after ≠ .emptyFile ∧ after.lineOf x start stop = stop + 2)
    (h : d ∈ surroundings x file before after isFirst isLast (some (start, stop))) :
    ∃ r, About x file start stop d r := by
  rcases mem_surroundings h with ⟨rfl, hpos, hcontent⟩ | ⟨rfl, hcontent⟩
  · exact ⟨before, hbefore.1, by rw [hbefore.2], .inr ⟨hpos, hcontent⟩⟩
  · exact ⟨after, hafter.1, by rw [hafter.2], .inr ⟨Nat.succ_pos _, hcontent⟩⟩

theorem about_of_mem_ofBlock {start stop : Nat} (hlines : p.lines? x = some (start, stop))
    (h : d ∈ ofBlock x exempt file isFirst isLast p) : ∃ r, About x file start stop d r := by
  have hstart := Placed.startLine_of_lines? hlines
  simp only [ofBlock, hlines, hstart] at h
  split at h
  · -- A header is named on its own line by either rule.
    split at h
    · split at h
      · rw [List.mem_singleton.mp h]
        exact ⟨.headerAtEnd, by decide, rfl, .inl rfl⟩
      · cases h
    · split at h
      · cases h
      · rw [List.mem_singleton.mp h]
        exact ⟨.headerBlankLine, by decide, rfl, .inl rfl⟩
  · exact about_surroundings ⟨by decide, rfl⟩ ⟨by decide, rfl⟩ h
  · rcases List.mem_append.mp h with h | h
    · exact about_surroundings ⟨by decide, rfl⟩ ⟨by decide, rfl⟩ h
    · split at h
      · rw [List.mem_singleton.mp h]
        exact ⟨.codeUnclosed, by decide, rfl, .inl rfl⟩
      · cases h
  · cases h
  · cases h

/-- A block that was not found is named by the two rules that look at no other line only, and on
line 0. -/
theorem exists_of_mem_ofBlock (hlines : p.lines? x = none)
    (h : d ∈ ofBlock x exempt file isFirst isLast p) :
    ∃ r : Rule, (r = .headerAtEnd ∨ r = .codeUnclosed) ∧ d = r.finding file 0 := by
  have hstart := Placed.startLine_of_lines?_none hlines
  simp only [ofBlock, hlines, hstart, surroundings, List.nil_append] at h
  split at h
  · split at h
    · split at h
      · exact ⟨.headerAtEnd, .inl rfl, List.mem_singleton.mp h⟩
      · cases h
    · cases h
  · cases h
  · split at h
    · exact ⟨.codeUnclosed, .inr rfl, List.mem_singleton.mp h⟩
    · cases h
  · cases h
  · cases h

theorem line_of_mem_ofBlock (hlines : p.lines? x = none)
    (h : d ∈ ofBlock x exempt file isFirst isLast p) : d.line = 0 := by
  obtain ⟨r, -, rfl⟩ := exists_of_mem_ofBlock hlines h
  rfl

theorem rules_distinct_surroundings {before after : Rule} (hne : before.id ≠ after.id)
    (lines : Option (Nat × Nat)) :
    (surroundings x file before after isFirst isLast lines).Pairwise fun a b => a.rule ≠ b.rule := by
  cases lines with
  | none => exact List.Pairwise.nil
  | some lines =>
    rw [surroundings]
    split <;> split <;> simp [Rule.finding, hne]

/-- No rule is named twice for one block. -/
theorem rules_distinct_ofBlock :
    (ofBlock x exempt file isFirst isLast p).Pairwise fun a b => a.rule ≠ b.rule := by
  simp only [ofBlock]
  split
  · split
    · split <;> simp
    · split
      · split <;> simp
      · exact List.Pairwise.nil
  · exact rules_distinct_surroundings (by decide) _
  · refine List.pairwise_append.mpr ⟨rules_distinct_surroundings (by decide) _, ?_, ?_⟩
    · split <;> simp
    · intro a ha b hb
      split at hb
      · rw [List.mem_singleton.mp hb]
        cases hlines : p.lines? x with
        | none =>
          rw [hlines] at ha
          cases ha
        | some lines =>
          rw [hlines] at ha
          rcases mem_surroundings ha with ⟨rfl, -, -⟩ | ⟨rfl, -⟩
          · exact show Rule.codeBlankLineBefore.id ≠ Rule.codeUnclosed.id by decide
          · exact show Rule.codeBlankLineAfter.id ≠ Rule.codeUnclosed.id by decide
      · cases hb
  · exact List.Pairwise.nil
  · exact List.Pairwise.nil

/-- A finding on a line is about a block that was found. The scan has answered the first line of the
block, so that line has content. -/
theorem content_of_mem_ofBlock (hp : p.found = Locator.scan x p.block.anchor p.hint)
    (h : d ∈ ofBlock x exempt file isFirst isLast p) (hd : 1 ≤ d.line) :
    x.isBlank (d.line - 1) = false := by
  cases hlines : p.lines? x with
  | none =>
    rw [line_of_mem_ofBlock hlines h] at hd
    cases hd
  | some lines =>
    obtain ⟨-, hcontent, -, -⟩ := Placed.lines?_of_scan hp hlines
    obtain ⟨r, habout⟩ := about_of_mem_ofBlock hlines h
    rcases habout.content with hline | hline
    · rw [hline, LineIndex.wordAdd_one hcontent]
      exact hcontent
    · exact hline.2

/-! ## The findings of a run -/

/-- A block that was searched is one of the document. -/
theorem mem_of_mem_searches {bs : List Block}
    (hp : p ∈ (check (Locator.forward x) () exempt file x bs).searches) : p.block ∈ bs := by
  cases hdoc : x.isBlankDocument with
  | true =>
    rw [check, if_pos hdoc] at hp
    cases hp
  | false =>
    rw [check_of_content hdoc] at hp
    exact (Layout.found_of_mem_run hp).1

theorem exists_of_mem_ofBlocks {ps : List Placed} (h : d ∈ ofBlocks x exempt file isFirst ps) :
    ∃ p ∈ ps, ∃ isFirst isLast, d ∈ ofBlock x exempt file isFirst isLast p := by
  induction ps generalizing isFirst with
  | nil => cases h
  | cons p ps ih =>
    rcases List.mem_append.mp h with h | h
    · exact ⟨p, List.mem_cons_self, _, _, h⟩
    · obtain ⟨q, hq, hrest⟩ := ih h
      exact ⟨q, List.mem_cons_of_mem p hq, hrest⟩

/-- Of two blocks, one found behind the other, a rule names different lines. -/
theorem line_ne_of_mem_ofBlock {q : Placed} {e : Diagnostic} {isFirst' isLast' : Bool}
    (hp : p.found = Locator.scan x p.block.anchor p.hint)
    (hq : q.found = Locator.scan x q.block.anchor q.hint) (hpspan : 0 < p.block.span)
    (hqspan : 0 < q.block.span) (hpfits : p.FitsWord x) (hqfits : q.FitsWord x)
    (hnext : p.next x ≤ q.hint) (hd : d ∈ ofBlock x exempt file isFirst isLast p)
    (he : e ∈ ofBlock x exempt file isFirst' isLast' q) (hdline : 1 ≤ d.line)
    (heline : 1 ≤ e.line) : ¬(d.rule = e.rule ∧ d.line = e.line) := by
  cases hlines : p.lines? x with
  | none =>
    have hzero := line_of_mem_ofBlock hlines hd
    omega
  | some lines =>
    cases hlines' : q.lines? x with
    | none =>
      have hzero := line_of_mem_ofBlock hlines' he
      omega
    | some lines' =>
      obtain ⟨-, -, -, hstop⟩ := Placed.lines?_of_scan hp hlines
      obtain ⟨hhint, hcontent, -, -⟩ := Placed.lines?_of_scan hq hlines'
      have hle := hpfits.start_le hpspan hp hlines
      have hle' := hqfits.start_le hqspan hq hlines'
      obtain ⟨r, hr⟩ := about_of_mem_ofBlock hlines hd
      obtain ⟨s, hs⟩ := about_of_mem_ofBlock hlines' he
      rintro ⟨hrule, hline⟩
      rw [hr.eq_finding, hs.eq_finding] at hrule hline
      obtain rfl : r = s := Rule.id_injective hrule
      have hlt : r.lineOf x lines.1 lines.2 < r.lineOf x lines'.1 lines'.2 :=
        Rule.lineOf_lt hr.ne_emptyFile (LineIndex.succ_lt_wordSize hcontent) (by omega) (by omega)
      exact absurd hline (Nat.ne_of_lt hlt)

/-- No rule names a line twice in a run of searches whose blocks are found one behind the other. -/
theorem pairwise_run {hint : Nat} {bs : List Block} (hspan : ∀ b ∈ bs, 1 ≤ b.span)
    (hfits : ∀ p ∈ Layout.placeFrom (Locator.forward x) x () hint bs, p.FitsWord x) :
    ((ofBlocks x exempt file isFirst
        (Layout.placeFrom (Locator.forward x) x () hint bs)).filter (1 ≤ ·.line)).Pairwise
      fun a b => ¬(a.rule = b.rule ∧ a.line = b.line) := by
  induction bs generalizing hint isFirst with
  | nil => exact List.Pairwise.nil
  | cons b bs ih =>
    obtain ⟨hb, hbs⟩ := List.forall_mem_cons.mp hspan
    rw [Layout.placeFrom_forward_cons] at hfits ⊢
    obtain ⟨hfirst, hrest⟩ := List.forall_mem_cons.mp hfits
    rw [ofBlocks, List.filter_append]
    refine List.pairwise_append.mpr ⟨?_, ih hbs hrest, ?_⟩
    · exact (rules_distinct_ofBlock.filter _).imp fun hne h => hne h.1
    · -- `d` is about this block and `e` about a later one.
      intro d hd e he
      obtain ⟨hd, hdline⟩ := List.mem_filter.mp hd
      obtain ⟨he, heline⟩ := List.mem_filter.mp he
      obtain ⟨q, hq, _, _, he⟩ := exists_of_mem_ofBlocks he
      obtain ⟨hmem, hfound⟩ := Layout.found_of_mem_run hq
      have hnext := Layout.hint_le_of_mem_run hbs hrest q hq
      exact line_ne_of_mem_ofBlock (p := ⟨b, hint, _⟩) rfl hfound hb (hbs _ hmem) hfirst
        (hrest q hq) hnext hd he (of_decide_eq_true hdline) (of_decide_eq_true heline)

/-- Whatever blocks a document is said to have, every finding with a line points at a line of the
document that has content. No two findings of a rule share a line, unless a block that was found
spans more lines than machine words can number. -/
theorem findings_point_at_content (t file : Text) (exempt : Text → Bool) (bs : List Block)
    (hspan : ∀ b ∈ bs, 1 ≤ b.span) :
    let x := LineIndex.ofText t
    let o := check (Locator.forward x) () exempt file x bs
    (∀ d ∈ o.findings, 1 ≤ d.line → d.line ≤ x.count ∧ x.isBlank (d.line - 1) = false) ∧
      ((∀ p ∈ o.searches, p.FitsWord x) →
        (o.findings.filter (1 ≤ ·.line)).Pairwise
          fun a b => ¬(a.rule = b.rule ∧ a.line = b.line)) := by
  intro x o
  cases hdoc : x.isBlankDocument with
  | true =>
    have ho : o = ⟨[], [Rule.emptyFile.finding file 0]⟩ := by
      simp only [o, check, hdoc, if_true]
    rw [ho]
    refine ⟨fun d hd hline => ?_, fun _ => List.Pairwise.nil⟩
    rw [List.mem_singleton.mp hd] at hline
    cases hline
  | false =>
    have ho : o = ⟨_, ofBlocks x exempt file true (Layout.place (Locator.forward x) () x bs)⟩ :=
      check_of_content hdoc _ () exempt file bs
    rw [ho]
    refine ⟨fun d hd hline => ?_, pairwise_run hspan⟩
    obtain ⟨p, hp, _, _, hd⟩ := exists_of_mem_ofBlocks hd
    have hcontent := content_of_mem_ofBlock (Layout.found_of_mem_run hp).2 hd hline
    have hlt := LineIndex.lt_count_of_isBlank hcontent
    exact ⟨by omega, hcontent⟩

/-- A span that overshoots the document, an anchor that is found elsewhere and one that is not found
at all. -/
theorem findings_point_at_content_overshoot :
    let bs : List Block := [⟨.list false [], "- b".toList, 1⟩, ⟨.other, "missing".toList, 2⟩,
      ⟨.code .backtick [] false, "c".toList, 9⟩, ⟨.header 1 [] false, "c".toList, 1⟩]
    let x := LineIndex.ofText "a\nb\nc".toList
    let o := check (Locator.forward x) () (fun _ => false) [] x bs
    (∀ b ∈ bs, 1 ≤ b.span) ∧ (∀ p ∈ o.searches, p.FitsWord x) ∧
      o.findings.map Diagnostic.line = [3, 2, 3, 0] ∧
      (∀ d ∈ o.findings, 1 ≤ d.line → d.line ≤ x.count ∧ x.isBlank (d.line - 1) = false) ∧
      (o.findings.filter (1 ≤ ·.line)).Pairwise fun a b => ¬(a.rule = b.rule ∧ a.line = b.line) := by
  intro bs x o
  have hspan : ∀ b ∈ bs, 1 ≤ b.span := by decide
  have hfits : ∀ p ∈ o.searches, p.FitsWord x := by decide
  obtain ⟨hcontent, hdistinct⟩ :=
    findings_point_at_content "a\nb\nc".toList [] (fun _ => false) bs hspan
  exact ⟨hspan, hfits, by decide, hcontent, hdistinct hfits⟩

/-- Two headers that span as many lines as the largest machine word. Each ends in front of its first
line, so that both are found on the last line and missing a blank line there. -/
theorem findings_repeat_of_maxWord :
    let header : Nat → Block := fun span => ⟨.header 1 ['c'] false, ['c'], span⟩
    let bs := [header LineIndex.maxWord, header LineIndex.maxWord, header 1]
    let x := LineIndex.ofText "a\nb\nc".toList
    let ds := (check (Locator.forward x) () (fun _ => false) [] x bs).findings
    (∀ b ∈ bs, 1 ≤ b.span) ∧
      ds = [Rule.headerBlankLine.finding [] 3, Rule.headerBlankLine.finding [] 3,
        Rule.headerAtEnd.finding [] 3] ∧
      ¬(ds.filter (1 ≤ ·.line)).Pairwise fun a b => ¬(a.rule = b.rule ∧ a.line = b.line) := by
  decide

end Rules

end DocLint
