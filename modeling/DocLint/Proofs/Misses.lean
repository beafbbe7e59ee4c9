import DocLint.Proofs.Findings

/-!
# Blocks that are not found

A locator may miss a block, or answer any line for it. What a block breaks by itself, as a header at
the end or as code that is not closed, does not depend on the answers: only the line of the finding
does, and it is line 0 if there was no answer. All other rules look at the lines next to a block,
and say nothing about a block that was not found. The largest machine word is the one answer that
cannot be told from none, because the line it stands for has no number.
-/

namespace DocLint

/-! ## What a block breaks by itself -/

/-- Whether a finding is about a block by itself, not about the lines next to it. -/
def Diagnostic.isOwn (d : Diagnostic) : Bool :=
  d.rule == Rule.headerAtEnd.id || d.rule == Rule.codeUnclosed.id

namespace Block

/-- The rules that a block breaks by itself; `isLast` tells that no block follows it. -/
def ownRules (exempt : Text → Bool) (isLast : Bool) (b : Block) : List Rule :=
  match b.kind with
  | .header _ text isLink => if isLast && !isLink && !exempt text then [.headerAtEnd] else []
  | .code fence body closed =>
    if fence.isFenced && (body.isEmpty || !closed) then [.codeUnclosed] else []
  | .list .. | .paragraph _ | .other => []

/-- The rules that the blocks of a document break by themselves, in the order of the blocks. -/
def ownRulesAll (exempt : Text → Bool) : List Block → List Rule
  | [] => []
  | b :: bs => b.ownRules exempt bs.isEmpty ++ ownRulesAll exempt bs

end Block

/-! ## Searches with any locator -/

namespace Layout

variable {σ : Type}

theorem placeFrom_cons (l : Locator σ) (x : LineIndex) (state : σ) (hint : Nat) (b : Block)
    (bs : List Block) :
    placeFrom l x state hint (b :: bs) =
      ⟨b, hint, (l.locate state b.anchor hint).1⟩ ::
        placeFrom l x (l.locate state b.anchor hint).2
          (Placed.next x ⟨b, hint, (l.locate state b.anchor hint).1⟩) bs := rfl

/-- Every block is searched once. -/
theorem map_block_placeFrom (l : Locator σ) (x : LineIndex) (state : σ) (hint : Nat)
    (bs : List Block) : (placeFrom l x state hint bs).map Placed.block = bs := by
  induction bs generalizing state hint with
  | nil => rfl
  | cons b bs ih => rw [placeFrom_cons, List.map_cons, ih]

/-- A search starts where the search before it has said. -/
theorem hint_placeFrom (l : Locator σ) (x : LineIndex) (state : σ) (hint : Nat) (bs : List Block)
    {i : Nat} {p q : Placed} (hp : (placeFrom l x state hint bs)[i]? = some p)
    (hq : (placeFrom l x state hint bs)[i + 1]? = some q) : q.hint = p.next x := by
  induction bs generalizing state hint i with
  | nil => cases hp
  | cons b bs ih =>
    rw [placeFrom_cons, List.getElem?_cons_succ] at hq
    rw [placeFrom_cons] at hp
    cases i with
    | succ i =>
      rw [List.getElem?_cons_succ] at hp
      exact ih _ _ hp hq
    | zero =>
      -- The second search is the first of the blocks behind `b`.
      cases hp
      cases bs with
      | nil => cases hq
      | cons b' bs =>
        rw [placeFrom_cons] at hq
        cases hq
        rfl

end Layout

namespace Rules

variable {x : LineIndex} {exempt : Text → Bool} {file : Text} {isFirst isLast : Bool} {p : Placed}
  {d : Diagnostic}

/-! ## One block -/

theorem isOwn_finding (r : Rule) (line : Nat) :
    (r.finding file line).isOwn = (r == .headerAtEnd || r == .codeUnclosed) := by
  cases r <;> rfl

theorem isOwn_of_mem_surroundings {before after : Rule} {lines : Option (Nat × Nat)}
    (hbefore : before ≠ .headerAtEnd ∧ before ≠ .codeUnclosed)
    (hafter : after ≠ .headerAtEnd ∧ after ≠ .codeUnclosed)
    (h : d ∈ surroundings x file before after isFirst isLast lines) : d.isOwn = false := by
  match lines, h with
  | some (start, stop), h =>
    rcases mem_surroundings h with ⟨rfl, -, -⟩ | ⟨rfl, -⟩
    · simp [isOwn_finding, hbefore]
    · simp [isOwn_finding, hafter]

/-- What is said about a block by itself depends on its lines only where it points. -/
theorem filter_isOwn_ofBlock :
    (ofBlock x exempt file isFirst isLast p).filter Diagnostic.isOwn =
      (p.block.ownRules exempt isLast).map fun r => r.finding file (p.startLine x) := by
  have hnone : ∀ {before after : Rule} {lines : Option (Nat × Nat)},
      before ≠ .headerAtEnd ∧ before ≠ .codeUnclosed →
      after ≠ .headerAtEnd ∧ after ≠ .codeUnclosed →
      (surroundings x file before after isFirst isLast lines).filter Diagnostic.isOwn = [] := by
    intro before after lines hbefore hafter
    rw [List.filter_eq_nil_iff]
    intro d hd
    rw [isOwn_of_mem_surroundings hbefore hafter hd]
    exact Bool.false_ne_true
  unfold ofBlock Block.ownRules
  cases p.block.kind with
  | header level text isLink =>
    cases isLast with
    | true => cases isLink <;> cases h : exempt text <;> simp [h, isOwn_finding]
    | false =>
      -- The line behind a header is the business of another rule.
      simp only [Bool.false_eq_true, if_false, Bool.false_and, List.map_nil]
      split
      · split <;> simp [isOwn_finding]
      · rfl
  | list ordered items => exact hnone (by decide) (by decide)
  | code fence body closed =>
    simp only [List.filter_append]
    rw [hnone (by decide) (by decide), List.nil_append]
    split <;> simp [isOwn_finding]
  | paragraph text => rfl
  | other => rfl

theorem line_of_isOwn (h : d ∈ ofBlock x exempt file isFirst isLast p) (hown : d.isOwn = true) :
    d.line = p.startLine x := by
  have hmem : d ∈ (ofBlock x exempt file isFirst isLast p).filter Diagnostic.isOwn :=
    List.mem_filter.mpr ⟨h, hown⟩
  rw [filter_isOwn_ofBlock, List.mem_map] at hmem
  obtain ⟨r, -, rfl⟩ := hmem
  rfl

/-- A finding about a neighbouring line needs the lines of the block. -/
theorem isOwn_of_not_found (hfound : p.found = none)
    (h : d ∈ ofBlock x exempt file isFirst isLast p) : d.isOwn = true := by
  have hlines : p.lines? x = none := by rw [Placed.lines?, hfound, Option.map_none]
  obtain ⟨r, hr, rfl⟩ := exists_of_mem_ofBlock hlines h
  rw [isOwn_finding]
  rcases hr with rfl | rfl
  · rfl
  · rfl

/-- What is said about a missed block by itself is on line 0. -/
theorem line_of_not_found (hfound : p.found = none)
    (h : d ∈ ofBlock x exempt file isFirst isLast p) : d.isOwn = true ∧ d.line = 0 := by
  have hown := isOwn_of_not_found hfound h
  rw [line_of_isOwn h hown, Placed.startLine, hfound]
  exact ⟨hown, rfl⟩

variable {start : Nat}

/-- What is said about a block that was found is on a line, and on the line of the block if it is
about the block by itself. -/
theorem line_of_found (hfound : p.found = some start) (hword : start + 1 < x.wordSize)
    (h : d ∈ ofBlock x exempt file isFirst isLast p) :
    d.line ≠ 0 ∧ (d.isOwn = true → d.line = start + 1) := by
  have hfirst : x.wordAdd start 1 = start + 1 := LineIndex.wordAdd_of_lt hword
  have hlines : p.lines? x = some (start, Placed.lastLine x start p.block) :=
    (Placed.lines?_eq_some_iff _ _ _ _).mpr ⟨hfound, rfl⟩
  constructor
  · obtain ⟨r, habout⟩ := about_of_mem_ofBlock hlines h
    rcases habout.content with hstart | hcontent
    · rw [hstart, hfirst]
      exact Nat.succ_ne_zero start
    · exact Nat.ne_of_gt hcontent.1
  · intro hown
    rw [line_of_isOwn h hown, Placed.startLine_of_lines? hlines, hfirst]

/-- Behind the largest machine word the numbers of lines start again at 0. -/
theorem line_of_found_maxWord (hfound : p.found = some start) (hmax : start + 1 = x.wordSize)
    (h : d ∈ ofBlock x exempt file isFirst isLast p) (hown : d.isOwn = true) : d.line = 0 := by
  rw [line_of_isOwn h hown, Placed.startLine, hfound]
  exact (congrArg (· % x.wordSize) hmax).trans (Nat.mod_self _)

/-! ## All blocks -/

/-- The findings about the block at a position among placed blocks. -/
def findingsAt (x : LineIndex) (exempt : Text → Bool) (file : Text) (isFirst : Bool)
    (ps : List Placed) (i : Nat) : List Diagnostic :=
  match ps[i]? with
  | some p => ofBlock x exempt file (isFirst && i == 0) (i + 1 == ps.length) p
  | none => []

theorem findingsAt_of_getElem? {ps : List Placed} {i : Nat} (h : ps[i]? = some p) :
    findingsAt x exempt file isFirst ps i =
      ofBlock x exempt file (isFirst && i == 0) (i + 1 == ps.length) p := by
  rw [findingsAt, h]

theorem findingsAt_cons_succ (p : Placed) (ps : List Placed) (i : Nat) :
    findingsAt x exempt file isFirst (p :: ps) (i + 1) = findingsAt x exempt file false ps i := by
  simp only [findingsAt, List.getElem?_cons_succ, List.length_cons, Bool.false_and]
  have hfirst : (i + 1 == 0) = false := rfl
  have hlast : (i + 1 + 1 == ps.length + 1) = (i + 1 == ps.length) := by
    rw [Bool.eq_iff_iff, beq_iff_eq, beq_iff_eq]
    omega
  rw [hfirst, hlast, Bool.and_false]

/-- Every finding is about one block. -/
theorem ofBlocks_eq_flatMap (ps : List Placed) :
    ofBlocks x exempt file isFirst ps =
      (List.range ps.length).flatMap (findingsAt x exempt file isFirst ps) := by
  induction ps generalizing isFirst with
  | nil => rfl
  | cons p ps ih =>
    have hhead : findingsAt x exempt file isFirst (p :: ps) 0 =
        ofBlock x exempt file isFirst ps.isEmpty p := by
      cases ps <;> simp [findingsAt]
    rw [ofBlocks, ih, List.length_cons, List.range_succ_eq_map, List.flatMap_cons, hhead,
      List.flatMap_map]
    simp only [Nat.succ_eq_add_one, findingsAt_cons_succ]

/-- The rules that blocks break by themselves do not depend on where the blocks were found. -/
theorem filter_isOwn_ofBlocks (ps : List Placed) :
    ((ofBlocks x exempt file isFirst ps).filter Diagnostic.isOwn).map
        (fun d => (d.rule, d.message)) =
      (Block.ownRulesAll exempt (ps.map Placed.block)).map fun r => (r.id, r.message file) := by
  induction ps generalizing isFirst with
  | nil => rfl
  | cons p ps ih =>
    rw [ofBlocks, List.filter_append, filter_isOwn_ofBlock, List.map_append, ih, List.map_map,
      List.map_cons, Block.ownRulesAll, List.map_append, List.isEmpty_map]
    rfl

/-- Whatever two locators answer, the blocks of a document break the same rules by themselves. A
block without an answer has no finding but these, on line 0, and moves no later search. A block with
an answer has them on the line that was answered, and nothing on line 0, unless the answer is the
largest machine word. -/
theorem own_findings_of_locators {σ τ : Type} (l₁ : Locator σ) (s₁ : σ) (l₂ : Locator τ) (s₂ : τ)
    (exempt : Text → Bool) (file : Text) (x : LineIndex) (bs : List Block)
    (hdoc : x.isBlankDocument = false) :
    let o₁ := check l₁ s₁ exempt file x bs
    let o₂ := check l₂ s₂ exempt file x bs
    (o₁.findings.filter Diagnostic.isOwn).map (fun d => (d.rule, d.message)) =
        (o₂.findings.filter Diagnostic.isOwn).map (fun d => (d.rule, d.message)) ∧
      o₁.searches.map Placed.block = bs ∧
      o₁.findings = (List.range bs.length).flatMap (findingsAt x exempt file true o₁.searches) ∧
      ∀ i p, o₁.searches[i]? = some p →
        (p.found = none →
          (∀ d ∈ findingsAt x exempt file true o₁.searches i, d.isOwn = true ∧ d.line = 0) ∧
            ∀ q, o₁.searches[i + 1]? = some q → q.hint = p.hint) ∧
        ∀ start, p.found = some start →
          (start + 1 < x.wordSize →
            ∀ d ∈ findingsAt x exempt file true o₁.searches i,
              d.line ≠ 0 ∧ (d.isOwn = true → d.line = start + 1)) ∧
          (start + 1 = x.wordSize →
            ∀ d ∈ findingsAt x exempt file true o₁.searches i, d.isOwn = true → d.line = 0) := by
  intro o₁ o₂
  have hsearches : o₁.searches = Layout.placeFrom l₁ x s₁ 0 bs :=
    congrArg Outcome.searches (check_of_content hdoc l₁ s₁ exempt file bs)
  have hfindings : o₁.findings = ofBlocks x exempt file true o₁.searches := by
    rw [hsearches]
    exact congrArg Outcome.findings (check_of_content hdoc l₁ s₁ exempt file bs)
  have hfindings₂ : o₂.findings =
      ofBlocks x exempt file true (Layout.placeFrom l₂ x s₂ 0 bs) :=
    congrArg Outcome.findings (check_of_content hdoc l₂ s₂ exempt file bs)
  have hblocks : o₁.searches.map Placed.block = bs := by
    rw [hsearches]
    exact Layout.map_block_placeFrom l₁ x s₁ 0 bs
  refine ⟨?_, hblocks, ?_, ?_⟩
  · -- Both runs break the rules that the blocks break by themselves.
    rw [hfindings, hfindings₂, filter_isOwn_ofBlocks, filter_isOwn_ofBlocks, hblocks,
      Layout.map_block_placeFrom]
  · rw [hfindings, ofBlocks_eq_flatMap, ← hblocks, List.length_map]
  · intro i p hp
    rw [findingsAt_of_getElem? hp]
    refine ⟨fun hfound => ⟨fun d hd => line_of_not_found hfound hd, fun q hq => ?_⟩,
      fun start hfound => ⟨fun hword d hd => line_of_found hfound hword hd,
        fun hmax d hd => line_of_found_maxWord hfound hmax hd⟩⟩
    rw [hsearches] at hp hq
    rw [Layout.hint_placeFrom l₁ x s₁ 0 bs hp hq, Placed.next, hfound]

/-- A locator that misses every second block against one that always answers: the header and the
code are reported by both, and what the first says about a missed block is on line 0. -/
theorem own_findings_of_scripts :
    let bs : List Block := [⟨.list false [], "- a".toList, 1⟩,
      ⟨.code .tilde [] false, "~~~".toList, 2⟩, ⟨.other, [], 1⟩, ⟨.header 1 [] false, [], 1⟩]
    let x := LineIndex.ofText "- a\nb\n~~~\nc\nd".toList
    let o₁ := check Locator.scripted [some 1, none, some 3] (fun _ => false) [] x bs
    let o₂ := check Locator.scripted [some 0, some 2, some 4, some 9] (fun _ => false) [] x bs
    x.isBlankDocument = false ∧
      o₁.findings.map Diagnostic.line = [3, 0, 0] ∧
      o₂.findings.map Diagnostic.line = [2, 2, 5, 3, 10] ∧
      (o₁.findings.filter Diagnostic.isOwn).map (fun d => (d.rule, d.message)) =
        (o₂.findings.filter Diagnostic.isOwn).map (fun d => (d.rule, d.message)) := by
  intro bs x o₁ o₂
  have hdoc : x.isBlankDocument = false := by decide
  exact ⟨hdoc, by decide, by decide,
    (own_findings_of_locators Locator.scripted [some 1, none, some 3] Locator.scripted
      [some 0, some 2, some 4, some 9] (fun _ => false) [] x bs hdoc).1⟩

/-- A header that was found at the largest machine word is reported on line 0, as if it had been
missed. -/
theorem own_finding_of_maxWord :
    let x := LineIndex.ofText "a".toList
    let bs : List Block := [⟨.header 1 ['a'] false, ['a'], 1⟩]
    let o := check Locator.scripted [some LineIndex.maxWord] (fun _ => false) [] x bs
    x.isBlankDocument = false ∧ o.searches.map Placed.found = [some LineIndex.maxWord] ∧
      o.findings = [Rule.headerAtEnd.finding [] 0] := by
  decide

end Rules

end DocLint
