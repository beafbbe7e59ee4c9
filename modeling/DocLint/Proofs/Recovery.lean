import DocLint.Proofs.Line
import DocLint.Proofs.Markdown.Outline

/-!
# Finding the blocks of a document again

The reader of Markdown knows the lines of its nodes and the blocks forget them. The forward scan
finds every block again, on its own line, unless the first line of some block is blank. Such a line
holds white space other than spaces and tabs: the reader makes a block of it, the index calls it
blank, and the scan, which has no words to look for, passes over it.
-/

namespace DocLint

namespace Markdown

/-! ## Lines and nodes of a document -/

/-- The lines that blocks are read from. -/
def readLines (t : Text) : List Text :=
  t.withoutMark.withoutMark.lines

/-- The top-level nodes of a document. -/
def nodes (t : Text) : List Node :=
  readNodes (Line.split t.withoutMark.withoutMark)

def firstLines (t : Text) : List Nat :=
  (nodes t).map Node.first

theorem blocks_eq (t : Text) :
    blocks t = (nodes t).map (blockOf (Node.envAll (nodes t)) (readLines t)) := rfl

theorem follows_nodes (t : Text) :
    Follows (fun i => (LineIndex.mk (readLines t)).isBlank i = true) (readLines t).length 0
      (nodes t) := by
  rw [readLines, Text.lines, List.length_map]
  apply follows_readNodes
  intro i l hl hblank
  have hline : (LineIndex.mk ((Line.split t.withoutMark.withoutMark).map Line.text)).line? i =
      some l.text := by
    rw [LineIndex.line?, List.getElem?_map, hl]
    rfl
  rw [LineIndex.isBlank_eq_of_line? hline]
  exact isBlank_of_cursor hblank

theorem Follows.mem {blank : Nat → Prop} {count hint : Nat} {ns : List Node}
    (h : Follows blank count hint ns) {n : Node} (hn : n ∈ ns) :
    n.first ≤ n.last ∧ n.last < count := by
  induction ns generalizing hint with
  | nil => cases hn
  | cons m ms ih =>
    obtain ⟨-, -, hle, hlt, hrest⟩ := h
    rcases List.mem_cons.mp hn with rfl | hn
    · exact ⟨hle, hlt⟩
    · exact ih hrest hn

/-! ## Byte order marks -/

theorem readLines_of_hasMark {t : Text} (h : t.withoutMark.hasMark = false) :
    LineIndex.ofText t = ⟨readLines t⟩ := by
  rw [LineIndex.ofText, readLines, Text.withoutMark_of_hasMark h]

/-- The index has the lines that blocks are read from. A second byte order mark is part of the first
line of the index only. -/
theorem line?_ofText {t l : Text} {i : Nat} (hl : (readLines t)[i]? = some l) :
    (LineIndex.ofText t).line? i = some l ∨
      (LineIndex.ofText t).line? i = some (Text.byteOrderMark :: l) := by
  cases hmark : t.withoutMark.hasMark with
  | false =>
    rw [readLines_of_hasMark hmark]
    exact .inl hl
  | true =>
    have hcons : t.withoutMark = Text.byteOrderMark :: t.withoutMark.withoutMark := by
      cases ht : t.withoutMark with
      | nil =>
        rw [ht] at hmark
        cases hmark
      | cons c cs =>
        rw [ht, Text.hasMark, beq_iff_eq] at hmark
        rw [Text.withoutMark, if_pos hmark, hmark]
    -- A byte order mark ends no line, so it goes to the front of the first.
    have hpush : Line.split (Text.byteOrderMark :: t.withoutMark.withoutMark) =
        Line.push Text.byteOrderMark (Line.split t.withoutMark.withoutMark) := rfl
    rw [LineIndex.ofText, LineIndex.line?, hcons, Text.lines, hpush]
    rw [readLines, Text.lines] at hl
    cases hsplit : Line.split t.withoutMark.withoutMark with
    | nil =>
      rw [hsplit] at hl
      cases hl
    | cons first rest =>
      rw [hsplit] at hl
      cases i with
      | zero =>
        cases hl
        exact .inr rfl
      | succ i => exact .inl hl

/-- The line of a node shows the words of its block. -/
theorem showsAt_first {t : Text} (env : Env) {n : Node} (hn : n ∈ nodes t)
    (hcontent : Text.isBlank (blockOf env (readLines t) n).anchor = false) :
    Locator.showsAt (LineIndex.ofText t) (blockOf env (readLines t) n).anchor n.first = true := by
  obtain ⟨hfirst, hlast⟩ := (follows_nodes t).mem hn
  obtain ⟨l, hl, htrim⟩ := Option.map_eq_some_iff.mp (trim_anchor_blockOf env hfirst hlast)
  rcases line?_ofText hl with hline | hline
  · rw [Locator.showsAt_of_line? hline]
    rw [← Text.isBlank_eq_of_trim_eq htrim] at hcontent
    exact Locator.shows_of_trim_eq hcontent htrim.symm
  · rw [Locator.showsAt_of_line? hline]
    exact Locator.shows_mark_cons htrim.symm

/-! ## Sites -/

/-- A top-level node as the site of its block. -/
def siteOf (env : Env) (lines : List Text) (n : Node) : Site :=
  ⟨blockOf env lines n, n.first⟩

theorem laidOut_of_follows {lines : List Text} (env : Env) {hint start : Nat} {ns : List Node}
    (h : Follows (fun i => (LineIndex.mk lines).isBlank i = true) lines.length hint ns)
    (hstart : start ≤ hint)
    (hgap : ∀ i < hint, start ≤ i → (LineIndex.mk lines).isBlank i = true)
    (hcontent : ∀ n ∈ ns, Text.isBlank (blockOf env lines n).anchor = false) :
    LaidOut ⟨lines⟩ start (ns.map (siteOf env lines)) := by
  -- The site before ends with its span, the node may have empty lines behind it.
  induction ns generalizing hint start with
  | nil => trivial
  | cons n ns ih =>
    obtain ⟨hhint, hbefore, hfirst, hlast, hrest⟩ := h
    have hspan := span_blockOf_le env hfirst hlast
    refine ⟨⟨?_, ?_, ?_, trim_anchor_blockOf env hfirst hlast, span_blockOf_pos env, ?_⟩,
      ih hrest hspan ?_ ?_⟩
    · exact Nat.le_trans hstart hhint
    · intro i hi hsi
      by_cases hin : i < hint
      · exact hgap i hin hsi
      · exact hbefore i hi (Nat.le_of_not_lt hin)
    · change (LineIndex.mk lines).isBlank n.first = false
      rw [isBlank_first env hfirst hlast]
      exact hcontent n List.mem_cons_self
    · change n.first + (blockOf env lines n).span ≤ lines.length
      omega
    · intro i hi hni
      exact isBlank_of_span_le env hni (Nat.le_of_lt_succ hi)
    · intro m hm
      exact hcontent m (List.mem_cons_of_mem n hm)

end Markdown

/-! ## Searches -/

namespace Layout

variable {x : LineIndex} {block : Markdown.Node → Block}

theorem found_of_laidOut {hint : Nat} {sites : List Site} (h : LaidOut x hint sites) :
    (placeFrom (Locator.forward x) x () hint (sites.map Site.block)).map Placed.found =
      (sites.map Site.start).map some := by
  rw [placeFrom_of_laidOut h]
  clear h
  induction sites generalizing hint with
  | nil => rfl
  | cons p ps ih =>
    rw [List.map_cons, List.zipWith_cons_cons, List.map_cons, ih]
    rfl

/-- A search that stops no later than the first line of its block leaves the next block ahead. -/
theorem isSome_of_follows {blank : Nat → Prop} {count hint start : Nat} {ns : List Markdown.Node}
    (h : Markdown.Follows blank count hint ns) (hstart : start ≤ hint)
    (hspan : ∀ n ∈ ns, 0 < (block n).span ∧ n.first + (block n).span ≤ n.last + 1)
    (hshow : ∀ n ∈ ns, Locator.showsAt x (block n).anchor n.first = true) :
    ∀ p ∈ placeFrom (Locator.forward x) x () start (ns.map block), p.found.isSome := by
  induction ns generalizing hint start with
  | nil =>
    intro p hp
    cases hp
  | cons n ns ih =>
    obtain ⟨hhint, -, -, -, hrest⟩ := h
    obtain ⟨hpos, hend⟩ := hspan n List.mem_cons_self
    obtain ⟨i, hi, hle⟩ :=
      Locator.exists_scan_le (Nat.le_trans hstart hhint) (hshow n List.mem_cons_self)
    have hnext : Placed.next x ⟨block n, start, some i⟩ ≤ n.last + 1 := by
      have hreach : Placed.reach x i (block n) ≤ i + (block n).span - 1 := Placed.reach_le hpos
      change Placed.lastLine x i (block n) + 1 ≤ n.last + 1
      rw [Placed.lastLine]
      omega
    intro p hp
    rw [List.map_cons, placeFrom_forward_cons, hi] at hp
    rcases List.mem_cons.mp hp with rfl | hp
    · rfl
    · exact ih hrest hnext (fun m hm => hspan m (List.mem_cons_of_mem n hm))
        (fun m hm => hshow m (List.mem_cons_of_mem n hm)) p hp

/-- A line that a search answers is not blank. -/
theorem isBlank_of_found_first {start : Nat} {ns : List Markdown.Node}
    (h : (placeFrom (Locator.forward x) x () start (ns.map block)).map Placed.found =
      (ns.map Markdown.Node.first).map some) :
    ∀ n ∈ ns, x.isBlank n.first = false := by
  induction ns generalizing start with
  | nil =>
    intro n hn
    cases hn
  | cons m ms ih =>
    rw [List.map_cons, placeFrom_forward_cons, List.map_cons, List.map_cons, List.map_cons,
      List.cons.injEq] at h
    intro n hn
    rcases List.mem_cons.mp hn with rfl | hn
    · exact Locator.isBlank_of_scan h.1
    · exact ih h.2 n hn

end Layout

namespace Rules

/-- A document in which no block begins with a blank line loses no block. Each block is then found
on its own line, and only then, unless a second byte order mark is taken for content. -/
theorem searches_recover_blocks (t file : Text) (exempt : Text → Bool)
    (hdoc : (LineIndex.ofText t).isBlankDocument = false) :
    let x := LineIndex.ofText t
    let searches := (check (Locator.forward x) () exempt file x (Markdown.blocks t)).searches
    ((∀ b ∈ Markdown.blocks t, Text.isBlank b.anchor = false) →
        ∀ p ∈ searches, p.found.isSome = true) ∧
      (t.withoutMark.hasMark = false →
        (searches.map Placed.found = (Markdown.firstLines t).map some ↔
          ∀ b ∈ Markdown.blocks t, Text.isBlank b.anchor = false)) := by
  intro x searches
  have hfollows := Markdown.follows_nodes t
  have hsearches : searches = Layout.placeFrom (Locator.forward x) x () 0
      (Markdown.blocks t) :=
    congrArg Outcome.searches (check_of_content hdoc _ _ _ _ _)
  rw [hsearches, Markdown.blocks_eq]
  generalize Markdown.Node.envAll (Markdown.nodes t) = env
  simp only [List.forall_mem_map]
  constructor
  · -- No search stops behind the first line of its block, so none starts behind it.
    intro hcontent
    apply Layout.isSome_of_follows hfollows (Nat.le_refl 0)
    · intro n hn
      obtain ⟨hfirst, hlast⟩ := hfollows.mem hn
      exact ⟨Markdown.span_blockOf_pos env, Markdown.span_blockOf_le env hfirst hlast⟩
    · intro n hn
      exact Markdown.showsAt_first env hn (hcontent n hn)
  · intro hmark
    have hx : x = ⟨Markdown.readLines t⟩ := Markdown.readLines_of_hasMark hmark
    rw [hx]
    constructor
    · -- The scan answers lines with content only.
      intro hfound n hn
      obtain ⟨hfirst, hlast⟩ := hfollows.mem hn
      rw [← Markdown.isBlank_first env hfirst hlast]
      exact Layout.isBlank_of_found_first hfound n hn
    · -- The nodes are a layout of the document, and a layout is found as it is.
      intro hcontent
      have hlay := Markdown.laidOut_of_follows env hfollows (Nat.le_refl 0)
        (fun i hi _ => absurd hi (Nat.not_lt_zero i)) hcontent
      have hblocks : ((Markdown.nodes t).map (Markdown.siteOf env (Markdown.readLines t))).map
          Site.block = (Markdown.nodes t).map (Markdown.blockOf env (Markdown.readLines t)) :=
        List.map_map
      have hstarts : ((Markdown.nodes t).map (Markdown.siteOf env (Markdown.readLines t))).map
          Site.start = Markdown.firstLines t :=
        List.map_map
      rw [← hblocks, ← hstarts]
      exact Layout.found_of_laidOut hlay

/-- Blocks whose words are repeated, and fenced code that is indented and ends with empty lines. -/
def codeText : Text :=
  "# a\n\n a\n\n  ```\n  a\n\n".toList

theorem searches_recover_codeText :
    (LineIndex.ofText codeText).isBlankDocument = false ∧
      (check (Locator.forward (LineIndex.ofText codeText)) () (fun _ => false) []
          (LineIndex.ofText codeText) (Markdown.blocks codeText)).searches.map Placed.found =
        [some 0, some 2, some 4] := by
  have hdoc : (LineIndex.ofText codeText).isBlankDocument = false := by decide
  refine ⟨hdoc, ?_⟩
  rw [((searches_recover_blocks codeText [] (fun _ => false) hdoc).2 (by decide)).mpr (by decide)]
  decide

/-- A line of one no-break space: a block for the reader, and blank for the index. -/
def noBreakText : Text :=
  "a\n\n\u00a0".toList

theorem searches_lose_noBreakText :
    (LineIndex.ofText noBreakText).isBlankDocument = false ∧
      ∃ p ∈ (check (Locator.forward (LineIndex.ofText noBreakText)) () (fun _ => false) []
          (LineIndex.ofText noBreakText) (Markdown.blocks noBreakText)).searches,
        p.block.anchor = "\u00a0".toList ∧ p.hint = 1 ∧ p.found = none := by
  decide

end Rules

end DocLint
