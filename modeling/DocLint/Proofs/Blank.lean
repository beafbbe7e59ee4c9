import DocLint.Linter
import DocLint.Proofs.LineRanges
import DocLint.Proofs.Misses

/-!
# Blank documents

Terminators are white space, so the lines of a text are blank if and only if the text is, and a
document is blank if it holds nothing but white space behind at most one byte order mark. A blank
document breaks one rule, which no other document breaks. Its blocks are not looked at, and therefore
it makes no difference that they are not read either.
-/

namespace DocLint

/-! ## Blank texts and their lines -/

theorem Line.isBlank_source (l : Line) : Text.isBlank l.source = Text.isBlank l.text := by
  have hending : ((l.ending.map Terminator.text).getD []).all Text.isWhite = true := by
    match l.ending with
    | none => rfl
    | some .lf => rfl
    | some .cr => rfl
    | some .crlf => rfl
  unfold Line.source Text.isBlank
  rw [List.all_append, hending, Bool.and_true]

namespace Text

theorem all_isBlank_lines (t : Text) : (lines t).all isBlank = isBlank t := by
  conv_rhs => rw [← Line.join_split t]
  unfold lines Line.join
  rw [isBlank, List.all_map, List.all_flatMap]
  congr 1
  funext l
  exact l.isBlank_source.symm

/-- White space only, behind at most one byte order mark. -/
theorem isBlank_withoutMark_iff (t : Text) :
    isBlank t.withoutMark = true ↔
      ∃ w : Text, (∀ c ∈ w, isWhite c = true) ∧ (t = w ∨ t = byteOrderMark :: w) := by
  constructor
  · intro h
    cases t with
    | nil => exact ⟨[], List.forall_mem_nil _, .inl rfl⟩
    | cons c cs =>
      by_cases hmark : c = byteOrderMark
      · rw [withoutMark, if_pos hmark, isBlank_iff] at h
        exact ⟨cs, h, .inr (hmark ▸ rfl)⟩
      · rw [withoutMark, if_neg hmark, isBlank_iff] at h
        exact ⟨c :: cs, h, .inl rfl⟩
  · rintro ⟨w, hw, rfl | rfl⟩
    · -- The mark is not white space, so a text of white space does not begin with it.
      have hmark : hasMark t = false := by
        cases t with
        | nil => rfl
        | cons c cs =>
          show (c == byteOrderMark) = false
          rw [beq_eq_false_iff_ne]
          rintro rfl
          have hwhite := hw byteOrderMark List.mem_cons_self
          revert hwhite
          decide
      rw [withoutMark_of_hasMark hmark, isBlank_iff]
      exact hw
    · exact (isBlank_iff w).mpr hw

end Text

theorem LineIndex.isBlankDocument_ofText (t : Text) :
    (ofText t).isBlankDocument = Text.isBlank t.withoutMark :=
  Text.all_isBlank_lines t.withoutMark

/-! ## The rule about blank documents -/

namespace Rules

variable {x : LineIndex} {exempt : Text → Bool} {file : Text} {isFirst isLast : Bool} {p : Placed}
  {d : Diagnostic}

theorem rule_ne_of_mem_ofBlock (h : d ∈ ofBlock x exempt file isFirst isLast p) :
    d.rule ≠ Rule.emptyFile.id := by
  cases hfound : p.found with
  | none =>
    have hown := isOwn_of_not_found hfound h
    rw [Diagnostic.isOwn, Bool.or_eq_true, beq_iff_eq, beq_iff_eq] at hown
    rcases hown with hrule | hrule
    · rw [hrule]
      decide
    · rw [hrule]
      decide
  | some start =>
    have hlines : p.lines? x = some (start, Placed.lastLine x start p.block) :=
      (Placed.lines?_eq_some_iff _ _ _ _).mpr ⟨hfound, rfl⟩
    obtain ⟨r, habout⟩ := about_of_mem_ofBlock hlines h
    intro hrule
    rw [habout.eq_finding] at hrule
    exact habout.ne_emptyFile (Rule.id_injective hrule)

theorem rule_ne_of_mem_ofBlocks {ps : List Placed} (h : d ∈ ofBlocks x exempt file isFirst ps) :
    d.rule ≠ Rule.emptyFile.id := by
  obtain ⟨_, -, _, _, h⟩ := exists_of_mem_ofBlocks h
  exact rule_ne_of_mem_ofBlock h

theorem check_of_blank {σ : Type} (hdoc : x.isBlankDocument = true) (l : Locator σ) (state : σ)
    (exempt : Text → Bool) (file : Text) (bs : List Block) :
    check l state exempt file x bs = ⟨[], [Rule.emptyFile.finding file 0]⟩ := by
  rw [check, if_pos hdoc]

theorem reported_emptyFile_iff {σ : Type} (l : Locator σ) (state : σ) (bs : List Block) :
    (∃ d ∈ (check l state exempt file x bs).findings, d.rule = Rule.emptyFile.id) ↔
      x.isBlankDocument = true := by
  cases hdoc : x.isBlankDocument with
  | true =>
    rw [check_of_blank hdoc]
    exact ⟨fun _ => rfl, fun _ => ⟨_, List.mem_cons_self, rfl⟩⟩
  | false =>
    rw [check_of_content hdoc]
    constructor
    · rintro ⟨d, hd, hrule⟩
      exact absurd hrule (rule_ne_of_mem_ofBlocks hd)
    · rintro ⟨⟩

end Rules

/-- Only a blank document is checked without its blocks, and there they make no difference. -/
theorem Linter.findings_eq_check (exceptions : List Pattern) (file text : Text) :
    findings exceptions file text =
      (Rules.check (Locator.forward (LineIndex.ofText text)) () (isExempt exceptions) file
        (LineIndex.ofText text) (Markdown.blocks text)).findings := by
  unfold findings
  dsimp only
  cases hdoc : (LineIndex.ofText text).isBlankDocument with
  | true => rw [Rules.check_of_blank hdoc, Rules.check_of_blank hdoc]
  | false => rw [if_neg Bool.false_ne_true]

/-- A document is reported as empty if and only if it holds white space only, behind at most one byte
order mark. This is then its only finding, on line 0, and no block is searched, whatever blocks it is
said to have and however they would be searched. So the blocks of a blank document need not be read:
checking a text comes to the same as reading its blocks in any case, checking them and applying the
options. -/
theorem Rules.emptyFile_iff_blank (file text : Text) :
    let x := LineIndex.ofText text
    let blank := ∃ w : Text, (∀ c ∈ w, Text.isWhite c = true) ∧
      (text = w ∨ text = Text.byteOrderMark :: w)
    (∀ {σ : Type} (l : Locator σ) (state : σ) (exempt : Text → Bool) (bs : List Block),
      let o := check l state exempt file x bs
      ((∃ d ∈ o.findings, d.rule = Rule.emptyFile.id) ↔ blank) ∧
      (blank → o.findings = [Rule.emptyFile.finding file 0] ∧ o.searches = [])) ∧
    ∀ l : Linter,
      let always := (check (Locator.forward x) () (Linter.isExempt l.exceptions) file x
        (Markdown.blocks text)).findings
      Linter.findings l.exceptions file text = always ∧
      l.lintText file text = .ofFindings file (l.config.applyOptions always) := by
  intro x blank
  have hblank : x.isBlankDocument = true ↔ blank := by
    rw [LineIndex.isBlankDocument_ofText]
    exact Text.isBlank_withoutMark_iff text
  refine ⟨?_, ?_⟩
  · intro σ l state exempt bs o
    refine ⟨(reported_emptyFile_iff l state bs).trans hblank, fun h => ?_⟩
    have ho : o = ⟨[], [Rule.emptyFile.finding file 0]⟩ :=
      check_of_blank (hblank.mpr h) l state exempt file bs
    rw [ho]
    exact ⟨rfl, rfl⟩
  · intro l always
    have hfindings := Linter.findings_eq_check l.exceptions file text
    refine ⟨hfindings, ?_⟩
    rw [Linter.lintText, hfindings]

/-- A byte order mark, and a line that is blank although the reader of blocks sees a paragraph. -/
def noBreakPage : Text :=
  [Text.byteOrderMark, '\u00A0', '\r', '\n']

theorem Rules.emptyFile_iff_blank_noBreakPage :
    let x := LineIndex.ofText noBreakPage
    let linter : Linter := ⟨{ options := [("empty-file".toList, .level "info".toList)] }, [],
      ⟨[], [], []⟩⟩
    (Markdown.blocks noBreakPage).length = 1 ∧
      (check Locator.scripted [some 0] (fun _ => false) [] x (Markdown.blocks noBreakPage)).searches =
        [] ∧
      (linter.lintText "a.md".toList noBreakPage).diagnostics =
        [{ Rule.emptyFile.finding "a.md".toList 0 with severity := .info }] := by
  intro x linter
  obtain ⟨hcheck, -⟩ := emptyFile_iff_blank [] noBreakPage
  have hblank : ∃ w : Text, (∀ c ∈ w, Text.isWhite c = true) ∧
      (noBreakPage = w ∨ noBreakPage = Text.byteOrderMark :: w) :=
    ⟨noBreakPage.tail, List.all_eq_true.mp (by decide), .inr rfl⟩
  refine ⟨by decide +kernel, ?_, ?_⟩
  · exact ((hcheck Locator.scripted [some 0] (fun _ => false) _).2 hblank).2
  · obtain ⟨-, hreport⟩ := (emptyFile_iff_blank "a.md".toList noBreakPage).2 linter
    have hoptions : linter.config.applyOptions [Rule.emptyFile.finding "a.md".toList 0] =
        [{ Rule.emptyFile.finding "a.md".toList 0 with severity := .info }] := rfl
    rw [hreport, check_of_blank (by decide), hoptions]
    exact List.mergeSort_singleton _

end DocLint
