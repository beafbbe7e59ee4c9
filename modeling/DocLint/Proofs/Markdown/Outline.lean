import DocLint.Markdown.Outline
import DocLint.Proofs.Layout
import DocLint.Proofs.Markdown.Coverage

/-!
# What a block keeps of its lines

A block holds no line numbers, only the text of its first line and the number of its lines up to the
last that is not empty. Both are those of the lines of its node: the first line reads as the anchor,
and what a node has behind the span of its block is empty. The nodes of a document therefore give
sites for its blocks.
-/

namespace DocLint.Markdown

/-! ## Blank lines -/

theorem isWhite_of_isSpaceOrTab {c : Char} (h : isSpaceOrTab c = true) :
    Text.isWhite c = true := by
  rw [isSpaceOrTab, Bool.or_eq_true, beq_iff_eq, beq_iff_eq] at h
  rcases h with rfl | rfl
  · decide
  · decide

/-- What is blank for the reader is blank for the index. The converse fails: the reader knows only
spaces and tabs. -/
theorem isBlank_of_cursor {t : Text} (h : (Cursor.ofLine t).isBlank = true) :
    Text.isBlank t = true := by
  rw [Text.isBlank_iff]
  intro c hc
  exact isWhite_of_isSpaceOrTab (List.all_eq_true.mp h c hc)

/-! ## The lines of a node -/

theorem getElem?_sourceLines {lines : List Text} {first last i : Nat} (hi : first + i ≤ last) :
    (sourceLines lines first last)[i]? = lines[first + i]? := by
  rw [sourceLines, List.getElem?_take_of_lt (by omega), List.getElem?_drop]

theorem sourceLines_eq_cons {lines : List Text} {first last : Nat} {l : Text} (hle : first ≤ last)
    (hl : lines[first]? = some l) :
    sourceLines lines first last = l :: sourceLines lines (first + 1) last := by
  obtain ⟨hlt, rfl⟩ := List.getElem?_eq_some_iff.mp hl
  have hcount : last + 1 - first = last + 1 - (first + 1) + 1 := by omega
  rw [sourceLines, sourceLines, List.drop_eq_getElem_cons hlt, hcount, List.take_succ_cons]

theorem length_sourceLines {lines : List Text} {first last : Nat} (hlast : last < lines.length) :
    (sourceLines lines first last).length = last + 1 - first := by
  rw [sourceLines, List.length_take, List.length_drop]
  omega

theorem getLast?_sourceLines {lines : List Text} {first last : Nat} (hle : first ≤ last)
    (hlast : last < lines.length) : (sourceLines lines first last).getLast? = lines[last]? := by
  rw [List.getLast?_eq_getElem?, length_sourceLines hlast, getElem?_sourceLines (by omega)]
  congr 1
  omega

theorem Node.map_trim_source (lines : List Text) (n : Node) :
    (n.source lines).map Text.trim = (sourceLines lines n.first n.last).map Text.trim := by
  unfold Node.source
  generalize sourceLines lines n.first n.last = source
  simp only
  split
  · rw [List.map_cons, List.map_cons, Text.trim_dropWhile fun _ => isWhite_of_isSpaceOrTab]
  · rfl

/-- A node keeps the words of its lines. -/
theorem Node.trim_getElem?_source (lines : List Text) {n : Node} {i : Nat}
    (hi : n.first + i ≤ n.last) :
    ((n.source lines)[i]?).map Text.trim = (lines[n.first + i]?).map Text.trim := by
  rw [← List.getElem?_map, n.map_trim_source, List.getElem?_map, getElem?_sourceLines hi]

theorem Node.length_source {lines : List Text} {n : Node} (hlast : n.last < lines.length) :
    (n.source lines).length = n.last + 1 - n.first := by
  have htrim := congrArg List.length (n.map_trim_source lines)
  rwa [List.length_map, List.length_map, length_sourceLines hlast] at htrim

/-! ## Spans -/

theorem spanOf_pos (lines : List Text) : 0 < spanOf lines := by
  rw [spanOf]
  omega

theorem spanOf_le {lines : List Text} (h : lines ≠ []) : spanOf lines ≤ lines.length := by
  have hpos : 0 < lines.length := List.length_pos_iff.mpr h
  have hle := (List.dropWhile_suffix List.isEmpty (l := lines.reverse)).length_le
  rw [List.length_reverse] at hle
  rw [spanOf]
  omega

/-- The lines behind the span are empty. -/
theorem eq_nil_of_spanOf_le {lines : List Text} {l : Text} {i : Nat} (hi : spanOf lines ≤ i)
    (hl : lines[i]? = some l) : l = [] := by
  have hle : (lines.rdropWhile List.isEmpty).length ≤ i := by
    rw [List.rdropWhile, List.length_reverse]
    rw [spanOf] at hi
    omega
  rw [← List.rdropWhile_append_rtakeWhile (p := List.isEmpty) (l := lines),
    List.getElem?_append_right hle] at hl
  exact List.isEmpty_iff.mp (List.mem_rtakeWhile_imp (List.mem_of_getElem? hl))

/-! ## Blocks -/

section Block

variable (env : Env) {lines : List Text} {n : Node}

theorem span_blockOf_pos : 0 < (blockOf env lines n).span :=
  spanOf_pos _

/-- A block ends no later than its node. -/
theorem span_blockOf_le (hfirst : n.first ≤ n.last) (hlast : n.last < lines.length) :
    n.first + (blockOf env lines n).span ≤ n.last + 1 := by
  have hlen := Node.length_source hlast
  have hne : n.source lines ≠ [] := by
    rw [← List.length_pos_iff]
    omega
  have hspan : (blockOf env lines n).span ≤ (n.source lines).length := spanOf_le hne
  omega

theorem trim_anchor_blockOf (hfirst : n.first ≤ n.last) (hlast : n.last < lines.length) :
    (lines[n.first]?).map Text.trim = some (Text.trim (blockOf env lines n).anchor) := by
  have htrim := Node.trim_getElem?_source lines (i := 0) hfirst
  have hlen := Node.length_source hlast
  have hanchor : (blockOf env lines n).anchor = (n.source lines).head?.getD [] := rfl
  rw [hanchor]
  cases hsource : n.source lines with
  | nil =>
    rw [hsource, List.length_nil] at hlen
    omega
  | cons l ls =>
    rw [hsource] at htrim
    exact htrim.symm

theorem isBlank_first (hfirst : n.first ≤ n.last) (hlast : n.last < lines.length) :
    (LineIndex.mk lines).isBlank n.first = Text.isBlank (blockOf env lines n).anchor := by
  obtain ⟨l, hl, htrim⟩ := Option.map_eq_some_iff.mp (trim_anchor_blockOf env hfirst hlast)
  rw [LineIndex.isBlank_eq_of_line? hl, Text.isBlank_eq_of_trim_eq htrim]

/-- What a node has behind the span of its block is blank. -/
theorem isBlank_of_span_le {i : Nat} (hi : n.first + (blockOf env lines n).span ≤ i)
    (hlast : i ≤ n.last) : (LineIndex.mk lines).isBlank i = true := by
  have htrim := Node.trim_getElem?_source lines (n := n) (i := i - n.first) (by omega)
  rw [Nat.add_sub_cancel' (by omega)] at htrim
  cases hl : lines[i]? with
  | none => rw [LineIndex.isBlank, hl]
  | some l =>
    rw [hl, Option.map_some, Option.map_eq_some_iff] at htrim
    obtain ⟨l', hl', heq⟩ := htrim
    have hspan : spanOf (n.source lines) ≤ i - n.first := by
      change (blockOf env lines n).span ≤ i - n.first
      omega
    rw [LineIndex.isBlank_eq_of_line? hl, ← Text.isBlank_eq_of_trim_eq heq,
      eq_nil_of_spanOf_le hspan hl']
    rfl

end Block

end DocLint.Markdown
